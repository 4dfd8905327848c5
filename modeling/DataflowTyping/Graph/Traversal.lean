import DataflowTyping.Graph
import DataflowTyping.Search.Breadth
import DataflowTyping.Search.Depth

/-!
# Downstream nodes and the order of refreshes

A change at a node concerns the nodes downstream of it, and these are refreshed
producers first.
-/

namespace DataflowTyping

namespace Graph

/-- A node and every node to which links lead from it, directly or through others. -/
def downstream (graph : Graph) (start : NodeId) : List NodeId :=
  let targets := (graph.links.toList.map (·.target.node)).eraseDups
  Search.spread (fun producer consumer => consumer ∈ graph.consumersOf producer)
    (targets.filter fun node => node ≠ start) [start] [start]

/-- All nodes, each after its producers, unless links run in a circle. -/
def order? (graph : Graph) : Option (List NodeId) :=
  Search.postorder? graph.producersOf
    (graph.nodes.keys ++ graph.links.toList.map (·.source.node)) graph.nodes.keys

end Graph

end DataflowTyping
