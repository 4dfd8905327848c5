import DataflowTyping.Keyed
import DataflowTyping.Link
import DataflowTyping.Node
import DataflowTyping.Settings

/-!
# Graphs

A graph holds nodes and the links between them, each in the order in which they
were added.
-/

namespace DataflowTyping

/-- Nodes and the links between them. -/
structure Graph where
  name : String := "Untitled"
  settings : Settings := {}
  nodes : Keyed Node.id := .empty
  links : Keyed Link.id := .empty
  deriving DecidableEq

namespace Graph

def node? (graph : Graph) (id : NodeId) : Option Node :=
  graph.nodes.find? id

/-- The links at whose ends a node stands. -/
def linksOf (graph : Graph) (node : NodeId) : List Link :=
  graph.links.toList.filter fun link => link.involves node

/-- The first link into an input, found by the identifier of the port alone. -/
def producerOf? (graph : Graph) (port : PortId) : Option Link :=
  graph.links.toList.find? fun link => link.target.port = port

/-- The nodes from which links lead to a node, one entry for each link. -/
def producersOf (graph : Graph) (node : NodeId) : List NodeId :=
  (graph.links.toList.filter fun link => link.target.node = node).map (·.source.node)

/-- The nodes to which links lead from a node, one entry for each link. -/
def consumersOf (graph : Graph) (node : NodeId) : List NodeId :=
  (graph.links.toList.filter fun link => link.source.node = node).map (·.target.node)

/-- The shape that the producer of an input gives, if the input has one. -/
def carried? (graph : Graph) (port : PortId) : Option Shape := do
  let link ← graph.producerOf? port
  let producer ← graph.node? link.source.node
  let output ← producer.port? link.source.port
  return output.shape

/-- For each input of a node, the shape that its producer gives. -/
def incoming (graph : Graph) (node : Node) : List (Option Shape) :=
  node.inputs.map fun port => graph.carried? port.id

end Graph

end DataflowTyping
