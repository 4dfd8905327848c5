import DataflowTyping.Graph.Traversal
import DataflowTyping.Node.Refresh

/-!
# Refreshing a graph

A refresh of a node reads the shapes that its producers give and finds its own
shapes anew.  `propagate` does this for everything downstream of a node, and
`refreshAll?` for the whole graph, producers first.
-/

namespace DataflowTyping

namespace Graph

/-- Refresh a node.  Nothing happens to a missing node and to one with fixed shapes. -/
def refresh (graph : Graph) (id : NodeId) : Traced (Graph × Option Resolution) :=
  match graph.node? id with
  | none => pure (graph, none)
  | some node =>
      match node.inference with
      | .fixed => pure (graph, none)
      | .arithmetic locked =>
          let incoming := graph.incoming node
          let seen := node.seen locked incoming
          { value :=
              ({ graph with nodes := graph.nodes.insert (node.refreshed locked incoming) },
                some seen.resolution)
            events := seen.report graph.settings (some node.name) }

def refreshEach (graph : Graph) (ids : List NodeId) : Traced Graph :=
  ids.foldlM (fun current id => Prod.fst <$> current.refresh id) graph

/-- Refresh every node, producers first, unless links run in a circle. -/
def refreshAll? (graph : Graph) : Traced (Option Graph) :=
  match graph.order? with
  | none => pure none
  | some order => some <$> graph.refreshEach order

/-- Refresh a node and everything downstream of it, producers first. -/
def propagate (graph : Graph) (start : NodeId) : Traced Graph :=
  match graph.order? with
  | none => ⟨graph, [.circular start]⟩
  | some order =>
      let affected := graph.downstream start
      graph.refreshEach (order.filter fun id => id ∈ affected)

end Graph

end DataflowTyping
