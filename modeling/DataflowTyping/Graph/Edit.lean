import DataflowTyping.Graph.Refresh

/-!
# Editing a graph

Nodes are added and removed, links are made and taken away, and after every
edit the nodes that it concerns are refreshed.  Identifiers are chosen by the
caller.  `perform` does any one edit, and `run` a sequence of them.
-/

namespace DataflowTyping

namespace Graph

/-- Add a node, or put it in the place of the one with its identifier, and refresh it. -/
def add (graph : Graph) (node : Node) : Traced Graph :=
  Prod.fst <$> { graph with nodes := graph.nodes.insert node }.refresh node.id

/-- Remove a node with its links and refresh everything that it fed. -/
def remove (graph : Graph) (id : NodeId) : Traced (Graph × Option Node) :=
  let unlinked := { graph with links := graph.links.filter fun link => !link.involves id }
  match graph.node? id with
  | none => pure (unlinked, none)
  | some node => do
      let settled ← (graph.consumersOf id).foldlM propagate
        { unlinked with nodes := graph.nodes.erase id }
      return (settled, some node)

/-- The first reason for which a link is refused, if there is one. -/
def refusal? (graph : Graph) (link : Link) : Option LinkError :=
  match graph.node? link.source.node, graph.node? link.target.node with
  | none, _ => some (.nodeNotFound link.source.node)
  | some _, none => some (.nodeNotFound link.target.node)
  | some producer, some consumer =>
      match producer.port? link.source.port, consumer.port? link.target.port with
      | none, _ => some (.portNotFound link.source.port)
      | some _, none => some (.portNotFound link.target.port)
      | some output, some input =>
          if output.direction ≠ .output ∨ input.direction ≠ .input then
            some .wrongDirection
          else if !input.declared.accepts output.shape then
            some (.shapesDiffer output.shape input.declared consumer.name)
          else if !input.manyLinks && (graph.producerOf? link.target.port).isSome then
            some (.occupied link.target.port)
          else if link.source.node = link.target.node then
            some .selfLoop
          else if link.source.node ∈ graph.downstream link.target.node then
            some .cycle
          else
            none

/-- Make a link, unless it is refused, and refresh everything downstream of it. -/
def connect (graph : Graph) (link : Link) : Traced (Except LinkError Graph) :=
  match graph.refusal? link with
  | some error => ⟨.error error, error.events⟩
  | none =>
      Except.ok <$> { graph with links := graph.links.insert link }.propagate link.target.node

/-- Take a link away and refresh everything downstream of it. -/
def disconnect (graph : Graph) (id : LinkId) : Traced (Graph × Option Link) :=
  match graph.links.find? id with
  | none => pure (graph, none)
  | some link => do
      let settled ← { graph with links := graph.links.erase id }.propagate link.target.node
      return (settled, some link)

end Graph

inductive Edit where
  | add (node : Node)
  | remove (node : NodeId)
  | connect (link : Link)
  | disconnect (link : LinkId)
  | refresh (node : NodeId)
  | refreshAll
  | propagate (start : NodeId)
  deriving DecidableEq

/-- What an edit gives back. -/
inductive Outcome where
  | added (node : NodeId)
  | removed (node : Option Node)
  | connected (link : LinkId)
  | refused (error : LinkError)
  | disconnected (link : Option Link)
  | refreshed (resolution : Option Resolution)
  | allRefreshed
  /-- Links run in a circle, so there is no order in which to refresh all nodes. -/
  | circular
  | propagated
  deriving DecidableEq

namespace Graph

def perform (graph : Graph) : Edit → Traced (Graph × Outcome)
  | .add node => do
      let edited ← graph.add node
      return (edited, .added node.id)
  | .remove node => do
      let (edited, removed) ← graph.remove node
      return (edited, .removed removed)
  | .connect link => do
      match ← graph.connect link with
      | .ok edited => return (edited, .connected link.id)
      | .error error => return (graph, .refused error)
  | .disconnect link => do
      let (edited, removed) ← graph.disconnect link
      return (edited, .disconnected removed)
  | .refresh node => do
      let (edited, resolution) ← graph.refresh node
      return (edited, .refreshed resolution)
  | .refreshAll => do
      match ← graph.refreshAll? with
      | some edited => return (edited, .allRefreshed)
      | none => return (graph, .circular)
  | .propagate start => do
      let edited ← graph.propagate start
      return (edited, .propagated)

/-- Do edits from left to right and collect what they give back. -/
def run (graph : Graph) : List Edit → Traced (Graph × List Outcome)
  | [] => pure (graph, [])
  | edit :: edits => do
      let (edited, outcome) ← graph.perform edit
      let (final, outcomes) ← edited.run edits
      return (final, outcome :: outcomes)

end Graph

end DataflowTyping
