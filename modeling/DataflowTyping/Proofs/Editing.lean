import DataflowTyping.Graph.Edit
import DataflowTyping.Proofs.Propagation

/-!
# What edits do

An edit alters nodes or links and then makes passes.  Passes keep the frame, so
everything about nodes and links that does not concern shapes and casts can be
read off the `altered` graph.
-/

namespace DataflowTyping

namespace Keyed

variable {Entry Key : Type} {key : Entry → Key} [DecidableEq Key] {entries : Keyed key}

theorem erase_of_not_mem {unwanted : Key} (unused : unwanted ∉ entries.keys) :
    entries.erase unwanted = entries := by
  ext1
  rw [toList_erase, List.filter_eq_self]
  intro entry member
  have differs : key entry ≠ unwanted := fun same => unused (same ▸ key_mem_keys member)
  exact decide_eq_true differs

end Keyed

namespace Graph

variable {graph first second : Graph} {start id : NodeId} {starts order : List NodeId} {link : Link}

def propagateEach (graph : Graph) (starts : List NodeId) : Graph :=
  starts.foldl (fun current start => (current.propagate start).value) graph

theorem sameFrame_propagateEach (graph : Graph) (starts : List NodeId) :
    (graph.propagateEach starts).SameFrame graph := by
  induction starts generalizing graph with
  | nil => exact .refl graph
  | cons start starts ih =>
      exact (ih (graph.propagate start).value).trans (sameFrame_propagate graph start)

/-- Propagation from several nodes settles everything downstream of one of them. -/
theorem Plugged.settledAt_propagateEach (plugged : graph.Plugged) (acyclic : graph.Acyclic)
    (concerned : (∃ start ∈ starts, id ∈ graph.downstream start) ∨ graph.SettledAt id) :
    (graph.propagateEach starts).SettledAt id := by
  induction starts generalizing graph with
  | nil => exact concerned.resolve_left (by simp)
  | cons start starts ih =>
      have frame := (sameFrame_propagate graph start).symm
      refine ih (frame.plugged plugged) (frame.acyclic acyclic) ?_
      simp only [List.mem_cons, exists_eq_or_imp, or_assoc] at concerned
      rcases concerned with here | later | settled
      · exact Or.inr (plugged.settledAt_propagate acyclic (Or.inl here))
      · obtain ⟨other, member, affected⟩ := later
        refine Or.inl ⟨other, member, ?_⟩
        rw [mem_downstream, ← frame.feeds]
        exact mem_downstream.mp affected
      · exact Or.inr (plugged.settledAt_propagate acyclic (Or.inr settled))

/-- The two nodes and ports between which a link may be made. -/
structure Admits (graph : Graph) (link : Link) (producer consumer : Node) (output input : Port) :
    Prop where
  producerFound : graph.node? link.source.node = some producer
  consumerFound : graph.node? link.target.node = some consumer
  outputFound : producer.port? link.source.port = some output
  inputFound : consumer.port? link.target.port = some input
  leaves : output.direction = .output
  enters : input.direction = .input
  fits : input.declared.accepts output.shape = true
  vacant : input.manyLinks = true ∨ graph.producerOf? link.target.port = none
  differ : link.source.node ≠ link.target.node
  noCircle : link.source.node ∉ graph.downstream link.target.node

/-- A link is not refused exactly if there are nodes and ports for it. -/
theorem refusal?_eq_none_iff :
    graph.refusal? link = none ↔
      ∃ producer consumer output input, graph.Admits link producer consumer output input := by
  constructor
  · intro accepted
    unfold refusal? at accepted
    split at accepted
    · contradiction
    · contradiction
    · rename_i producer consumer producerFound consumerFound
      split at accepted
      · contradiction
      · contradiction
      · rename_i output input outputFound inputFound
        split_ifs at accepted with misdirected misfits occupied isLoop closes
        rw [not_or, not_not, not_not] at misdirected
        refine ⟨producer, consumer, output, input, producerFound, consumerFound, outputFound,
          inputFound, misdirected.1, misdirected.2, by simpa using misfits, ?_, isLoop, closes⟩
        cases many : input.manyLinks with
        | true => exact Or.inl rfl
        | false => exact Or.inr (by simpa [many] using occupied)
  · rintro ⟨producer, consumer, output, input, admits⟩
    have notOccupied :
        ¬ (!input.manyLinks && (graph.producerOf? link.target.port).isSome) = true := by
      rcases admits.vacant with many | vacant
      · simp [many]
      · simp [vacant]
    simp only [refusal?, admits.producerFound, admits.consumerFound, admits.outputFound,
      admits.inputFound, admits.leaves, admits.enters, admits.fits, admits.differ,
      admits.noCircle, notOccupied, ne_eq, not_true_eq_false, or_self, Bool.not_true,
      Bool.false_eq_true, if_false]

/-- What an edit does to nodes and links, before anything is refreshed. -/
def altered (graph : Graph) : Edit → Graph
  | .add node => { graph with nodes := graph.nodes.insert node }
  | .remove id =>
      { graph with
        nodes := graph.nodes.erase id
        links := graph.links.filter fun link => !link.involves id }
  | .connect link =>
      if graph.refusal? link = none then { graph with links := graph.links.insert link } else graph
  | .disconnect id => { graph with links := graph.links.erase id }
  | .refresh _ | .refreshAll | .propagate _ => graph

/-- The nodes from which an edit propagates. -/
def disturbed (graph : Graph) : Edit → List NodeId
  | .remove id => if (graph.node? id).isSome then graph.consumersOf id else []
  | .connect link => if graph.refusal? link = none then [link.target.node] else []
  | .disconnect id => (graph.links.find? id).toList.map (·.target.node)
  | .propagate start => [start]
  | .add _ | .refresh _ | .refreshAll => []

theorem perform_add (graph : Graph) (node : Node) :
    graph.perform (.add node) =
      (fun settled => (settled.1, .added node.id)) <$>
        (graph.altered (.add node)).refresh node.id := by
  simp only [perform, add, altered, bind_pure_comp, Functor.map_map]

theorem perform_remove (graph : Graph) (id : NodeId) :
    graph.perform (.remove id) =
      (fun settled => (settled, .removed (graph.node? id))) <$>
        (graph.disturbed (.remove id)).foldlM propagate (graph.altered (.remove id)) := by
  cases found : graph.node? id with
  | none =>
      have unused : id ∉ graph.nodes.keys := Keyed.find?_eq_none_iff.mp found
      simp only [perform, remove, found, altered, disturbed, Keyed.erase_of_not_mem unused]
      rfl
  | some node =>
      simp [perform, remove, found, altered, disturbed]

theorem perform_connect_of_refused {error : LinkError}
    (refused : graph.refusal? link = some error) :
    graph.perform (.connect link) = ⟨(graph, .refused error), error.events⟩ := by
  simp only [perform, connect, refused]
  simp [bind, pure]

theorem perform_connect_of_accepted (accepted : graph.refusal? link = none) :
    graph.perform (.connect link) =
      (fun settled => (settled, .connected link.id)) <$>
        (graph.altered (.connect link)).propagate link.target.node := by
  simp only [perform, connect, accepted, altered, if_true, bind_map_left, bind_pure_comp]

theorem perform_disconnect (graph : Graph) (id : LinkId) :
    graph.perform (.disconnect id) =
      (fun settled => (settled, .disconnected (graph.links.find? id))) <$>
        (graph.disturbed (.disconnect id)).foldlM propagate (graph.altered (.disconnect id)) := by
  cases found : graph.links.find? id with
  | none =>
      have unused : id ∉ graph.links.keys := Keyed.find?_eq_none_iff.mp found
      simp only [perform, disconnect, found, altered, disturbed, Keyed.erase_of_not_mem unused]
      rfl
  | some link =>
      simp [perform, disconnect, found, altered, disturbed]

theorem perform_refresh (graph : Graph) (id : NodeId) :
    graph.perform (.refresh id) =
      (fun settled => (settled.1, .refreshed settled.2)) <$> graph.refresh id := by
  simp only [perform, bind_pure_comp]

theorem perform_refreshAll_of_some (found : graph.order? = some order) :
    graph.perform .refreshAll =
      (fun settled => (settled, .allRefreshed)) <$> graph.refreshEach order := by
  simp only [perform, refreshAll?, found, bind_map_left, bind_pure_comp]

theorem perform_refreshAll_of_none (absent : graph.order? = none) :
    graph.perform .refreshAll = pure (graph, .circular) := by
  simp only [perform, refreshAll?, absent, pure_bind]

theorem perform_propagate (graph : Graph) (start : NodeId) :
    graph.perform (.propagate start) =
      (fun settled => (settled, .propagated)) <$> graph.propagate start := by
  simp only [perform, bind_pure_comp]

theorem value_add (graph : Graph) (node : Node) :
    (graph.perform (.add node)).value.1 = (graph.altered (.add node)).renew node.id :=
  rfl

theorem value_remove (graph : Graph) (id : NodeId) :
    (graph.perform (.remove id)).value.1 =
      (graph.altered (.remove id)).propagateEach (graph.disturbed (.remove id)) := by
  rw [perform_remove]
  exact Traced.value_foldlM _ _ _

theorem value_connect (graph : Graph) (link : Link) :
    (graph.perform (.connect link)).value.1 =
      (graph.altered (.connect link)).propagateEach (graph.disturbed (.connect link)) := by
  cases refused : graph.refusal? link with
  | none =>
      rw [perform_connect_of_accepted refused, disturbed, if_pos refused]
      rfl
  | some error =>
      simp only [perform_connect_of_refused refused, altered, disturbed, refused, reduceCtorEq,
        if_false]
      rfl

theorem value_disconnect (graph : Graph) (id : LinkId) :
    (graph.perform (.disconnect id)).value.1 =
      (graph.altered (.disconnect id)).propagateEach (graph.disturbed (.disconnect id)) := by
  rw [perform_disconnect]
  exact Traced.value_foldlM _ _ _

theorem value_refresh (graph : Graph) (id : NodeId) :
    (graph.perform (.refresh id)).value.1 = graph.renew id :=
  rfl

theorem value_refreshAll (graph : Graph) :
    (graph.perform .refreshAll).value.1 = graph.renewEach (graph.order?.getD []) := by
  cases found : graph.order? with
  | none =>
      rw [perform_refreshAll_of_none found]
      rfl
  | some order =>
      rw [perform_refreshAll_of_some found]
      exact value_refreshEach graph order

/-- Apart from shapes and casts an edit does what it does to nodes and links. -/
theorem sameFrame_perform (graph : Graph) (edit : Edit) :
    (graph.perform edit).value.1.SameFrame (graph.altered edit) := by
  cases edit with
  | add node =>
      rw [value_add]
      exact sameFrame_renew _ node.id
  | remove id =>
      rw [value_remove]
      exact sameFrame_propagateEach _ _
  | connect link =>
      rw [value_connect]
      exact sameFrame_propagateEach _ _
  | disconnect id =>
      rw [value_disconnect]
      exact sameFrame_propagateEach _ _
  | refresh id => exact sameFrame_renew graph id
  | refreshAll =>
      rw [value_refreshAll]
      exact sameFrame_renewEach graph _
  | propagate start => exact sameFrame_propagate graph start

end Graph

end DataflowTyping
