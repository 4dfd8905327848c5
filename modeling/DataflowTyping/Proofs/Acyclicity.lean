import DataflowTyping.Proofs.Upkeep

/-!
# Links never run in a circle

Whatever edits are made, both ends of every link are nodes of the graph and no
path of links leads back to where it started.  A new link could close a circle
only if its producer were downstream of its consumer, and then it is refused.
Hence there is always an order of the nodes, and nothing ever fails for want of
one.
-/

namespace DataflowTyping

open Relation

namespace Traced

variable {First : Type}

/-- No event says that links run in a circle. -/
def NeverCircular (traced : Traced First) : Prop :=
  ∀ start, Event.circular start ∉ traced.events

theorem Ensures.neverCircular {holds : First → Prop} {traced : Traced First}
    (ensures : traced.Ensures holds fun event => ∀ start, event ≠ .circular start) :
    traced.NeverCircular :=
  fun start member => ensures.events _ member start rfl

end Traced

namespace Graph

variable {graph first second : Graph} {id : NodeId}

/-- Both ends of every link are nodes, and links do not run in a circle. -/
structure Layered (graph : Graph) : Prop where
  joined : graph.Joined
  acyclic : graph.Acyclic

theorem SameFrame.layered (frame : first.SameFrame second) (layered : first.Layered) :
    second.Layered :=
  ⟨frame.joined layered.joined, frame.acyclic layered.acyclic⟩

theorem Acyclic.of_subset (acyclic : first.Acyclic)
    (subset : second.links.toList ⊆ first.links.toList) : second.Acyclic := by
  intro node circle
  refine acyclic node (TransGen.mono ?_ _ _ circle)
  rintro producer consumer ⟨link, member, ends⟩
  exact ⟨link, subset member, ends⟩

/-- A path that may use one more link is a path without it or leads through it. -/
theorem transGen_feeds_of_insert {link : Link} {origin goal : NodeId}
    (path : TransGen (fun producer consumer => graph.Feeds producer consumer ∨
      (producer = link.source.node ∧ consumer = link.target.node)) origin goal) :
    TransGen graph.Feeds origin goal ∨
      (ReflTransGen graph.Feeds origin link.source.node ∧
        ReflTransGen graph.Feeds link.target.node goal) := by
  induction path with
  | single step =>
      rcases step with feeds | ⟨rfl, rfl⟩
      · exact Or.inl (.single feeds)
      · exact Or.inr ⟨.refl, .refl⟩
  | tail _ step ih =>
      rcases step with feeds | ⟨rfl, rfl⟩
      · rcases ih with without | ⟨toSource, fromTarget⟩
        · exact Or.inl (without.tail feeds)
        · exact Or.inr ⟨toSource, fromTarget.tail feeds⟩
      · rcases ih with without | ⟨toSource, -⟩
        · exact Or.inr ⟨without.to_reflTransGen, .refl⟩
        · exact Or.inr ⟨toSource, .refl⟩

/-- A link makes no circle unless its producer is downstream of its consumer. -/
theorem Acyclic.insert (acyclic : graph.Acyclic) {link : Link}
    (noCircle : link.source.node ∉ graph.downstream link.target.node) :
    Acyclic { graph with links := graph.links.insert link } := by
  intro node circle
  have widened : TransGen (fun producer consumer => graph.Feeds producer consumer ∨
      (producer = link.source.node ∧ consumer = link.target.node)) node node := by
    refine TransGen.mono ?_ _ _ circle
    rintro producer consumer ⟨other, member, source, target⟩
    rcases Keyed.mem_toList_insert.mp member with rfl | ⟨old, -⟩
    · exact Or.inr ⟨source.symm, target.symm⟩
    · exact Or.inl ⟨other, old, source, target⟩
  rcases transGen_feeds_of_insert widened with old | ⟨toSource, fromTarget⟩
  · exact acyclic node old
  · exact noCircle (mem_downstream.mpr (fromTarget.trans toSource))

/-- What an edit does to nodes and links makes no circle and leaves no end loose. -/
theorem Layered.altered (layered : graph.Layered) (edit : Edit) : (graph.altered edit).Layered := by
  cases edit with
  | add node =>
      refine ⟨fun link member => ?_, layered.acyclic⟩
      obtain ⟨source, target⟩ := layered.joined link member
      exact ⟨Keyed.mem_keys_insert.mpr (Or.inr source), Keyed.mem_keys_insert.mpr (Or.inr target)⟩
  | remove id =>
      refine ⟨fun link member => ?_, layered.acyclic.of_subset fun _ => List.mem_of_mem_filter⟩
      rw [Graph.altered, Keyed.toList_filter, List.mem_filter] at member
      obtain ⟨source, target⟩ := layered.joined link member.1
      have uninvolved : link.source.node ≠ id ∧ link.target.node ≠ id := by
        simpa [Link.involves] using member.2
      exact ⟨Keyed.mem_keys_erase.mpr ⟨uninvolved.1, source⟩,
        Keyed.mem_keys_erase.mpr ⟨uninvolved.2, target⟩⟩
  | connect link =>
      rw [Graph.altered]
      split_ifs with accepted
      · obtain ⟨producer, consumer, output, input, admits⟩ := refusal?_eq_none_iff.mp accepted
        refine ⟨fun other member => ?_, layered.acyclic.insert admits.noCircle⟩
        rcases Keyed.mem_toList_insert.mp member with rfl | ⟨old, -⟩
        · exact ⟨Keyed.mem_keys_iff_find?.mpr ⟨producer, admits.producerFound⟩,
            Keyed.mem_keys_iff_find?.mpr ⟨consumer, admits.consumerFound⟩⟩
        · exact layered.joined other old
      · exact layered
  | disconnect id =>
      exact ⟨fun link member => layered.joined link (List.mem_of_mem_filter member),
        layered.acyclic.of_subset fun _ => List.mem_of_mem_filter⟩
  | refresh id => exact layered
  | refreshAll => exact layered
  | propagate start => exact layered

theorem Layered.perform (layered : graph.Layered) (edit : Edit) :
    (graph.perform edit).value.1.Layered :=
  (sameFrame_perform graph edit).symm.layered (layered.altered edit)

theorem Layered.exists_order (layered : graph.Layered) :
    ∃ order, graph.order? = some order ∧ graph.Orders order :=
  layered.joined.exists_order layered.acyclic

/-- What a node takes over from all nodes that feed it holds of every node. -/
theorem Layered.forall_node (layered : graph.Layered) {holds : Node → Prop}
    (step : ∀ node ∈ graph.nodes.toList,
      (∀ producer ∈ graph.nodes.toList, graph.Feeds producer.id node.id → holds producer) →
        holds node) :
    ∀ node ∈ graph.nodes.toList, holds node := by
  obtain ⟨order, -, orders⟩ := layered.exists_order
  have alongOrder : ∀ id ∈ order, ∀ node, graph.node? id = some node → holds node := by
    refine orders.sorted.forall_mem fun id earlier node found => ?_
    refine step node (mem_of_node? found) fun producer member feeds => ?_
    rw [id_of_node? found] at feeds
    exact earlier producer.id (mem_producersOf.mpr feeds) producer (node?_of_mem member)
  intro node member
  exact alongOrder node.id ((orders.mem_iff node.id).mpr (Keyed.key_mem_keys member)) node
    (node?_of_mem member)

namespace Layered

theorem propagate (layered : graph.Layered) (start : NodeId) :
    (graph.propagate start).value.Layered :=
  (sameFrame_propagate graph start).symm.layered layered

theorem outcome_ne_circular (layered : graph.Layered) (edit : Edit) :
    (graph.perform edit).value.2 ≠ .circular := by
  cases edit with
  | connect link =>
      rw [Graph.perform, Traced.value_bind]
      cases (graph.connect link).value <;> exact Outcome.noConfusion
  | refreshAll =>
      obtain ⟨order, found, -⟩ := layered.exists_order
      rw [perform_refreshAll_of_some found]
      exact Outcome.noConfusion
  | add | remove | disconnect | refresh | propagate => exact Outcome.noConfusion

theorem ensures_refresh (layered : graph.Layered) (id : NodeId) :
    (graph.refresh id).Ensures (fun settled => settled.1.Layered)
      fun event => ∀ start, event ≠ .circular start := by
  refine ⟨(sameFrame_renew graph id).symm.layered layered, ?_⟩
  unfold refresh
  split
  · exact fun event member => absurd member List.not_mem_nil
  · split
    · exact fun event member => absurd member List.not_mem_nil
    · rintro event member start rfl
      simp [Snapshot.report, Snapshot.joinReport] at member

/-- There is an order to refresh by, so that no edit reports a circle. -/
theorem ensures_perform (layered : graph.Layered) (edit : Edit) :
    (graph.perform edit).Ensures
      (fun settled => settled.1.Layered ∧ settled.2 ≠ .circular)
      fun event => ∀ start, event ≠ .circular start := by
  have ensures : (graph.perform edit).Ensures (fun settled => settled.1.Layered)
      fun event => ∀ start, event ≠ .circular start := by
    refine Graph.ensures_perform (fun graph id layered => ensures_refresh layered id) ?_
      (layered.altered edit) ?_
    · intro graph start layered noOrder
      obtain ⟨order, found, -⟩ := layered.exists_order
      exact absurd (noOrder.symm.trans found) (Option.some_ne_none order).symm
    · rintro link error - - event member start rfl
      cases error <;> simp [LinkError.events] at member
  exact ⟨⟨ensures.value, layered.outcome_ne_circular edit⟩, ensures.events⟩

/-- No run of edits fails for want of an order. -/
theorem run (layered : graph.Layered) (edits : List Edit) :
    (graph.run edits).value.1.Layered ∧ (graph.run edits).NeverCircular ∧
      Outcome.circular ∉ (graph.run edits).value.2 := by
  have along : graph.Along (fun _ _ => True) edits := along_of_forall (fun _ _ => trivial) _ _
  have ensures : (graph.run edits).Ensures
      (fun settled => settled.1.Layered ∧ ∀ outcome ∈ settled.2, outcome ≠ .circular)
      fun event => ∀ start, event ≠ .circular start :=
    along.ensures_run (fun _ edit layered _ => ensures_perform layered edit) layered
  exact ⟨ensures.value.1, ensures.neverCircular, fun member => ensures.value.2 _ member rfl⟩

end Layered

def blank (name : String) (settings : Settings) : Graph :=
  { name := name, settings := settings }

theorem layered_blank (name : String) (settings : Settings) : (blank name settings).Layered := by
  refine ⟨fun link member => absurd member List.not_mem_nil, fun node circle => ?_⟩
  obtain ⟨_, ⟨link, member, -⟩, -⟩ := TransGen.head'_iff.mp circle
  exact absurd member List.not_mem_nil

/--
Whatever edits were made: links join nodes of the graph and never run in a
circle, and there is an order of the nodes in which each stands once and behind
its producers, so that no edit ever reports a circle.
-/
theorem order?_run (name : String) (settings : Settings) (edits : List Edit) :
    let history := (blank name settings).run edits
    let graph := history.value.1
    (∀ link ∈ graph.links.toList,
      link.source.node ∈ graph.nodes.keys ∧ link.target.node ∈ graph.nodes.keys) ∧
    (∀ node, ¬ TransGen graph.Feeds node node) ∧
    (∃ order, graph.order? = some order ∧ order.Nodup ∧
      (∀ node, node ∈ order ↔ node ∈ graph.nodes.keys) ∧
      ∀ link ∈ graph.links.toList,
        order.idxOf link.source.node < order.idxOf link.target.node) ∧
    (∀ start, Event.circular start ∉ history.events) ∧ Outcome.circular ∉ history.value.2 := by
  intro history graph
  obtain ⟨layered, quiet, outcomes⟩ := (layered_blank name settings).run edits
  obtain ⟨order, found, orders⟩ := layered.exists_order
  refine ⟨layered.joined, layered.acyclic, ⟨order, found, orders.sorted.nodup, orders.mem_iff, ?_⟩,
    quiet, outcomes⟩
  intro link member
  refine orders.sorted.idxOf_lt_idxOf (mem_producersOf.mpr ⟨link, member, rfl, rfl⟩) ?_
  exact (orders.mem_iff _).mpr (layered.joined link member).2

end Graph

end DataflowTyping
