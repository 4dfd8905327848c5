import DataflowTyping.Proofs.ArithmeticRun
import DataflowTyping.Proofs.Undoing

/-!
# Removing a node or unwiring it first

A removal drops all links at the node at once and then propagates from every node
that it fed, one after the other.  One may as well take the links away one by one,
in any order, each with a propagation of its own, and then take out the node, which
no longer feeds anything.  The shapes in between are different, but both ways lead
to steady graphs of the same frame, and what is fixed there comes from the graph at
the start.
-/

namespace DataflowTyping

namespace Graph

variable {graph original first second : Graph} {id : NodeId} {node : Node} {edit : Edit}
  {ids : List LinkId}

def keeping (graph : Graph) (keep : Link → Bool) : Graph :=
  { graph with links := graph.links.filter keep }

theorem keeping_congr {keep alsoKeep : Link → Bool}
    (same : ∀ link ∈ graph.links.toList, keep link = alsoKeep link) :
    graph.keeping keep = graph.keeping alsoKeep := by
  have sameLinks : graph.links.filter keep = graph.links.filter alsoKeep :=
    Keyed.ext (List.filter_congr same)
  rw [keeping, keeping, sameLinks]

theorem keeping_of_forall {keep : Link → Bool}
    (all : ∀ link ∈ graph.links.toList, keep link = true) : graph.keeping keep = graph := by
  have sameLinks : graph.links.filter keep = graph.links :=
    Keyed.ext (List.filter_eq_self.mpr all)
  rw [keeping, sameLinks]

theorem keeping_keeping (graph : Graph) (keep alsoKeep : Link → Bool) :
    (graph.keeping keep).keeping alsoKeep =
      graph.keeping fun link => keep link && alsoKeep link := by
  have sameLinks : (graph.links.filter keep).filter alsoKeep =
      graph.links.filter fun link => keep link && alsoKeep link := by
    ext1
    simp only [Keyed.toList_filter, List.filter_filter, Bool.and_comm]
  exact congrArg (fun links => { graph with links := links }) sameLinks

theorem SameFrame.keeping (frame : first.SameFrame second) (keep : Link → Bool) :
    (first.keeping keep).SameFrame (second.keeping keep) :=
  ⟨frame.name, frame.settings, congrArg (Keyed.filter keep) frame.links, frame.blanks⟩

theorem altered_remove (graph : Graph) (id : NodeId) :
    graph.altered (.remove id) =
      { graph.keeping (fun link => !link.involves id) with nodes := graph.nodes.erase id } :=
  rfl

theorem altered_remove_keeping (graph : Graph) (id : NodeId) :
    (graph.keeping fun link => !link.involves id).altered (.remove id) =
      graph.altered (.remove id) := by
  rw [altered_remove, keeping_keeping, altered_remove]
  simp only [Bool.and_self]
  rfl

theorem map_blank_erase (graph : Graph) (id : NodeId) :
    (graph.nodes.erase id).toList.map Node.blank =
      (graph.nodes.toList.map Node.blank).filter fun node => node.id ≠ id := by
  rw [Keyed.toList_erase, List.filter_map]
  rfl

theorem SameFrame.altered_remove (frame : first.SameFrame second) (id : NodeId) :
    (first.altered (.remove id)).SameFrame (second.altered (.remove id)) where
  name := frame.name
  settings := frame.settings
  links := (frame.keeping fun link => !link.involves id).links
  blanks := by
    rw [altered, altered, map_blank_erase, map_blank_erase, frame.blanks]

/-- Every node is one of the original graph, up to what refreshes write. -/
def ComesFrom (graph original : Graph) : Prop :=
  graph.Everywhere fun node => ∃ old ∈ original.nodes.toList, old.PersistsAs node

theorem comesFrom_refl (graph : Graph) : graph.ComesFrom graph :=
  fun node member => ⟨node, member, .refl node⟩

theorem ComesFrom.perform (comes : graph.ComesFrom original) (addsNone : ∀ node, edit ≠ .add node) :
    (graph.perform edit).value.1.ComesFrom original := by
  refine Everywhere.perform ?_ ?_ comes
  · exact fun graph node ⟨old, member, persists⟩ => ⟨old, member, persists.renewed graph⟩
  · exact fun node isAdd => absurd isAdd (addsNone node)

theorem ComesFrom.mem_of_fixed (comes : graph.ComesFrom original)
    (member : node ∈ graph.nodes.toList) (fixed : node.inference = .fixed) :
    node ∈ original.nodes.toList := by
  obtain ⟨old, oldMember, persists⟩ := comes node member
  have oldFixed : old.inference = .fixed := by
    rw [← Node.inference_eq_of_blank_eq persists.blank, fixed]
  rw [persists.fixed oldFixed]
  exact oldMember

/-- Steady graphs of the same frame that come from one graph are equal. -/
theorem Steady.eq_of_comesFrom (firstSteady : first.Steady) (secondSteady : second.Steady)
    (frame : first.SameFrame second) (firstComes : first.ComesFrom original)
    (secondComes : second.ComesFrom original) : first = second := by
  refine firstSteady.eq_of_sameFrame secondSteady frame fun node member fixed => ?_
  obtain ⟨counterpart, otherMember, sameBlank⟩ := frame.exists_node member
  have otherFixed : counterpart.inference = .fixed := by
    rw [Node.inference_eq_of_blank_eq sameBlank, fixed]
  have isCounterpart : node = counterpart :=
    List.inj_on_of_nodup_map original.nodes.distinct (firstComes.mem_of_fixed member fixed)
      (secondComes.mem_of_fixed otherMember otherFixed) (Node.id_eq_of_blank_eq sameBlank.symm)
  rw [isCounterpart]
  exact otherMember

/-- The graph after links were taken away from left to right. -/
def unlinked (graph : Graph) (ids : List LinkId) : Graph :=
  (graph.run (ids.map .disconnect)).value.1

theorem unlinked_cons (graph : Graph) (id : LinkId) (ids : List LinkId) :
    graph.unlinked (id :: ids) = (graph.perform (.disconnect id)).value.1.unlinked ids :=
  rfl

theorem sameFrame_unlinked (graph : Graph) (ids : List LinkId) :
    (graph.unlinked ids).SameFrame (graph.keeping fun link => link.id ∉ ids) := by
  induction ids generalizing graph with
  | nil =>
      rw [keeping_of_forall fun link _ => decide_eq_true List.not_mem_nil]
      exact .refl graph
  | cons id ids ih =>
      have first : (graph.perform (.disconnect id)).value.1.SameFrame
          (graph.keeping fun link => link.id ≠ id) := sameFrame_perform graph (.disconnect id)
      have both := (ih _).trans (first.keeping fun link => link.id ∉ ids)
      rw [keeping_keeping] at both
      rw [unlinked_cons]
      convert both using 2
      funext link
      simp [List.mem_cons, not_or]

theorem ComesFrom.unlinked (comes : graph.ComesFrom original) (ids : List LinkId) :
    (graph.unlinked ids).ComesFrom original := by
  induction ids generalizing graph with
  | nil => exact comes
  | cons id ids ih =>
      have addsNone : ∀ node, Edit.disconnect id ≠ .add node := fun _ => Edit.noConfusion
      exact ih (comes.perform addsNone)

theorem Steady.unlinked (steady : graph.Steady) (ids : List LinkId) :
    (graph.unlinked ids).Steady := by
  induction ids generalizing graph with
  | nil => exact steady
  | cons id ids ih =>
      have disconnects : (Edit.disconnect id).Novel graph := trivial
      exact ih (steady.perform disconnects)

section Unwired

variable (all : ids.Perm ((graph.linksOf id).map Link.id))

include all

theorem mem_iff_involves {link : Link} (member : link ∈ graph.links.toList) :
    link.id ∈ ids ↔ link.involves id = true := by
  rw [all.mem_iff, List.mem_map]
  constructor
  · rintro ⟨other, isOther, sameId⟩
    obtain ⟨otherMember, involved⟩ := List.mem_filter.mp isOther
    have isLink : other = link :=
      List.inj_on_of_nodup_map graph.links.distinct otherMember member sameId
    exact isLink ▸ involved
  · exact fun involved => ⟨link, List.mem_filter.mpr ⟨member, involved⟩, rfl⟩

/-- Taking all links at a node away leaves those at which it does not stand. -/
theorem sameFrame_unwired :
    (graph.unlinked ids).SameFrame (graph.keeping fun link => !link.involves id) := by
  have same : (graph.keeping fun link => link.id ∉ ids) =
      graph.keeping fun link => !link.involves id := by
    refine keeping_congr fun link member => ?_
    rw [Bool.eq_iff_iff, decide_eq_true_eq, mem_iff_involves all member, Bool.not_eq_true',
      Bool.not_eq_true]
  exact same ▸ sameFrame_unlinked graph ids

theorem not_involves_unwired {link : Link} (member : link ∈ (graph.unlinked ids).links.toList) :
    link.involves id = false := by
  rw [(sameFrame_unwired all).links] at member
  simpa using (List.mem_filter.mp member).2

/-- A node without links is taken out, and nothing else happens. -/
theorem value_remove_unwired :
    ((graph.unlinked ids).perform (.remove id)).value.1 =
      { graph.unlinked ids with nodes := (graph.unlinked ids).nodes.erase id } := by
  have noConsumers : (graph.unlinked ids).consumersOf id = [] := by
    rw [List.eq_nil_iff_forall_not_mem]
    intro consumer isConsumer
    obtain ⟨link, member, isSource, -⟩ := mem_consumersOf.mp isConsumer
    have uninvolved := not_involves_unwired all member
    simp [Link.involves, isSource] at uninvolved
  have undisturbed : (graph.unlinked ids).disturbed (.remove id) = [] := by
    rw [disturbed, noConsumers, ite_self]
  have kept : (graph.unlinked ids).keeping (fun link => !link.involves id) = graph.unlinked ids :=
    keeping_of_forall fun link member => by rw [not_involves_unwired all member, Bool.not_false]
  rw [value_remove, undisturbed, altered_remove, kept]
  rfl

/-- Removing a node does the same before and after it is unwired. -/
theorem Steady.remove_unwired (steady : graph.Steady) :
    (graph.perform (.remove id)).value.1 =
      ((graph.unlinked ids).perform (.remove id)).value.1 := by
  have removes {current : Graph} : (Edit.remove id).Novel current := trivial
  have addsNone : ∀ node, Edit.remove id ≠ .add node := fun _ => Edit.noConfusion
  have unwiredFrame : ((graph.unlinked ids).altered (.remove id)).SameFrame
      (graph.altered (.remove id)) := by
    rw [← altered_remove_keeping graph]
    exact (sameFrame_unwired all).altered_remove id
  have frame := (sameFrame_perform graph (.remove id)).trans
    (unwiredFrame.symm.trans (sameFrame_perform (graph.unlinked ids) (.remove id)).symm)
  have comes := comesFrom_refl graph
  exact (steady.perform removes).eq_of_comesFrom ((steady.unlinked ids).perform removes) frame
    (comes.perform addsNone) ((comes.unlinked ids).perform addsNone)

end Unwired

theorem Joined.remove_of_absent (joined : graph.Joined) (absent : graph.node? id = none) :
    (graph.perform (.remove id)).value = (graph, .removed none) := by
  have unused : id ∉ graph.nodes.keys := Keyed.find?_eq_none_iff.mp absent
  have kept : graph.keeping (fun link => !link.involves id) = graph := by
    refine keeping_of_forall fun link member => ?_
    obtain ⟨notSource, notTarget⟩ := joined.ne_of_not_mem unused member
    simp [Link.involves, notSource, notTarget]
  have altered : graph.altered (.remove id) = graph := by
    rw [altered_remove, kept, Keyed.erase_of_not_mem unused]
  rw [perform_remove, altered, disturbed, absent]
  rfl

/--
After a novel run, removing a node of the graph returns it and leaves the very graph
that one gets by taking away all links at the node, in any order, and then the node:
the other nodes in their order, with equal shapes and casts, and the links at which
the node does not stand, in their order.  Removing anything else does nothing.
-/
theorem remove_eq_unwire_first (name : String) (settings : Settings) (edits : List Edit)
    (novel : (blank name settings).NovelRun edits) (id : NodeId) :
    let graph := ((blank name settings).run edits).value.1
    (∀ node, graph.node? id = some node → ∀ ids : List LinkId,
      ids.Perm ((graph.linksOf id).map Link.id) →
        let removed := (graph.perform (.remove id)).value
        let unwired := (graph.run (ids.map .disconnect)).value.1
        removed.2 = .removed (some node) ∧
          removed.1 = (unwired.perform (.remove id)).value.1 ∧
          removed.1 = { unwired with nodes := unwired.nodes.erase id } ∧
          removed.1.nodes.keys = graph.nodes.keys.filter (· ≠ id) ∧
          removed.1.links.toList = graph.links.toList.filter fun link => !link.involves id) ∧
    (graph.node? id = none → (graph.perform (.remove id)).value = (graph, .removed none)) := by
  intro graph
  have steady : graph.Steady := (steady_blank name settings).run novel
  refine ⟨fun node found ids all => ?_, steady.toTidy.plugged.joined.remove_of_absent⟩
  have frame := sameFrame_perform graph (.remove id)
  have same := steady.remove_unwired all
  refine ⟨?_, same, same.trans (value_remove_unwired all), ?_, ?_⟩
  · rw [perform_remove, found]
    rfl
  · rw [frame.keys, Keyed.keys, altered, Keyed.toList_erase, Keyed.keys, List.filter_map]
    rfl
  · rw [frame.links]
    rfl

end Graph

namespace Sample

/-- The vector feeds the sum and the blend, and the sum feeds the blend as well. -/
theorem remove_plane :
    let graph := ((Graph.blank "Blending" {}).run blending).value.1
    let removed := (graph.perform (.remove plane.id)).value
    let ids : List LinkId := [⟨.ofNat 7⟩, ⟨.ofNat 1⟩]
    let unwired := (graph.run (ids.map .disconnect)).value.1
    (Graph.blank "Blending" {}).NovelRun blending ∧ graph.node? plane.id = some plane ∧
      ids.Perm ((graph.linksOf plane.id).map Link.id) ∧
      (removed.1.node? blend.id).map Node.readings ≠ (graph.node? blend.id).map Node.readings ∧
      removed.2 = .removed (some plane) ∧
      removed.1 = { unwired with nodes := unwired.nodes.erase plane.id } := by
  intro graph removed ids unwired
  have novel : (Graph.blank "Blending" {}).NovelRun blending := by decide +kernel
  have found : graph.node? plane.id = some plane := by decide +kernel
  have all : ids.Perm ((graph.linksOf plane.id).map Link.id) := by decide +kernel
  have altered : (removed.1.node? blend.id).map Node.readings ≠
      (graph.node? blend.id).map Node.readings := by
    decide +kernel
  have removal := (Graph.remove_eq_unwire_first "Blending" {} blending novel plane.id).1 plane found
  refine ⟨novel, found, all, altered, ?_⟩
  -- Spelled out, so that the two statements agree without evaluating the runs.
  subst unwired removed graph
  exact ⟨(removal ids all).1, (removal ids all).2.2.1⟩

end Sample

end DataflowTyping
