import DataflowTyping.Proofs.RefreshTrace

/-!
# Nodes that shield what they feed

The outputs of a fixed node and of one with a locked output do not depend on what is
wired in.  A link into such a node that is made or taken away makes everything
downstream of it be refreshed, but these refreshes find nothing new.  In a settled
graph only the node itself may then be out of date, and once it is refreshed the
graph is settled again, since it gives what it gave before.
-/

namespace DataflowTyping

open Relation

/-- What the node gives does not depend on what is wired in, as it is fixed or locked. -/
def Node.Shields (node : Node) : Prop :=
  node.inference = .fixed ∨ node.inference = .arithmetic true

theorem Node.Anchored.outputs_refreshed {node : Node} {incoming : List (Option Shape)}
    (anchored : node.Anchored true) (sameLength : incoming.length = node.inputs.length) :
    (node.refreshed true incoming).outputs = node.outputs := by
  have unwritten : node.outputs.modifyHead (Port.concluded (.told true incoming)) = node.outputs :=
    congrFun List.modifyHead_id _
  rw [Node.outputs_refreshed true sameLength]
  split_ifs
  · rw [anchored.modifyHead_reset, unwritten]
  · exact unwritten

namespace Graph

variable {graph first second : Graph} {id other : NodeId} {ids : List NodeId} {node : Node}
  {edit : Edit} {link : Link}

theorem outputs_renewed (graph : Graph) (shields : node.Shields) (declared : AsDeclared node) :
    (graph.renewed node).outputs = node.outputs := by
  rcases shields with isFixed | isLocked
  · rw [renewed, isFixed]
  · rw [renewed_of_arithmetic isLocked]
    exact (declared true isLocked).outputs_refreshed (length_incoming graph node)

theorem incoming_eq_of_offers (sameLinks : first.links = second.links)
    (sameOffers : ∀ link ∈ second.links.toList,
      first.offered? link.source = second.offered? link.source) (node : Node) :
    first.incoming node = second.incoming node := by
  apply List.map_congr_left
  intro port _
  rw [carried?_eq, carried?_eq, producerOf?, producerOf?, sameLinks]
  cases found : second.links.toList.find? fun link => link.target.port = port.id with
  | none => rfl
  | some link => exact sameOffers link (List.mem_of_find?_eq_some found)

section Shielded

variable (wired : graph.Wired) (member : node ∈ graph.nodes.toList) (shields : node.Shields)
  (declared : AsDeclared node)

include wired member shields declared

theorem offered?_renew_of_shields (linkMember : link ∈ graph.links.toList) :
    (graph.renew node.id).offered? link.source = graph.offered? link.source := by
  have found := node?_of_mem member
  by_cases isSource : link.source.node = node.id
  · have renewedFound : (graph.renew node.id).node? node.id = some (graph.renewed node) := by
      rw [node?_renew, if_pos rfl, found, Option.map_some]
    obtain ⟨producer, producerFound, isOutput⟩ := wired.source link linkMember
    rw [isSource, found] at producerFound
    cases producerFound
    obtain ⟨output, outputMember, outputId⟩ := List.mem_map.mp isOutput
    have stillOutput : output ∈ (graph.renewed node).outputs := by
      rw [outputs_renewed graph shields declared]
      exact outputMember
    have distinct : (graph.renew node.id).portIds.Nodup :=
      (sameFrame_renew graph node.id).portIds ▸ wired.distinct
    have before := port?_of_mem wired.distinct member (List.mem_append_right _ outputMember)
    have after := port?_of_mem distinct (mem_of_node? renewedFound)
      (List.mem_append_right _ stillOutput)
    rw [offered?, offered?, isSource, found, renewedFound, Option.bind_some, Option.bind_some,
      ← outputId, before, after]
  · rw [offered?, offered?, node?_renew, if_neg isSource]

/-- Once the node is refreshed, whatever else was settled still is. -/
theorem settledAt_renew_of_shields (others : ∀ other, other ≠ node.id → graph.SettledAt other)
    (other : NodeId) : (graph.renew node.id).SettledAt other := by
  by_cases isNode : other = node.id
  · rw [isNode]
    exact wired.plugged.settledAt_renew wired.acyclic node.id
  · rw [settledAt_iff]
    intro later found
    rw [node?_renew, if_neg isNode] at found
    have sameIncoming : (graph.renew node.id).incoming later = graph.incoming later :=
      incoming_eq_of_offers (sameFrame_renew graph node.id).links
        (fun link linkMember => offered?_renew_of_shields wired member shields declared linkMember)
        later
    rw [renewed_congr sameIncoming]
    exact settledAt_iff.mp (others other isNode) later found

end Shielded

/-- A pass over nodes of which only one is not settled does no more than refresh that one. -/
theorem renewEach_eq_renew (others : ∀ other, other ≠ id → graph.SettledAt other)
    (after : ∀ other, (graph.renew id).SettledAt other) (visited : id ∈ ids) :
    graph.renewEach ids = graph.renew id := by
  induction ids with
  | nil => exact absurd visited List.not_mem_nil
  | cons first rest ih =>
      rw [renewEach, List.foldl_cons]
      by_cases isFirst : first = id
      · rw [isFirst]
        exact renewEach_of_settledAt after rest
      · rw [others first isFirst]
        exact ih ((List.mem_cons.mp visited).resolve_left (Ne.symm isFirst))

end Graph

theorem Edit.StartsAt.settledAt_altered {graph : Graph} {start id : NodeId} {edit : Edit}
    (starts : edit.StartsAt graph start) (plugged : graph.Plugged)
    (alteredPlugged : (graph.altered edit).Plugged) (settled : graph.SettledAt id)
    (differs : id ≠ start) : (graph.altered edit).SettledAt id := by
  have undisturbed : id ∉ graph.disturbed edit := by
    rw [starts.disturbed_eq, List.mem_singleton]
    exact differs
  cases starts with
  | connect unused => exact settled.connect plugged alteredPlugged unused undisturbed
  | disconnect => exact settled.disconnect plugged alteredPlugged undisturbed
  | propagate => exact settled

namespace Graph

variable {graph : Graph} {node : Node} {edit : Edit}

/-- Of all that is refreshed only the node itself may change. -/
theorem Settled.value_perform_of_shields (settled : graph.Settled)
    (member : node ∈ graph.nodes.toList) (shields : node.Shields)
    (starts : edit.StartsAt graph node.id) :
    (graph.perform edit).value.1 = (graph.altered edit).renew node.id := by
  have wired := settled.wired.altered starts.fresh
  have stillMember : node ∈ (graph.altered edit).nodes.toList := by
    rw [starts.nodes_altered]
    exact member
  have others : ∀ other, other ≠ node.id → (graph.altered edit).SettledAt other :=
    fun other => starts.settledAt_altered settled.wired.plugged wired.plugged
      (settled.settledAt other)
  have after := settledAt_renew_of_shields wired stillMember shields
    (settled.declared node member) others
  obtain ⟨order, found, orders⟩ := wired.layered.exists_order
  rw [starts.value_perform, value_propagate found]
  apply renewEach_eq_renew others after
  rw [List.mem_filter, orders.mem_iff, decide_eq_true_eq]
  exact ⟨Keyed.key_mem_keys stillMember, start_mem_downstream _ node.id⟩

theorem Settled.nodes_perform_of_fixed (settled : graph.Settled)
    (member : node ∈ graph.nodes.toList) (isFixed : node.inference = .fixed)
    (starts : edit.StartsAt graph node.id) :
    (graph.perform edit).value.1.nodes = graph.nodes := by
  have unchanged : (graph.altered edit).SettledAt node.id := by
    rw [settledAt_iff]
    intro found isFound
    rw [node?, starts.nodes_altered] at isFound
    have isNode : node = found := Option.some.inj ((node?_of_mem member).symm.trans isFound)
    rw [← isNode, renewed, isFixed]
  rw [settled.value_perform_of_shields member (Or.inl isFixed) starts, unchanged,
    starts.nodes_altered]

/--
Suppose that after a fresh run a link into a fixed or locked node is made or taken
away.  Then every other node stays as it is, and so does the node itself if it is
fixed, although all arithmetic nodes downstream of it are refreshed.
-/
theorem shielded_of_freshRun (name : String) (settings : Settings) (edits : List Edit)
    (fresh : (blank name settings).FreshRun edits) (edit : Edit) (shield : Node) :
    let graph := ((blank name settings).run edits).value.1
    shield ∈ graph.nodes.toList → shield.Shields → edit.StartsAt graph shield.id →
      let done := graph.perform edit
      let edited := done.value.1
      edited.nodes.keys = graph.nodes.keys ∧
      (∀ id, id ≠ shield.id → edited.node? id = graph.node? id) ∧
      (shield.inference = .fixed → edited.nodes = graph.nodes) ∧
      (settings.diagnostics = true → ∀ node ∈ edited.nodes.toList, node.isArithmetic = true →
        ReflTransGen edited.Feeds shield.id node.id →
          edited.announcement node ∈ done.events) := by
  intro graph member shields starts done edited
  have settled : graph.Settled := (settled_blank name settings).run fresh
  have novel : (blank name settings).NovelRun edits := fresh.mono fun _ _ fresh => fresh.novel
  have tidy : graph.Tidy := (tidy_blank name settings).run novel
  refine ⟨?_, ?_, ?_, ?_⟩
  · rw [(sameFrame_perform graph edit).keys, starts.nodes_altered]
  · intro id differs
    have performed : edited = (graph.altered edit).renew shield.id :=
      settled.value_perform_of_shields member shields starts
    rw [performed, node?_renew, if_neg differs, node?, node?, starts.nodes_altered]
  · exact fun isFixed => settled.nodes_perform_of_fixed member isFixed starts
  · intro diagnostics node isNode arithmetic path
    have reported : graph.settings.diagnostics = true := by
      rw [settings_run]
      exact diagnostics
    exact tidy.announcement_mem_events reported starts isNode arithmetic path

end Graph

namespace Sample

def measured : Node :=
  { norm with inputs := norm.inputs.map fun port => port.withShape .vec3 }

/-- Nothing but the length notices that its operand is gone, although the blend is refreshed. -/
theorem shielded_blend :
    let settings : Settings := { diagnostics := true }
    let graph := ((Graph.blank "Blending" settings).run blending).value.1
    let edit : Edit := .disconnect ⟨.ofNat 5⟩
    let done := graph.perform edit
    (Graph.blank "Blending" settings).FreshRun blending ∧ measured ∈ graph.nodes.toList ∧
      measured.inference = .arithmetic true ∧ edit.StartsAt graph measured.id ∧
      measured ∉ done.value.1.nodes.toList ∧ blend.id ∈ graph.downstream measured.id ∧
      (∀ id, id ≠ measured.id → done.value.1.node? id = graph.node? id) ∧
      ∀ node ∈ done.value.1.nodes.toList, node.isArithmetic = true →
        ReflTransGen done.value.1.Feeds measured.id node.id →
          done.value.1.announcement node ∈ done.events := by
  intro settings graph edit done
  have fresh : (Graph.blank "Blending" settings).FreshRun blending := by decide +kernel
  have member : measured ∈ graph.nodes.toList := by decide +kernel
  have taken : done.value.2 = .disconnected
      (some ⟨⟨.ofNat 5⟩, ⟨⟨.ofNat 1⟩, ⟨.ofNat 10⟩⟩, ⟨⟨.ofNat 8⟩, ⟨.ofNat 100⟩⟩⟩) := by
    decide +kernel
  have starts : edit.StartsAt graph measured.id := .disconnect taken rfl
  have altered : measured ∉ done.value.1.nodes.toList := by decide +kernel
  have reached : blend.id ∈ graph.downstream measured.id := by decide +kernel
  refine ⟨fresh, member, rfl, starts, altered, reached, ?_⟩
  -- Spelled out, so that the two statements agree without evaluating the runs.
  subst done graph
  have shielded := Graph.shielded_of_freshRun "Blending" settings blending fresh edit measured
    member (Or.inr rfl) starts
  exact ⟨shielded.2.1, shielded.2.2.2 rfl⟩

end Sample

end DataflowTyping
