import DataflowTyping.Proofs.Wiring

/-!
# Every node stays settled

In a run of edits that bring along unused identifiers only, every edit leaves
every node settled.  An edit alters what comes into the nodes that it disturbs
and into no others; these are settled by the passes that follow, together with
everything downstream of them.
-/

namespace DataflowTyping

namespace Graph

variable {graph : Graph} {id : NodeId} {node : Node} {edit : Edit} {edits : List Edit}

theorem node?_added : (graph.altered (.add node)).node? node.id = some node := by
  rw [node?, altered, Keyed.find?_insert, if_pos rfl]

def Everywhere (holds : Node → Prop) (graph : Graph) : Prop :=
  ∀ node ∈ graph.nodes.toList, holds node

namespace Everywhere

variable {holds : Node → Prop}

theorem renew_of_renewed (everywhere : graph.Everywhere holds)
    (kept : ∀ node ∈ graph.nodes.toList, holds (graph.renewed node)) (id : NodeId) :
    (graph.renew id).Everywhere holds := by
  cases found : graph.node? id with
  | none =>
      rw [renew_of_none found]
      exact everywhere
  | some old =>
      rw [renew_of_some found]
      intro node member
      rcases Keyed.mem_toList_insert.mp member with rfl | ⟨unchanged, -⟩
      · exact kept old (mem_of_node? found)
      · exact everywhere node unchanged

theorem altered (everywhere : graph.Everywhere holds)
    (added : ∀ node, edit = .add node → holds node) : (graph.altered edit).Everywhere holds := by
  cases edit with
  | add node =>
      intro other member
      rcases Keyed.mem_toList_insert.mp member with rfl | ⟨old, -⟩
      · exact added other rfl
      · exact everywhere other old
  | remove id => exact fun node member => everywhere node (List.mem_of_mem_filter member)
  | connect link =>
      rw [Graph.altered]
      split_ifs <;> exact everywhere
  | disconnect | refresh | refreshAll | propagate => exact everywhere

/-- An added node counts as it is once refreshed. -/
theorem add (everywhere : graph.Everywhere holds)
    (added : holds ((graph.altered (.add node)).renewed node)) :
    (graph.perform (.add node)).value.1.Everywhere holds := by
  rw [value_add, renew_of_some node?_added]
  intro other member
  rcases Keyed.mem_toList_insert.mp member with rfl | ⟨old, differs⟩
  · exact added
  · rw [id_renewed] at differs
    rcases Keyed.mem_toList_insert.mp old with rfl | ⟨older, -⟩
    · exact absurd rfl differs
    · exact everywhere other older

variable (keeps : ∀ (graph : Graph) (node : Node), holds node → holds (graph.renewed node))

include keeps

theorem renew (everywhere : graph.Everywhere holds) (id : NodeId) :
    (graph.renew id).Everywhere holds :=
  everywhere.renew_of_renewed (fun node member => keeps graph node (everywhere node member)) id

/-- What refreshes keep of all nodes, edits keep if it holds of added nodes once refreshed. -/
theorem perform (added : ∀ node, edit = .add node → holds ((graph.altered edit).renewed node))
    (everywhere : graph.Everywhere holds) : (graph.perform edit).value.1.Everywhere holds := by
  by_cases isAdd : ∃ node, edit = .add node
  · obtain ⟨node, rfl⟩ := isAdd
    exact everywhere.add (added node rfl)
  · have refreshes (current : Graph) (id : NodeId) (everywhere : current.Everywhere holds) :
        (current.refresh id).Ensures (fun settled => settled.1.Everywhere holds) fun _ => True :=
      ⟨everywhere.renew keeps id, fun _ _ => trivial⟩
    have kept : (graph.altered edit).Everywhere holds :=
      everywhere.altered fun node same => absurd ⟨node, same⟩ isAdd
    exact (ensures_perform refreshes (fun _ _ _ _ => trivial) kept fun _ _ _ _ _ _ => trivial).value

end Everywhere

def FreshRun (graph : Graph) (edits : List Edit) : Prop :=
  graph.Along (fun graph edit => edit.Fresh graph) edits

instance (graph : Graph) (edits : List Edit) : Decidable (graph.FreshRun edits) :=
  inferInstanceAs (Decidable (graph.Along _ edits))

/-- The ports that a refresh does not write stand as declared. -/
def AsDeclared (node : Node) : Prop :=
  ∀ locked, node.inference = .arithmetic locked → node.Anchored locked

/-- Links are as they should be, and a refresh of any node changes nothing. -/
structure Settled (graph : Graph) : Prop where
  wired : graph.Wired
  declared : graph.Everywhere AsDeclared
  settledAt : ∀ id, graph.SettledAt id

theorem settled_blank (name : String) (settings : Settings) : (blank name settings).Settled where
  wired := wired_blank name settings
  declared := fun _ member => absurd member List.not_mem_nil
  settledAt := fun _ => renew_of_none rfl

theorem asDeclared_renewed (graph : Graph) (node : Node) (declared : AsDeclared node) :
    AsDeclared (graph.renewed node) := by
  intro locked arithmetic
  rw [Node.inference_eq_of_blank_eq (blank_renewed graph node)] at arithmetic
  rw [renewed_of_arithmetic arithmetic]
  exact Node.anchored_refreshed (length_incoming graph node) fun _ => declared locked arithmetic

theorem Plugged.incoming_of_unlinked (plugged : graph.Plugged) (member : node ∈ graph.nodes.toList)
    (unlinked : ∀ link ∈ graph.links.toList, link.target.node ≠ node.id) :
    ∀ shape ∈ graph.incoming node, shape = none := by
  intro shape isIncoming
  obtain ⟨port, isInput, rfl⟩ := List.mem_map.mp isIncoming
  have unfed : graph.producerOf? port.id = none := by
    rw [producerOf?, List.find?_eq_none]
    intro link linkMember samePort
    have target := plugged.target_eq member isInput linkMember (by simpa using samePort)
    exact unlinked link linkMember (congrArg Endpoint.node target)
  rw [carried?, unfed]
  rfl

theorem Joined.ne_of_not_mem (joined : graph.Joined) (unused : id ∉ graph.nodes.keys) {link : Link}
    (member : link ∈ graph.links.toList) : link.source.node ≠ id ∧ link.target.node ≠ id := by
  obtain ⟨source, target⟩ := joined link member
  exact ⟨fun isSource => unused (isSource ▸ source), fun isTarget => unused (isTarget ▸ target)⟩

/-- Nothing comes into a node that has just been added. -/
theorem Plugged.incoming_of_added (plugged : (graph.altered (.add node)).Plugged)
    (joined : graph.Joined) (unused : node.id ∉ graph.nodes.keys) :
    ∀ shape ∈ (graph.altered (.add node)).incoming node, shape = none := by
  refine plugged.incoming_of_unlinked (mem_of_node? node?_added) fun link member => ?_
  have wasLink : link ∈ graph.links.toList := member
  exact (joined.ne_of_not_mem unused wasLink).2

/-- Added nodes are refreshed with nothing wired in, and so stand as declared like all others. -/
theorem asDeclared_perform (plugged : (graph.altered edit).Plugged) (joined : graph.Joined)
    (addsNew : edit.AddsNew graph) (declared : graph.Everywhere AsDeclared) :
    (graph.perform edit).value.1.Everywhere AsDeclared := by
  refine Everywhere.perform asDeclared_renewed ?_ declared
  rintro node rfl locked arithmetic
  rw [Node.inference_eq_of_blank_eq (blank_renewed _ node)] at arithmetic
  rw [renewed_of_arithmetic arithmetic]
  have unwired : (Snapshot.told locked ((graph.altered (.add node)).incoming node)).isUnwired =
      true := by
    rw [Snapshot.isUnwired_told]
    exact plugged.incoming_of_added joined addsNew
  refine Node.anchored_refreshed (length_incoming _ node) fun wired => ?_
  rw [unwired] at wired
  contradiction

theorem SettledAt.add (settled : graph.SettledAt id) (plugged : graph.Plugged)
    (alteredPlugged : (graph.altered (.add node)).Plugged) (unused : node.id ∉ graph.nodes.keys)
    (differs : id ≠ node.id) : (graph.altered (.add node)).SettledAt id := by
  have kept {other : NodeId} (isOld : other ≠ node.id) :
      graph.node? other = (graph.altered (.add node)).node? other := by
    rw [altered, node?, node?, Keyed.find?_insert, if_neg isOld]
  refine settled.congr plugged alteredPlugged (kept differs) rfl ?_
  rintro producer ⟨link, member, rfl, -⟩
  exact kept (plugged.joined.ne_of_not_mem unused member).1

theorem SettledAt.remove {removed : NodeId} (settled : graph.SettledAt id) (plugged : graph.Plugged)
    (alteredPlugged : (graph.altered (.remove removed)).Plugged)
    (undisturbed : id ∉ graph.disturbed (.remove removed)) :
    (graph.altered (.remove removed)).SettledAt id := by
  have notFed : ¬ graph.Feeds removed id := by
    rintro ⟨link, member, rfl, target⟩
    obtain ⟨producer, found, -⟩ := plugged.source link member
    rw [disturbed, found] at undisturbed
    exact undisturbed (mem_consumersOf.mpr ⟨link, member, rfl, target⟩)
  have kept {other : NodeId} (differs : other ≠ removed) :
      graph.node? other = (graph.altered (.remove removed)).node? other := by
    rw [altered, node?, node?, Keyed.find?_erase, if_neg differs]
  by_cases isRemoved : id = removed
  · apply renew_of_none
    rw [altered, node?, Keyed.find?_erase, if_pos isRemoved]
  · refine settled.congr plugged alteredPlugged (kept isRemoved) ?_ ?_
    · simp only [linksInto, altered, Keyed.toList_filter, List.filter_filter]
      apply List.filter_congr
      intro link member
      by_cases isInto : link.target.node = id
      · have notFrom : link.source.node ≠ removed := fun isFrom =>
          notFed ⟨link, member, isFrom, isInto⟩
        simp [isInto, Link.involves, notFrom, isRemoved]
      · simp [isInto]
    · intro producer feeds
      exact kept fun isFrom => notFed (isFrom ▸ feeds)

theorem SettledAt.connect {link : Link} (settled : graph.SettledAt id) (plugged : graph.Plugged)
    (alteredPlugged : (graph.altered (.connect link)).Plugged)
    (unused : link.id ∉ graph.links.keys)
    (undisturbed : id ∉ graph.disturbed (.connect link)) :
    (graph.altered (.connect link)).SettledAt id := by
  rw [altered] at alteredPlugged ⊢
  rw [disturbed] at undisturbed
  split_ifs at alteredPlugged undisturbed ⊢
  · refine settled.congr plugged alteredPlugged rfl ?_ fun _ _ => rfl
    have notInto : ¬ link.target.node = id := by
      simpa [eq_comm] using undisturbed
    simp [linksInto, Keyed.toList_insert_of_not_mem unused, notInto]
  · exact settled

theorem SettledAt.disconnect {removed : LinkId} (settled : graph.SettledAt id)
    (plugged : graph.Plugged) (alteredPlugged : (graph.altered (.disconnect removed)).Plugged)
    (undisturbed : id ∉ graph.disturbed (.disconnect removed)) :
    (graph.altered (.disconnect removed)).SettledAt id := by
  refine settled.congr plugged alteredPlugged rfl ?_ fun _ _ => rfl
  simp only [linksInto, altered, Keyed.toList_erase, List.filter_filter]
  apply List.filter_congr
  intro link member
  by_cases isInto : link.target.node = id
  · have isKept : link.id ≠ removed := by
      rintro rfl
      apply undisturbed
      rw [disturbed, Keyed.find?_eq_some_of_mem member]
      exact List.mem_singleton.mpr isInto.symm
    simp [isInto, isKept]
  · simp [isInto]

/-- A novel edit settles what it disturbs and leaves settled what it does not. -/
theorem Plugged.settledAt_perform (plugged : graph.Plugged)
    (alteredPlugged : (graph.altered edit).Plugged) (acyclic : (graph.altered edit).Acyclic)
    (novel : edit.Novel graph) (settled : ∀ id, graph.SettledAt id) (id : NodeId) :
    (graph.perform edit).value.1.SettledAt id := by
  cases edit with
  | add node =>
      rw [value_add]
      by_cases isNew : id = node.id
      · rw [isNew]
        exact alteredPlugged.settledAt_renew acyclic node.id
      · refine ((settled id).add plugged alteredPlugged novel.1 isNew).renew alteredPlugged isNew ?_
        rintro ⟨link, member, source, -⟩
        exact (plugged.joined.ne_of_not_mem novel.1 member).1 source
  | remove removed =>
      rw [value_remove]
      apply alteredPlugged.settledAt_propagateEach acyclic
      by_cases disturbed : id ∈ graph.disturbed (.remove removed)
      · exact Or.inl ⟨id, disturbed, start_mem_downstream _ id⟩
      · exact Or.inr ((settled id).remove plugged alteredPlugged disturbed)
  | connect link =>
      rw [value_connect]
      apply alteredPlugged.settledAt_propagateEach acyclic
      by_cases disturbed : id ∈ graph.disturbed (.connect link)
      · exact Or.inl ⟨id, disturbed, start_mem_downstream _ id⟩
      · exact Or.inr ((settled id).connect plugged alteredPlugged novel disturbed)
  | disconnect removed =>
      rw [value_disconnect]
      apply alteredPlugged.settledAt_propagateEach acyclic
      by_cases disturbed : id ∈ graph.disturbed (.disconnect removed)
      · exact Or.inl ⟨id, disturbed, start_mem_downstream _ id⟩
      · exact Or.inr ((settled id).disconnect plugged alteredPlugged disturbed)
  | refresh other =>
      rw [value_refresh, settled other]
      exact settled id
  | refreshAll =>
      rw [value_refreshAll, renewEach_of_settledAt settled]
      exact settled id
  | propagate start => exact plugged.settledAt_propagate acyclic (Or.inr (settled id))

namespace Settled

/-- An edit leaves every node settled. -/
theorem perform (settled : graph.Settled) (fresh : edit.Fresh graph) :
    (graph.perform edit).value.1.Settled := by
  have altered := settled.wired.altered fresh
  refine ⟨settled.wired.perform fresh, ?_, ?_⟩
  · exact asDeclared_perform altered.plugged settled.wired.layered.joined fresh.novel.addsNew
      settled.declared
  · exact settled.wired.plugged.settledAt_perform altered.plugged altered.acyclic fresh.novel
      settled.settledAt

theorem shape_of_link (settled : graph.Settled) (member : node ∈ graph.nodes.toList)
    (arithmetic : node.isArithmetic = true) {port : Port} (isInput : port ∈ node.inputs)
    {link : Link}
    (first : graph.links.toList.find? (fun link => link.target = ⟨node.id, port.id⟩) = some link) :
    ∃ producer ∈ graph.nodes.toList, producer.id = link.source.node ∧
      ∃ output ∈ producer.outputs, output.id = link.source.port ∧ port.shape = output.shape := by
  obtain ⟨producer, found, isOutput⟩ :=
    settled.wired.source link (List.mem_of_find?_eq_some first)
  have producerMember := mem_of_node? found
  refine ⟨producer, producerMember, id_of_node? found, ?_⟩
  obtain ⟨output, outputMember, outputId⟩ := List.mem_map.mp isOutput
  refine ⟨output, outputMember, outputId, ?_⟩
  have outputFound : producer.port? link.source.port = some output :=
    outputId ▸ port?_of_mem settled.wired.distinct producerMember
      (List.mem_append_right _ outputMember)
  have carried : graph.carried? port.id = some output.shape := by
    rw [carried?, settled.wired.plugged.producerOf?_eq member isInput, first]
    simp [found, outputFound]
  obtain ⟨locked, inference⟩ := Node.isArithmetic_iff.mp arithmetic
  rw [(settled.settledAt node.id).shape_eq member inference isInput, carried, Option.getD_some]

theorem run (settled : graph.Settled) (fresh : graph.FreshRun edits) :
    (graph.run edits).value.1.Settled :=
  fresh.induction (fun _ graph => graph.Settled) (fun _ _ _ settled fresh => settled.perform fresh)
    [] settled

end Settled

/--
After a fresh run a refresh of any node leaves the whole graph as it is, and so
does a refresh of all nodes.  In particular the first link into an input of an
arithmetic node gives the input its shape.
-/
theorem refresh_of_freshRun (name : String) (settings : Settings) (edits : List Edit)
    (fresh : (blank name settings).FreshRun edits) :
    let graph := ((blank name settings).run edits).value.1
    (∀ id, (graph.refresh id).value.1 = graph) ∧ graph.refreshAll?.value = some graph ∧
    ∀ node ∈ graph.nodes.toList, node.isArithmetic = true → ∀ port ∈ node.inputs, ∀ link,
      graph.links.toList.find? (fun link => link.target = ⟨node.id, port.id⟩) = some link →
        ∃ producer ∈ graph.nodes.toList, producer.id = link.source.node ∧
          ∃ output ∈ producer.outputs,
            output.id = link.source.port ∧ port.shape = output.shape := by
  intro graph
  have settled : graph.Settled := (settled_blank name settings).run fresh
  obtain ⟨order, found, -⟩ := settled.wired.layered.exists_order
  refine ⟨settled.settledAt, ?_, ?_⟩
  · rw [value_refreshAll? found, renewEach_of_settledAt settled.settledAt]
  · intro node member arithmetic port isInput link first
    exact settled.shape_of_link member arithmetic isInput first

end Graph

namespace Sample

def wiring : List Edit :=
  [.add vector, .add sum, .connect (wire 1)]

/-- The first operand takes over the shape of the vector, and refreshes leave it at that. -/
theorem refresh_wiring :
    (Graph.blank "Sum" {}).FreshRun wiring ∧
      (let graph := ((Graph.blank "Sum" {}).run wiring).value.1
      (∀ id, (graph.refresh id).value.1 = graph) ∧
        (graph.node? sum.id).map (fun node => node.inputs.map Port.shape) =
          some [.vec3, .scalarOrVec3]) := by
  have fresh : (Graph.blank "Sum" {}).FreshRun wiring := by decide +kernel
  exact ⟨fresh, (Graph.refresh_of_freshRun "Sum" {} wiring fresh).1, by decide +kernel⟩

end Sample

end DataflowTyping
