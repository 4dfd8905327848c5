import DataflowTyping.Proofs.ArithmeticRun
import DataflowTyping.Proofs.Replacement
import DataflowTyping.Proofs.Undoing

/-!
# What was taken away can be put back

In a graph of arithmetic a link that was taken away can be made again, and a node
that was removed can be added again and its links made again, in any order.  While
some of the links are still missing, the graph `Lacks` them: its nodes are those of
the original up to shapes and casts, and its links and the missing ones together
are the links of the original.  That is enough for every missing link to be
accepted.  Its ports are there and its input is vacant, no circle comes about where
the original has none, and an input of arithmetic accepts whatever an output gives.
Once nothing is missing, the two graphs are settled and alike, and thus the same
but for the order of nodes and links.
-/

namespace DataflowTyping

namespace Graph

variable {graph original first second : Graph} {node old producer consumer : Node}
  {output input : Port} {link again : Link} {missing : List Link}

theorem Joins.of_ends_eq (joins : graph.Joins link producer consumer output input)
    (sameEnds : again.ends = link.ends) : graph.Joins again producer consumer output input := by
  obtain ⟨sameSource, sameTarget⟩ := Prod.mk.inj sameEnds
  constructor
  case producerMember => exact joins.producerMember
  case producerId => exact sameSource ▸ joins.producerId
  case outputMember => exact joins.outputMember
  case outputId => exact sameSource ▸ joins.outputId
  case leaves => exact joins.leaves
  case consumerMember => exact joins.consumerMember
  case consumerId => exact sameTarget ▸ joins.consumerId
  case inputMember => exact joins.inputMember
  case inputId => exact sameTarget ▸ joins.inputId
  case enters => exact joins.enters

theorem outcomes_run_cons (graph : Graph) (edit : Edit) (edits : List Edit) :
    (graph.run (edit :: edits)).value.2 =
      (graph.perform edit).value.2 :: ((graph.perform edit).value.1.run edits).value.2 :=
  rfl

theorem toList_links_connect (accepted : graph.refusal? link = none)
    (unused : link.id ∉ graph.links.keys) :
    (graph.perform (.connect link)).value.1.links.toList = graph.links.toList ++ [link] := by
  rw [(sameFrame_perform graph (.connect link)).links, altered, if_pos accepted,
    Keyed.toList_insert_of_not_mem unused]

theorem Acyclic.of_ends_subset (acyclic : first.Acyclic)
    (subset : second.links.toList.map Link.ends ⊆ first.links.toList.map Link.ends) :
    second.Acyclic := by
  intro node circle
  refine acyclic node (Relation.TransGen.mono ?_ _ _ circle)
  rintro producer consumer ⟨link, member, rfl, rfl⟩
  obtain ⟨old, oldMember, sameEnds⟩ := List.mem_map.mp (subset (List.mem_map_of_mem member))
  obtain ⟨sameSource, sameTarget⟩ := Prod.mk.inj sameEnds
  exact ⟨old, oldMember, congrArg Endpoint.node sameSource, congrArg Endpoint.node sameTarget⟩

theorem Settled.tidy (settled : graph.Settled) : graph.Tidy where
  joins := by
    intro link member
    obtain ⟨producer, consumer, output, input, joins, -⟩ := settled.wired.exists_joins member
    exact ⟨producer, consumer, output, input, joins⟩
  acyclic := settled.wired.acyclic
  distinct := settled.wired.distinct
  declared := settled.declared

namespace Regular

theorem manyLinks_eq_false (regular : graph.Regular) :
    ∀ node ∈ graph.nodes.toList, ∀ port ∈ node.inputs, port.manyLinks = false :=
  fun node member port isInput =>
    congrArg (·.2.2) ((regular.standard node member).inputs port isInput)

/-- No two links lead to the same input. -/
theorem nodup_targets (regular : graph.Regular) : (graph.links.toList.map Link.target).Nodup := by
  refine List.Nodup.map_on ?_ graph.links.distinct.of_map
  intro link member other otherMember sameTarget
  obtain ⟨_, consumer, _, input, joins, -, isInput⟩ :=
    regular.settled.wired.exists_joins member
  have target : link.target = ⟨consumer.id, input.id⟩ := by rw [joins.consumerId, joins.inputId]
  exact regular.settled.wired.single consumer joins.consumerMember input isInput
    (regular.manyLinks_eq_false consumer joins.consumerMember input isInput) link member other
    otherMember target (sameTarget ▸ target)

theorem canConnect (regular : graph.Regular)
    (joins : graph.Joins link producer consumer output input) :
    output.canConnect input = true := by
  have distinct := regular.settled.wired.distinct
  have isOutput := (regular.standard producer joins.producerMember).directed.mem_outputs
    (port?_of_mem distinct joins.producerMember joins.outputMember) joins.leaves
  have isInput := (regular.standard consumer joins.consumerMember).directed.mem_inputs
    (port?_of_mem distinct joins.consumerMember joins.inputMember) joins.enters
  simp only [Port.canConnect, joins.leaves, joins.enters]
  exact regular.accepts joins.producerMember joins.consumerMember isOutput isInput

end Regular

/-- The graph is the original but for shapes, casts, orders and missing links. -/
structure Lacks (graph original : Graph) (missing : List Link) : Prop where
  nodes : ∀ old ∈ original.nodes.toList, ∃ node ∈ graph.nodes.toList, old.PersistsAs node
  keys : graph.nodes.keys ⊆ original.nodes.keys
  links : ((graph.links.toList ++ missing).map Link.ends).Perm
    (original.links.toList.map Link.ends)

namespace Lacks

theorem vacant (lacks : graph.Lacks original (link :: missing)) (regular : original.Regular) :
    ∀ other ∈ graph.links.toList, other.target ≠ link.target := by
  -- No two links of the original lead to one input, and a missing link is one of them.
  have targets := lacks.links.map Prod.snd
  rw [List.map_map, List.map_map] at targets
  have distinct : ((graph.links.toList ++ link :: missing).map Link.target).Nodup :=
    targets.nodup_iff.mpr regular.nodup_targets
  rw [List.map_append, List.nodup_append] at distinct
  intro other member
  exact distinct.2.2 other.target (List.mem_map_of_mem member) link.target (by simp)

theorem acyclic (lacks : graph.Lacks original (link :: missing)) (regular : original.Regular)
    (unused : link.id ∉ graph.links.keys) :
    Acyclic { graph with links := graph.links.insert link } := by
  refine regular.settled.wired.acyclic.of_ends_subset ?_
  refine List.Subset.trans ?_ lacks.links.subset
  rw [Keyed.toList_insert_of_not_mem unused, List.append_cons graph.links.toList link missing]
  exact List.map_subset _ (List.subset_append_left _ _)

theorem refusal?_eq_none (lacks : graph.Lacks original (link :: missing))
    (regular : graph.Regular) (originalRegular : original.Regular)
    (unused : link.id ∉ graph.links.keys) : graph.refusal? link = none := by
  have wasThere : link.ends ∈ original.links.toList.map Link.ends :=
    lacks.links.subset (by simp)
  obtain ⟨stored, isStored, sameEnds⟩ := List.mem_map.mp wasThere
  obtain ⟨oldProducer, oldConsumer, _, _, joined, -⟩ :=
    originalRegular.settled.wired.exists_joins isStored
  obtain ⟨producer, consumer, output, input, joins, -⟩ :=
    (joined.of_ends_eq sameEnds.symm).persist (lacks.nodes oldProducer joined.producerMember)
      (lacks.nodes oldConsumer joined.consumerMember)
  rw [regular.settled.tidy.refusal?_eq_none_iff_legal unused]
  refine ⟨producer, consumer, output, input, joins, regular.canConnect joins, Or.inr ?_, ?_⟩
  · exact lacks.vacant originalRegular
  · exact lacks.acyclic originalRegular unused

theorem connect (lacks : graph.Lacks original (link :: missing))
    (accepted : graph.refusal? link = none) (unused : link.id ∉ graph.links.keys) :
    (graph.perform (.connect link)).value.1.Lacks original missing := by
  have connects : (Edit.connect link).AddsNew graph := trivial
  constructor
  case nodes =>
    intro old oldMember
    obtain ⟨node, member, persists⟩ := lacks.nodes old oldMember
    obtain ⟨later, laterMember, further⟩ := exists_persistsAs connects member Edit.noConfusion
    exact ⟨later, laterMember, persists.trans further⟩
  case keys =>
    rw [(sameFrame_perform graph (.connect link)).keys, altered, if_pos accepted]
    exact lacks.keys
  case links =>
    rw [toList_links_connect accepted unused, ← List.append_cons]
    exact lacks.links

/-- The missing links can be made one after the other, and then none is missing. -/
theorem run_connect (lacks : graph.Lacks original missing) (regular : graph.Regular)
    (originalRegular : original.Regular)
    (unused : (graph.links.keys ++ missing.map Link.id).Nodup) :
    let history := (graph.run (missing.map .connect)).value
    history.2 = missing.map (fun link => .connected link.id) ∧ history.1.Regular ∧
      history.1.Lacks original [] := by
  induction missing generalizing graph with
  | nil => exact ⟨rfl, regular, lacks⟩
  | cons link missing ih =>
      have notUsed : link.id ∉ graph.links.keys := fun used =>
        (List.nodup_append.mp unused).2.2 link.id used link.id (by simp) rfl
      have accepted := lacks.refusal?_eq_none regular originalRegular notUsed
      have outcome : (graph.perform (.connect link)).value.2 = .connected link.id := by
        rw [perform_connect_of_none accepted]
      have keys : (graph.perform (.connect link)).value.1.links.keys =
          graph.links.keys ++ [link.id] := by
        rw [Keyed.keys, toList_links_connect accepted notUsed, List.map_append]
        rfl
      have novel : (Edit.connect link).Novel graph := notUsed
      have stillRegular := (regular.perform novel trivial).value.1
      rw [List.map_cons, List.append_cons, ← keys] at unused
      obtain ⟨outcomes, finallyRegular, complete⟩ :=
        ih (lacks.connect accepted notUsed) stillRegular unused
      refine ⟨?_, finallyRegular, complete⟩
      rw [List.map_cons, outcomes_run_cons, outcome, outcomes, List.map_cons]

theorem persistsAs (lacks : graph.Lacks original missing) (oldMember : old ∈ original.nodes.toList)
    (found : graph.node? old.id = some node) : old.PersistsAs node := by
  obtain ⟨later, member, persists⟩ := lacks.nodes old oldMember
  have laterFound := node?_of_mem member
  rw [persists.id, found] at laterFound
  rw [Option.some.inj laterFound]
  exact persists

theorem alike (lacks : graph.Lacks original []) : original.Alike graph where
  keys := by
    intro id
    refine ⟨fun isKey => ?_, fun isKey => lacks.keys isKey⟩
    obtain ⟨old, oldMember, rfl⟩ := Keyed.mem_keys.mp isKey
    obtain ⟨node, member, persists⟩ := lacks.nodes old oldMember
    exact persists.id ▸ Keyed.key_mem_keys member
  nodes := by
    intro old oldMember node member sameId
    have persists := lacks.persistsAs oldMember (sameId ▸ node?_of_mem member)
    exact Node.alike_of_blank_eq persists.blank.symm
  links := by
    intro ends
    have links := lacks.links
    rw [List.append_nil] at links
    exact links.mem_iff.symm

/-- A regular graph that lacks nothing has the same nodes. -/
theorem node?_eq (lacks : graph.Lacks original []) (regular : graph.Regular)
    (originalRegular : original.Regular) (id : NodeId) : graph.node? id = original.node? id := by
  have agree : original.AgreeAt graph id := by
    refine lacks.alike.agreeAt originalRegular.settled regular.settled
      originalRegular.manyLinks_eq_false ?_ id
    intro old oldMember isFixed found node oldFound nodeFound
    obtain rfl : old = found := Option.some.inj ((node?_of_mem oldMember).symm.trans oldFound)
    rw [(lacks.persistsAs oldMember nodeFound).fixed isFixed]
    exact ⟨rfl, rfl⟩
  cases oldFound : original.node? id with
  | none =>
      rw [node?, Keyed.find?_eq_none_iff] at oldFound ⊢
      exact fun isKey => oldFound (lacks.keys isKey)
  | some old =>
      obtain rfl : old.id = id := id_of_node? oldFound
      have isKey := (lacks.alike.keys old.id).mp (Keyed.key_mem_keys (mem_of_node? oldFound))
      obtain ⟨node, found⟩ := Keyed.mem_keys_iff_find?.mp isKey
      have persists := lacks.persistsAs (mem_of_node? oldFound) found
      obtain ⟨sameInputs, sameOutputs⟩ := agree old node oldFound found
      rw [node?, found, Node.eq_of_ports_eq persists.blank sameInputs.symm sameOutputs.symm]

end Lacks

/-- The graphs have the same nodes, and links between the same ports. -/
structure Restores (graph original : Graph) : Prop where
  nodes : ∀ id, graph.node? id = original.node? id
  links : (graph.links.toList.map Link.ends).Perm (original.links.toList.map Link.ends)

/-- Making the missing links restores the original. -/
theorem Lacks.restores_run (lacks : graph.Lacks original missing) (regular : graph.Regular)
    (originalRegular : original.Regular)
    (unused : (graph.links.keys ++ missing.map Link.id).Nodup) :
    (graph.run (missing.map .connect)).value.2 = missing.map (fun link => .connected link.id) ∧
      (graph.run (missing.map .connect)).value.1.Restores original := by
  obtain ⟨outcomes, finallyRegular, complete⟩ := lacks.run_connect regular originalRegular unused
  refine ⟨outcomes, complete.node?_eq finallyRegular originalRegular, ?_⟩
  simpa using complete.links

theorem lacks_disconnect (member : link ∈ graph.links.toList) (sameEnds : again.ends = link.ends) :
    (graph.perform (.disconnect link.id)).value.1.Lacks graph [again] := by
  have frame := sameFrame_perform graph (.disconnect link.id)
  have disconnects : (Edit.disconnect link.id).AddsNew graph := trivial
  constructor
  case nodes =>
    exact fun old oldMember => exists_persistsAs disconnects oldMember Edit.noConfusion
  case keys =>
    rw [frame.keys]
    exact List.Subset.refl _
  case links =>
    rw [frame.links, altered, List.map_append, List.map_singleton, sameEnds]
    refine (List.perm_append_singleton _ _).trans ?_
    exact (Keyed.perm_cons_erase member).map Link.ends

theorem not_mem_keys_removed (graph : Graph) (id : NodeId) :
    id ∉ (graph.perform (.remove id)).value.1.nodes.keys := by
  rw [(sameFrame_perform graph (.remove id)).keys]
  exact fun isKey => (Keyed.mem_keys_erase.mp isKey).1 rfl

section Removed

variable (member : node ∈ graph.nodes.toList)

include member

/-- No other node has taken the identifiers of a node that was just removed. -/
theorem novel_add_removed (distinct : graph.portIds.Nodup) :
    (Edit.add node).Novel (graph.perform (.remove node.id)).value.1 := by
  refine ⟨not_mem_keys_removed graph node.id, ?_⟩
  rw [(sameFrame_perform graph (.remove node.id)).portIds]
  have allPorts := (Keyed.perm_cons_erase member).flatMap_right
    fun node => node.ports.map Port.id
  exact allPorts.nodup_iff.mpr distinct

theorem lacks_add_removed
    (sameEnds : (missing.map Link.ends).Perm ((graph.linksOf node.id).map Link.ends)) :
    ((graph.perform (.remove node.id)).value.1.perform (.add node)).value.1.Lacks graph
      missing := by
  let removed := (graph.perform (.remove node.id)).value.1
  have removedFrame : removed.SameFrame (graph.altered (.remove node.id)) := sameFrame_perform _ _
  have addedFrame := sameFrame_perform removed (.add node)
  constructor
  case nodes =>
    intro old oldMember
    by_cases isRemoved : old.id = node.id
    · obtain rfl : old = node :=
        List.inj_on_of_nodup_map graph.nodes.distinct oldMember member isRemoved
      have found := node?_replaced removed old old.id
      rw [if_pos rfl] at found
      exact ⟨_, mem_of_node? found, (Node.PersistsAs.refl old).renewed _⟩
    · have removes : (Edit.remove node.id).AddsNew graph := trivial
      obtain ⟨kept, keptMember, persists⟩ := exists_persistsAs removes oldMember
        fun same => isRemoved (Edit.remove.inj same).symm
      have adds : (Edit.add node).AddsNew removed := not_mem_keys_removed graph node.id
      obtain ⟨later, laterMember, further⟩ :=
        exists_persistsAs adds keptMember Edit.noConfusion
      exact ⟨later, laterMember, persists.trans further⟩
  case keys =>
    intro id isKey
    rw [addedFrame.keys] at isKey
    rcases Keyed.mem_keys_insert.mp isKey with rfl | isOld
    · exact Keyed.key_mem_keys member
    · rw [removedFrame.keys] at isOld
      exact (Keyed.mem_keys_erase.mp isOld).2
  case links =>
    have links : (removed.perform (.add node)).value.1.links.toList =
        graph.links.toList.filter fun link => !link.involves node.id := by
      rw [addedFrame.links, altered, removedFrame.links]
      rfl
    have allLinks := List.filter_append_perm (fun link => !link.involves node.id)
      graph.links.toList
    simp only [Bool.not_not] at allLinks
    rw [links, List.map_append]
    refine (sameEnds.append_left _).trans ?_
    rw [← List.map_append]
    exact allLinks.map Link.ends

theorem Regular.add_removed (regular : graph.Regular) :
    ((graph.perform (.remove node.id)).value.1.perform (.add node)).value.1.Regular := by
  have removes : (Edit.remove node.id).Novel graph := trivial
  have removedRegular := (regular.perform removes trivial).value.1
  have novel := novel_add_removed member regular.settled.wired.distinct
  exact (removedRegular.perform novel (regular.offered node member)).value.1

end Removed

namespace Regular

theorem restores_disconnect (regular : graph.Regular) (member : link ∈ graph.links.toList)
    (sameEnds : again.ends = link.ends)
    (unused : again.id ∉ (graph.perform (.disconnect link.id)).value.1.links.keys) :
    let history := (graph.run [.disconnect link.id, .connect again]).value
    history.2 = [.disconnected (some link), .connected again.id] ∧ history.1.Restores graph := by
  have disconnects : (Edit.disconnect link.id).Novel graph := trivial
  have cutRegular := (regular.perform disconnects trivial).value.1
  have distinct : ((graph.perform (.disconnect link.id)).value.1.links.keys ++
      [again].map Link.id).Nodup := by
    rw [List.map_singleton, List.nodup_append_comm, List.singleton_append, List.nodup_cons]
    exact ⟨unused, Keyed.distinct _⟩
  obtain ⟨outcomes, restores⟩ :=
    (lacks_disconnect member sameEnds).restores_run cutRegular regular distinct
  have returned : (graph.perform (.disconnect link.id)).value.2 = .disconnected (some link) := by
    rw [perform_disconnect, Keyed.find?_eq_some_of_mem member]
    rfl
  refine ⟨?_, restores⟩
  rw [outcomes_run_cons, returned]
  exact congrArg _ outcomes

theorem restores_remove (regular : graph.Regular) (member : node ∈ graph.nodes.toList)
    (sameEnds : (missing.map Link.ends).Perm ((graph.linksOf node.id).map Link.ends))
    (unused : ((graph.perform (.remove node.id)).value.1.links.keys ++
      missing.map Link.id).Nodup) :
    let history := (graph.run (.remove node.id :: .add node :: missing.map .connect)).value
    history.2 = .removed (some node) :: .added node.id ::
        missing.map (fun link => .connected link.id) ∧
      history.1.Restores graph := by
  have sameLinks := (sameFrame_perform (graph.perform (.remove node.id)).value.1 (.add node)).links
  rw [altered] at sameLinks
  rw [← sameLinks] at unused
  obtain ⟨outcomes, restores⟩ :=
    (lacks_add_removed member sameEnds).restores_run (regular.add_removed member) regular unused
  have returned : (graph.perform (.remove node.id)).value.2 = .removed (some node) := by
    rw [perform_remove, node?_of_mem member]
    rfl
  refine ⟨?_, restores⟩
  rw [outcomes_run_cons, outcomes_run_cons, returned]
  exact congrArg _ (congrArg _ outcomes)

end Regular

/--
In a graph that was made of nodes of the catalogue of arithmetic under new
identifiers, whatever is taken away can be put back.  If a link is taken away, a
link between the same ports is made.  If a node is removed, it can be added again
just as it was returned, and links between the same ports as those that went with it
are made in any order.  In the end every node is as it was, with the shapes and
casts of all its ports, and there are links between the same ports.
-/
theorem restores_of_arithmetic_run (name : String) (settings : Settings) (edits : List Edit)
    (novel : (blank name settings).NovelRun edits)
    (adds : ∀ edit ∈ edits, edit.AddsFrom .arithmetic) :
    let graph := ((blank name settings).run edits).value.1
    (∀ link ∈ graph.links.toList, ∀ again : Link, again.ends = link.ends →
      again.id ∉ (graph.perform (.disconnect link.id)).value.1.links.keys →
        let history := (graph.run [.disconnect link.id, .connect again]).value
        history.2 = [.disconnected (some link), .connected again.id] ∧
          history.1.Restores graph) ∧
    ∀ node ∈ graph.nodes.toList, ∀ again : List Link,
      (again.map Link.ends).Perm ((graph.linksOf node.id).map Link.ends) →
      ((graph.perform (.remove node.id)).value.1.links.keys ++ again.map Link.id).Nodup →
        let history := (graph.run (.remove node.id :: .add node :: again.map .connect)).value
        history.2 = .removed (some node) :: .added node.id ::
            again.map (fun link => .connected link.id) ∧
          history.1.Restores graph := by
  intro graph
  obtain ⟨⟨regular, -⟩, -⟩ := NovelRun.regular name settings novel adds
  refine ⟨fun link member again sameEnds unused => ?_, fun node member again sameEnds unused => ?_⟩
  · exact regular.restores_disconnect member sameEnds unused
  · exact regular.restores_remove member sameEnds unused

end Graph

namespace Sample

def blended : Link :=
  ⟨⟨.ofNat 4⟩, ⟨⟨.ofNat 1⟩, ⟨.ofNat 10⟩⟩, ⟨⟨.ofNat 2⟩, ⟨.ofNat 21⟩⟩⟩

/-- Links like those at the sum of the blending, in another order. -/
def blendedAgain : List Link :=
  [ ⟨⟨.ofNat 31⟩, ⟨⟨.ofNat 2⟩, ⟨.ofNat 30⟩⟩, ⟨⟨.ofNat 9⟩, ⟨.ofNat 110⟩⟩⟩,
    { blended with id := ⟨.ofNat 32⟩ },
    ⟨⟨.ofNat 33⟩, ⟨⟨.ofNat 6⟩, ⟨.ofNat 80⟩⟩, ⟨⟨.ofNat 2⟩, ⟨.ofNat 20⟩⟩⟩ ]

/-- Without the sum nothing is known of what it fed, until the sum and its links are back. -/
theorem restores_blending :
    let graph := ((Graph.blank "Blending" {}).run blending).value.1
    (Graph.blank "Blending" {}).NovelRun blending ∧
      (∀ edit ∈ blending, edit.AddsFrom .arithmetic) ∧
      (let history := (graph.run [.disconnect blended.id, .connect blended]).value
      history.2 = [.disconnected (some blended), .connected blended.id] ∧
        history.1.Restores graph) ∧
      ∃ node ∈ graph.nodes.toList, node.id = sum.id ∧
        ((graph.perform (.remove sum.id)).value.1.node? blend.id).map Node.readings ≠
          (graph.node? blend.id).map Node.readings ∧
        (let history := (graph.run
          (.remove node.id :: .add node :: blendedAgain.map .connect)).value
        history.2 = .removed (some node) :: .added node.id ::
            blendedAgain.map (fun link => .connected link.id) ∧
          history.1.Restores graph) := by
  intro graph
  have novel : (Graph.blank "Blending" {}).NovelRun blending := by decide +kernel
  obtain ⟨links, nodes⟩ :=
    Graph.restores_of_arithmetic_run "Blending" {} blending novel addsFrom_blending
  have stored : blended ∈ graph.links.toList := by decide +kernel
  have unused : blended.id ∉ (graph.perform (.disconnect blended.id)).value.1.links.keys := by
    decide +kernel
  have present : ∃ node ∈ graph.nodes.toList, node.id = sum.id := by decide +kernel
  have sameEnds : (blendedAgain.map Link.ends).Perm ((graph.linksOf sum.id).map Link.ends) := by
    decide +kernel
  have distinct : ((graph.perform (.remove sum.id)).value.1.links.keys ++
      blendedAgain.map Link.id).Nodup := by
    decide +kernel
  obtain ⟨node, member, isSum⟩ := present
  refine ⟨novel, addsFrom_blending, links blended stored blended rfl unused, node, member, isSum,
    by decide +kernel, ?_⟩
  rw [← isSum] at sameEnds distinct
  -- Spelled out, so that the two statements agree without evaluating the run.
  subst graph
  exact nodes node member blendedAgain sameEnds distinct

end Sample

end DataflowTyping
