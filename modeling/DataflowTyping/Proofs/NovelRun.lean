import DataflowTyping.Proofs.FreshRun

/-!
# Runs with new identifiers

An edit that adds no node under an identifier in use leaves every node in the
graph, unless it removes it, and leaves it as it was up to shapes and casts.
Hence throughout a run of such edits a link joins the two ports between which it
was made.  In a novel run the identifiers of ports and links are not in use either;
unlike a fresh edit, a novel one may add a node on which an output is listed among
the inputs.
-/

namespace DataflowTyping

namespace Node

/-- The node as it is later: the same up to shapes and casts, and with them if it is fixed. -/
structure PersistsAs (old node : Node) : Prop where
  blank : node.blank = old.blank
  fixed : old.inference = .fixed → node = old

variable {old node : Node} {port : Port}

theorem PersistsAs.refl (node : Node) : node.PersistsAs node :=
  ⟨rfl, fun _ => rfl⟩

theorem PersistsAs.trans {later : Node} (persists : old.PersistsAs node)
    (further : node.PersistsAs later) : old.PersistsAs later where
  blank := further.blank.trans persists.blank
  fixed := by
    intro isFixed
    rw [further.fixed, persists.fixed isFixed]
    rw [persists.fixed isFixed]
    exact isFixed

theorem PersistsAs.id (persists : old.PersistsAs node) : node.id = old.id :=
  id_eq_of_blank_eq persists.blank

theorem PersistsAs.renewed (persists : old.PersistsAs node) (graph : Graph) :
    old.PersistsAs (graph.renewed node) where
  blank := (Graph.blank_renewed graph node).trans persists.blank
  fixed := by
    intro isFixed
    rw [persists.fixed isFixed, Graph.renewed, isFixed]

theorem PersistsAs.map_ports (persists : old.PersistsAs node) :
    node.ports.map Port.blank = old.ports.map Port.blank := by
  have same := map_ports_congr Port.blank persists.blank fun _ => rfl
  rw [ports, ports, List.map_append, List.map_append, same.1, same.2]

theorem PersistsAs.exists_port (persists : old.PersistsAs node) (isPort : port ∈ old.ports) :
    ∃ later ∈ node.ports, later.blank = port.blank :=
  List.mem_map.mp (persists.map_ports ▸ List.mem_map_of_mem isPort)

end Node

namespace Graph

variable {graph : Graph} {id : NodeId} {edit : Edit} {edits : List Edit} {link : Link}
  {old node producer consumer : Node} {output input : Port}

/-- The link runs from an output of a node of the graph to an input of a node of the graph. -/
structure Joins (graph : Graph) (link : Link) (producer consumer : Node) (output input : Port) :
    Prop where
  producerMember : producer ∈ graph.nodes.toList
  producerId : producer.id = link.source.node
  outputMember : output ∈ producer.ports
  outputId : output.id = link.source.port
  leaves : output.direction = .output
  consumerMember : consumer ∈ graph.nodes.toList
  consumerId : consumer.id = link.target.node
  inputMember : input ∈ consumer.ports
  inputId : input.id = link.target.port
  enters : input.direction = .input

theorem Admits.joins (admits : graph.Admits link producer consumer output input) :
    graph.Joins link producer consumer output input := by
  obtain ⟨outputMember, outputId⟩ := Node.of_port?_eq_some admits.outputFound
  obtain ⟨inputMember, inputId⟩ := Node.of_port?_eq_some admits.inputFound
  exact ⟨mem_of_node? admits.producerFound, id_of_node? admits.producerFound, outputMember,
    outputId, admits.leaves, mem_of_node? admits.consumerFound, id_of_node? admits.consumerFound,
    inputMember, inputId, admits.enters⟩

theorem mem_keys_perform (kept : edit ≠ .remove id) (present : id ∈ graph.nodes.keys) :
    id ∈ (graph.perform edit).value.1.nodes.keys := by
  rw [(sameFrame_perform graph edit).keys]
  cases edit with
  | add node => exact Keyed.mem_keys_insert.mpr (Or.inr present)
  | remove other => exact Keyed.mem_keys_erase.mpr ⟨fun same => kept (same ▸ rfl), present⟩
  | connect link =>
      rw [altered]
      split_ifs <;> exact present
  | disconnect | refresh | refreshAll | propagate => exact present

/-- An edit that does not add over a node leaves it in the graph unless it removes it. -/
theorem exists_persistsAs (addsNew : edit.AddsNew graph) (member : old ∈ graph.nodes.toList)
    (kept : edit ≠ .remove old.id) :
    ∃ node ∈ (graph.perform edit).value.1.nodes.toList, old.PersistsAs node := by
  have everywhere : (graph.perform edit).value.1.Everywhere
      fun node => node.id = old.id → old.PersistsAs node := by
    refine Everywhere.perform ?_ ?_ ?_
    · intro graph node persists sameId
      rw [id_renewed] at sameId
      exact (persists sameId).renewed graph
    · rintro node rfl sameId
      rw [id_renewed] at sameId
      exact absurd (sameId ▸ Keyed.key_mem_keys member) addsNew
    · intro node nodeMember sameId
      have found := node?_of_mem nodeMember
      rw [sameId, node?_of_mem member] at found
      cases found
      exact .refl old
  obtain ⟨node, nodeMember, sameId⟩ :=
    Keyed.mem_keys.mp (mem_keys_perform kept (Keyed.key_mem_keys member))
  exact ⟨node, nodeMember, everywhere node nodeMember sameId⟩

/-- A link joins whatever has become of the two nodes. -/
theorem Joins.persist {later : Graph} (joins : graph.Joins link producer consumer output input)
    (producerPersists : ∃ node ∈ later.nodes.toList, producer.PersistsAs node)
    (consumerPersists : ∃ node ∈ later.nodes.toList, consumer.PersistsAs node) :
    ∃ laterProducer laterConsumer laterOutput laterInput,
      later.Joins link laterProducer laterConsumer laterOutput laterInput ∧
      producer.PersistsAs laterProducer ∧ laterOutput.blank = output.blank ∧
      laterInput.blank = input.blank := by
  obtain ⟨laterProducer, producerMember, producerPersists⟩ := producerPersists
  obtain ⟨laterConsumer, consumerMember, consumerPersists⟩ := consumerPersists
  obtain ⟨laterOutput, outputMember, sameOutput⟩ :=
    producerPersists.exists_port joins.outputMember
  obtain ⟨laterInput, inputMember, sameInput⟩ := consumerPersists.exists_port joins.inputMember
  refine ⟨laterProducer, laterConsumer, laterOutput, laterInput, ?_, producerPersists, sameOutput,
    sameInput⟩
  constructor
  case producerMember => exact producerMember
  case producerId => exact producerPersists.id.trans joins.producerId
  case outputMember => exact outputMember
  case outputId => exact (Port.view_congr Port.id sameOutput fun _ => rfl).trans joins.outputId
  case leaves => exact (Port.view_congr Port.direction sameOutput fun _ => rfl).trans joins.leaves
  case consumerMember => exact consumerMember
  case consumerId => exact consumerPersists.id.trans joins.consumerId
  case inputMember => exact inputMember
  case inputId => exact (Port.view_congr Port.id sameInput fun _ => rfl).trans joins.inputId
  case enters => exact (Port.view_congr Port.direction sameInput fun _ => rfl).trans joins.enters

/-- An edit that neither adds over a node nor removes one of the two leaves both ports in place. -/
theorem Joins.perform (joins : graph.Joins link producer consumer output input)
    (addsNew : edit.AddsNew graph)
    (kept : ∀ id, edit = .remove id → link.source.node ≠ id ∧ link.target.node ≠ id) :
    ∃ laterProducer laterConsumer laterOutput laterInput,
      (graph.perform edit).value.1.Joins link laterProducer laterConsumer laterOutput laterInput ∧
      producer.PersistsAs laterProducer ∧ laterOutput.blank = output.blank ∧
      laterInput.blank = input.blank := by
  refine joins.persist ?_ ?_
  · exact exists_persistsAs addsNew joins.producerMember fun removed =>
      (kept _ removed).1 joins.producerId.symm
  · exact exists_persistsAs addsNew joins.consumerMember fun removed =>
      (kept _ removed).2 joins.consumerId.symm

/-- A link of a graph that was edited is an old one, away from a removed node, or just made. -/
theorem mem_links_perform (member : link ∈ (graph.perform edit).value.1.links.toList) :
    (link ∈ graph.links.toList ∧
      ∀ id, edit = .remove id → link.source.node ≠ id ∧ link.target.node ≠ id) ∨
    (edit = .connect link ∧ graph.refusal? link = none) := by
  rw [(sameFrame_perform graph edit).links] at member
  cases edit with
  | remove id =>
      obtain ⟨old, uninvolved⟩ := List.mem_filter.mp member
      refine Or.inl ⟨old, fun other isRemove => ?_⟩
      cases isRemove
      simpa [Link.involves] using uninvolved
  | connect new =>
      rw [altered] at member
      split_ifs at member with accepted
      · rcases Keyed.mem_toList_insert.mp member with rfl | ⟨old, -⟩
        · exact Or.inr ⟨rfl, accepted⟩
        · exact Or.inl ⟨old, fun _ isRemove => Edit.noConfusion isRemove⟩
      · exact Or.inl ⟨member, fun _ isRemove => Edit.noConfusion isRemove⟩
  | disconnect id =>
      exact Or.inl ⟨List.mem_of_mem_filter member, fun _ isRemove => Edit.noConfusion isRemove⟩
  | add | refresh | refreshAll | propagate =>
      exact Or.inl ⟨member, fun _ isRemove => Edit.noConfusion isRemove⟩

/-- Links are made between ports, and these stay in place. -/
theorem exists_joins_perform (addsNew : edit.AddsNew graph)
    (joins : ∀ link ∈ graph.links.toList, ∃ producer consumer output input,
      graph.Joins link producer consumer output input) :
    ∀ link ∈ (graph.perform edit).value.1.links.toList, ∃ producer consumer output input,
      (graph.perform edit).value.1.Joins link producer consumer output input := by
  intro link member
  rcases mem_links_perform member with ⟨old, kept⟩ | ⟨rfl, accepted⟩
  · obtain ⟨producer, consumer, output, input, joins⟩ := joins link old
    obtain ⟨_, _, _, _, laterJoins, -⟩ := joins.perform addsNew kept
    exact ⟨_, _, _, _, laterJoins⟩
  · obtain ⟨producer, consumer, output, input, admits⟩ := refusal?_eq_none_iff.mp accepted
    obtain ⟨_, _, _, _, laterJoins, -⟩ := admits.joins.perform addsNew
      fun _ isRemove => Edit.noConfusion isRemove
    exact ⟨_, _, _, _, laterJoins⟩

theorem nodup_portIds_altered (novel : edit.Novel graph) (distinct : graph.portIds.Nodup) :
    (graph.altered edit).portIds.Nodup := by
  cases edit with
  | add node =>
      have appended : (graph.altered (.add node)).nodes.toList = graph.nodes.toList ++ [node] :=
        Keyed.toList_insert_of_not_mem novel.1
      rw [portIds, appended, List.flatMap_append, List.flatMap_singleton]
      exact List.nodup_append_comm.mp novel.2
  | remove id => exact distinct.sublist (List.filter_sublist.flatMap _)
  | connect link =>
      rw [altered]
      split_ifs <;> exact distinct
  | disconnect | refresh | refreshAll | propagate => exact distinct

/-- Every link joins two ports, and what refreshes do not write stands as declared. -/
structure Tidy (graph : Graph) : Prop where
  joins : ∀ link ∈ graph.links.toList, ∃ producer consumer output input,
    graph.Joins link producer consumer output input
  acyclic : graph.Acyclic
  distinct : graph.portIds.Nodup
  declared : graph.Everywhere AsDeclared

theorem tidy_blank (name : String) (settings : Settings) : (blank name settings).Tidy where
  joins := fun _ member => absurd member List.not_mem_nil
  acyclic := (layered_blank name settings).acyclic
  distinct := List.nodup_nil
  declared := fun _ member => absurd member List.not_mem_nil

theorem plugged_of_joins (joins : ∀ link ∈ graph.links.toList,
      ∃ producer consumer output input, graph.Joins link producer consumer output input)
    (distinct : graph.portIds.Nodup) : graph.Plugged where
  source := by
    intro link member
    obtain ⟨producer, _, output, _, joins⟩ := joins link member
    exact ⟨producer, joins.producerId ▸ node?_of_mem joins.producerMember,
      joins.outputId ▸ List.mem_map_of_mem joins.outputMember⟩
  target := by
    intro link member
    obtain ⟨_, consumer, _, input, joins⟩ := joins link member
    exact ⟨consumer, joins.consumerId ▸ node?_of_mem joins.consumerMember,
      joins.inputId ▸ List.mem_map_of_mem joins.inputMember⟩
  distinct := distinct

namespace Tidy

theorem plugged (tidy : graph.Tidy) : graph.Plugged :=
  plugged_of_joins tidy.joins tidy.distinct

theorem perform (tidy : graph.Tidy) (novel : edit.Novel graph) :
    (graph.perform edit).value.1.Tidy := by
  have frame := sameFrame_perform graph edit
  have joins := exists_joins_perform novel.addsNew tidy.joins
  have distinct : (graph.perform edit).value.1.portIds.Nodup :=
    frame.portIds ▸ nodup_portIds_altered novel tidy.distinct
  have joined := tidy.plugged.joined
  refine ⟨joins, (Layered.perform ⟨joined, tidy.acyclic⟩ edit).acyclic, distinct, ?_⟩
  exact asDeclared_perform (frame.plugged (plugged_of_joins joins distinct)) joined novel.addsNew
    tidy.declared

end Tidy

def NovelRun (graph : Graph) (edits : List Edit) : Prop :=
  graph.Along (fun graph edit => edit.Novel graph) edits

instance (graph : Graph) (edits : List Edit) : Decidable (graph.NovelRun edits) :=
  inferInstanceAs (Decidable (graph.Along _ edits))

theorem Tidy.run (tidy : graph.Tidy) (novel : graph.NovelRun edits) :
    (graph.run edits).value.1.Tidy :=
  novel.induction (fun _ graph => graph.Tidy) (fun _ _ _ tidy novel => tidy.perform novel) [] tidy

end Graph

end DataflowTyping
