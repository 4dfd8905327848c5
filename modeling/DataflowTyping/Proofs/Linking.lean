import DataflowTyping.Proofs.History
import DataflowTyping.Proofs.NovelRun

/-!
# Which links there are and which can be made

After a fresh run every link joins an output of one node to an input of another,
and an input that does not take many links has at most one.  In a novel run a
link is made exactly if it is `Legal`: it joins an output to an input, its shape
fits, its input is vacant, and no circle comes about.  None of this mentions the
searches by which a link is checked, which look for an input by its identifier
alone and for a circle downstream of the consumer.  If a link is refused, then
the graph is as it was.
-/

namespace DataflowTyping

open Relation

namespace Graph

variable {graph : Graph} {link : Link} {node producer consumer : Node} {output input port : Port}

namespace Wired

theorem exists_joins (wired : graph.Wired) (member : link ∈ graph.links.toList) :
    ∃ producer consumer output input, graph.Joins link producer consumer output input ∧
      output ∈ producer.outputs ∧ input ∈ consumer.inputs := by
  obtain ⟨producer, producerFound, isOutput⟩ := wired.source link member
  obtain ⟨consumer, consumerFound, isInput⟩ := wired.target link member
  obtain ⟨output, outputMember, outputId⟩ := List.mem_map.mp isOutput
  obtain ⟨input, inputMember, inputId⟩ := List.mem_map.mp isInput
  have producerMember := mem_of_node? producerFound
  have consumerMember := mem_of_node? consumerFound
  refine ⟨producer, consumer, output, input, ?_, outputMember, inputMember⟩
  constructor
  case producerMember => exact producerMember
  case producerId => exact id_of_node? producerFound
  case outputMember => exact List.mem_append_right _ outputMember
  case outputId => exact outputId
  case leaves => exact (wired.directed producer producerMember).outputs output outputMember
  case consumerMember => exact consumerMember
  case consumerId => exact id_of_node? consumerFound
  case inputMember => exact List.mem_append_left _ inputMember
  case inputId => exact inputId
  case enters => exact (wired.directed consumer consumerMember).inputs input inputMember

theorem source_ne_target (wired : graph.Wired) (member : link ∈ graph.links.toList) :
    link.source.node ≠ link.target.node := by
  intro loop
  exact wired.acyclic link.source.node (.single ⟨link, member, rfl, loop.symm⟩)

theorem countP_target_le_one (wired : graph.Wired) (member : node ∈ graph.nodes.toList)
    (isInput : port ∈ node.inputs) (one : port.manyLinks = false) :
    graph.links.toList.countP (fun link => link.target = ⟨node.id, port.id⟩) ≤ 1 := by
  rw [List.countP_eq_length_filter]
  have distinct : (graph.links.toList.filter
      fun link => link.target = ⟨node.id, port.id⟩).Nodup :=
    graph.links.distinct.of_map.filter _
  generalize into : graph.links.toList.filter
    (fun link => link.target = ⟨node.id, port.id⟩) = links at distinct
  match links with
  | [] => simp
  | [link] => simp
  | first :: second :: rest =>
      have isInto (link : Link) (isListed : link ∈ first :: second :: rest) :
          link ∈ graph.links.toList ∧ link.target = ⟨node.id, port.id⟩ := by
        rw [← into] at isListed
        simpa using isListed
      obtain ⟨firstMember, firstTarget⟩ := isInto first (by simp)
      obtain ⟨secondMember, secondTarget⟩ := isInto second (by simp)
      have equal : first = second :=
        wired.single node member port isInput one first firstMember second secondMember firstTarget
          secondTarget
      simp [equal] at distinct

/-- A link is found for the identifiers of those inputs into which links lead, and no others. -/
theorem isSome_producerOf?_iff (wired : graph.Wired) (wanted : PortId) :
    (graph.producerOf? wanted).isSome = true ↔
      ∃ node ∈ graph.nodes.toList, ∃ port ∈ node.inputs, port.id = wanted ∧
        ∃ link ∈ graph.links.toList, link.target = ⟨node.id, port.id⟩ := by
  rw [producerOf?, List.find?_isSome]
  constructor
  · rintro ⟨link, member, samePort⟩
    obtain ⟨_, consumer, _, input, joins, -, isInput⟩ := wired.exists_joins member
    refine ⟨consumer, joins.consumerMember, input, isInput, ?_, link, member, ?_⟩
    · rw [joins.inputId]
      simpa using samePort
    · rw [joins.consumerId, joins.inputId]
  · rintro ⟨node, -, port, -, rfl, link, member, target⟩
    exact ⟨link, member, by simp [target]⟩

end Wired

/--
After a fresh run every link runs from an output of a node to an input of
another node, an input that does not take many links has at most one, and a
producer is found for exactly those inputs that have a link.
-/
theorem joins_of_freshRun (name : String) (settings : Settings) (edits : List Edit)
    (fresh : (blank name settings).FreshRun edits) :
    let graph := ((blank name settings).run edits).value.1
    (∀ link ∈ graph.links.toList, ∃ producer consumer output input,
      graph.Joins link producer consumer output input ∧ output ∈ producer.outputs ∧
        input ∈ consumer.inputs ∧ producer.id ≠ consumer.id) ∧
    (∀ node ∈ graph.nodes.toList, ∀ port ∈ node.inputs, port.manyLinks = false →
      graph.links.toList.countP (fun link => link.target = ⟨node.id, port.id⟩) ≤ 1) ∧
    ∀ wanted, (graph.producerOf? wanted).isSome = true ↔
      ∃ node ∈ graph.nodes.toList, ∃ port ∈ node.inputs, port.id = wanted ∧
        ∃ link ∈ graph.links.toList, link.target = ⟨node.id, port.id⟩ := by
  intro graph
  have wired : graph.Wired := ((settled_blank name settings).run fresh).wired
  refine ⟨fun link member => ?_, fun node member port isInput one => ?_, fun wanted => ?_⟩
  · obtain ⟨producer, consumer, output, input, joins, isOutput, isInput⟩ :=
      wired.exists_joins member
    refine ⟨producer, consumer, output, input, joins, isOutput, isInput, ?_⟩
    rw [joins.producerId, joins.consumerId]
    exact wired.source_ne_target member
  · exact wired.countP_target_le_one member isInput one
  · exact wired.isSome_producerOf?_iff wanted

end Graph

/-- Of the links that were made on a detour one is left, and it joins the vector to the sum. -/
theorem Sample.joins_detour :
    (Graph.blank "Detour" {}).FreshRun detour ∧
      (let graph := ((Graph.blank "Detour" {}).run detour).value.1
      graph.links.toList = [wire 9] ∧
        ∃ producer consumer output input, graph.Joins (wire 9) producer consumer output input ∧
          output ∈ producer.outputs ∧ input ∈ consumer.inputs ∧ producer.id ≠ consumer.id) := by
  have fresh : (Graph.blank "Detour" {}).FreshRun detour := by decide +kernel
  have oneLink : ((Graph.blank "Detour" {}).run detour).value.1.links.toList = [wire 9] := by
    decide +kernel
  refine ⟨fresh, oneLink, ?_⟩
  refine (Graph.joins_of_freshRun "Detour" {} detour fresh).1 (wire 9) ?_
  rw [oneLink]
  exact List.mem_singleton_self _

namespace Graph

variable {graph : Graph} {link : Link} {producer consumer : Node} {output input : Port}

/-- A link that may be made, said without the searches by which it is checked. -/
structure Legal (graph : Graph) (link : Link) (producer consumer : Node) (output input : Port) :
    Prop extends graph.Joins link producer consumer output input where
  fits : output.canConnect input = true
  vacant : input.manyLinks = true ∨ ∀ other ∈ graph.links.toList, other.target ≠ link.target
  acyclic : Acyclic { graph with links := graph.links.insert link }

theorem Acyclic.not_mem_downstream
    (acyclic : Acyclic { graph with links := graph.links.insert link })
    (unused : link.id ∉ graph.links.keys) :
    link.source.node ∉ graph.downstream link.target.node := by
  intro back
  refine acyclic_iff.mp acyclic link (Keyed.mem_toList_insert.mpr (Or.inl rfl)) ?_
  rw [mem_downstream] at back ⊢
  refine ReflTransGen.mono ?_ _ _ back
  rintro producer consumer ⟨old, member, ends⟩
  refine ⟨old, ?_, ends⟩
  rw [Keyed.toList_insert_of_not_mem unused]
  exact List.mem_append_left _ member

theorem Plugged.producerOf?_eq_none_iff (plugged : graph.Plugged)
    (joins : graph.Joins link producer consumer output input) :
    graph.producerOf? link.target.port = none ↔
      ∀ other ∈ graph.links.toList, other.target ≠ link.target := by
  rw [producerOf?, List.find?_eq_none]
  refine forall₂_congr fun other member => ?_
  rw [decide_eq_true_eq]
  refine not_congr ⟨fun samePort => ?_, congrArg Endpoint.port⟩
  have target := plugged.target_eq_of_mem_ports joins.consumerMember joins.inputMember member
    (samePort.trans joins.inputId.symm)
  rw [target, joins.consumerId, joins.inputId]

namespace Tidy

theorem legal_of_admits (tidy : graph.Tidy)
    (admits : graph.Admits link producer consumer output input) :
    graph.Legal link producer consumer output input where
  toJoins := admits.joins
  fits := by simp [Port.canConnect, admits.leaves, admits.enters, admits.fits]
  vacant := admits.vacant.imp_right (tidy.plugged.producerOf?_eq_none_iff admits.joins).mp
  acyclic := tidy.acyclic.insert admits.noCircle

theorem admits_of_legal (tidy : graph.Tidy) (unused : link.id ∉ graph.links.keys)
    (legal : graph.Legal link producer consumer output input) :
    graph.Admits link producer consumer output input := by
  have noCircle := legal.acyclic.not_mem_downstream unused
  constructor
  case producerFound => exact legal.producerId ▸ node?_of_mem legal.producerMember
  case consumerFound => exact legal.consumerId ▸ node?_of_mem legal.consumerMember
  case outputFound =>
    exact legal.outputId ▸ port?_of_mem tidy.distinct legal.producerMember legal.outputMember
  case inputFound =>
    exact legal.inputId ▸ port?_of_mem tidy.distinct legal.consumerMember legal.inputMember
  case leaves => exact legal.leaves
  case enters => exact legal.enters
  case fits => simpa [Port.canConnect, legal.leaves, legal.enters] using legal.fits
  case vacant =>
    exact legal.vacant.imp_right (tidy.plugged.producerOf?_eq_none_iff legal.toJoins).mpr
  case differ =>
    intro loop
    exact noCircle (loop ▸ start_mem_downstream graph link.source.node)
  case noCircle => exact noCircle

/-- The checks let through exactly the legal links. -/
theorem refusal?_eq_none_iff_legal (tidy : graph.Tidy) (unused : link.id ∉ graph.links.keys) :
    graph.refusal? link = none ↔
      ∃ producer consumer output input, graph.Legal link producer consumer output input := by
  rw [refusal?_eq_none_iff]
  constructor
  · rintro ⟨producer, consumer, output, input, admits⟩
    exact ⟨producer, consumer, output, input, tidy.legal_of_admits admits⟩
  · rintro ⟨producer, consumer, output, input, legal⟩
    exact ⟨producer, consumer, output, input, tidy.admits_of_legal unused legal⟩

end Tidy

theorem perform_connect_of_some {error : LinkError} (refused : graph.refusal? link = some error) :
    (graph.perform (.connect link)).value = (graph, .refused error) := by
  rw [perform_connect_of_refused refused]

theorem perform_connect_of_none (accepted : graph.refusal? link = none) :
    (graph.perform (.connect link)).value =
      ((Graph.propagate { graph with links := graph.links.insert link } link.target.node).value,
        .connected link.id) := by
  rw [perform_connect_of_accepted accepted, altered, if_pos accepted]
  rfl

/--
After a novel run a link under an unused identifier is made exactly if it is
legal; then it stands behind the other links, and the nodes keep their places.
Otherwise it is refused, and the graph is left as it was.
-/
theorem connected_iff_legal (name : String) (settings : Settings) (edits : List Edit)
    (novel : (blank name settings).NovelRun edits) (link : Link)
    (unused : link.id ∉ ((blank name settings).run edits).value.1.links.keys) :
    let graph := ((blank name settings).run edits).value.1
    let edited := (graph.perform (.connect link)).value.1
    let outcome := (graph.perform (.connect link)).value.2
    (outcome = .connected link.id ↔
      ∃ producer consumer output input, graph.Legal link producer consumer output input) ∧
    (outcome = .connected link.id → link.source.node ≠ link.target.node ∧
      edited.links.toList = graph.links.toList ++ [link] ∧
      edited.nodes.keys = graph.nodes.keys) ∧
    (outcome ≠ .connected link.id → (∃ error, outcome = .refused error) ∧ edited = graph) := by
  intro graph edited outcome
  have tidy : graph.Tidy := (tidy_blank name settings).run novel
  rw [← tidy.refusal?_eq_none_iff_legal unused]
  cases refused : graph.refusal? link with
  | some error =>
      have result := perform_connect_of_some refused
      have isRefused : outcome = .refused error := congrArg Prod.snd result
      have unchanged : edited = graph := congrArg Prod.fst result
      simp [isRefused, unchanged]
  | none =>
      have result := perform_connect_of_none refused
      have isConnected : outcome = .connected link.id := congrArg Prod.snd result
      have frame : edited.SameFrame { graph with links := graph.links.insert link } := by
        rw [show edited = _ from congrArg Prod.fst result]
        exact sameFrame_propagate _ _
      obtain ⟨producer, consumer, output, input, admits⟩ := refusal?_eq_none_iff.mp refused
      refine ⟨by simp [isConnected], fun _ => ⟨admits.differ, ?_, frame.keys⟩, ?_⟩
      · rw [frame.links]
        exact Keyed.toList_insert_of_not_mem unused
      · exact fun refuted => absurd isConnected refuted

end Graph

namespace Sample

def secondWire : Link :=
  { wire 2 with target := ⟨⟨.ofNat 2⟩, ⟨.ofNat 21⟩⟩ }

/-- A wired sum takes a link into its second operand, but no further one into its first. -/
theorem connected_secondWire :
    (Graph.blank "Sum" {}).NovelRun wiring ∧
      (let graph := ((Graph.blank "Sum" {}).run wiring).value.1
      (∃ producer consumer output input,
        graph.Legal secondWire producer consumer output input) ∧
      ((graph.perform (.connect secondWire)).value.1.links.toList = [wire 1, secondWire]) ∧
      ¬ (∃ producer consumer output input,
        graph.Legal (wire 3) producer consumer output input) ∧
      (graph.perform (.connect (wire 3))).value.1 = graph) := by
  have novel : (Graph.blank "Sum" {}).NovelRun wiring := by decide +kernel
  have oneLink : ((Graph.blank "Sum" {}).run wiring).value.1.links.toList = [wire 1] := by
    decide +kernel
  have made : (((Graph.blank "Sum" {}).run wiring).value.1.perform (.connect secondWire)).value.2 =
      .connected secondWire.id := by
    decide +kernel
  have notMade : (((Graph.blank "Sum" {}).run wiring).value.1.perform (.connect (wire 3))).value.2 ≠
      .connected (wire 3).id := by
    decide +kernel
  obtain ⟨legalIff, appended, -⟩ :=
    Graph.connected_iff_legal "Sum" {} wiring novel secondWire (by decide +kernel)
  obtain ⟨otherLegalIff, -, unchanged⟩ :=
    Graph.connected_iff_legal "Sum" {} wiring novel (wire 3) (by decide +kernel)
  refine ⟨novel, legalIff.mp made, ?_, ?_, (unchanged notMade).2⟩
  · rw [(appended made).2.1, oneLink]
    rfl
  · exact fun legal => notMade (otherLegalIff.mpr legal)

end Sample

end DataflowTyping
