import DataflowTyping.Catalogue.Arithmetic
import DataflowTyping.Proofs.Linking

/-!
# How long a link fits

Whether the declared shape of an input accepts an output is asked when a link is
made, and never again.  Hence a link fits the shape that its output had then.
Most outputs keep this shape for as long as the link stands: all those that
refreshes do not write.  An output whose shape follows from what is wired in may
change behind its links, and then the declared shape of an input need not accept
it any more.  Only an input that was declared pending accepts whatever such an
output comes to, provided that no generic shape is about.
-/

namespace DataflowTyping

namespace Shape

variable {first second soFar : Shape} {shapes : List Shape}

theorem pending_accepts (shape : Shape) : pending.accepts shape = !shape.isGeneric := by
  cases shape <;> rfl

theorem isGeneric_join (firstKnown : first.isGeneric = false)
    (secondKnown : second.isGeneric = false) : (first.join second).isGeneric = false := by
  revert firstKnown secondKnown
  cases first <;> cases second <;> decide

theorem isGeneric_foldl_join (known : soFar.isGeneric = false)
    (allKnown : ∀ shape ∈ shapes, shape.isGeneric = false) :
    (shapes.foldl join soFar).isGeneric = false := by
  induction shapes generalizing soFar with
  | nil => exact known
  | cons shape shapes ih =>
      obtain ⟨shapeKnown, restKnown⟩ := List.forall_mem_cons.mp allKnown
      exact ih (isGeneric_join known shapeKnown) restKnown

end Shape

/-- A generic shape only comes out of a node into which one is wired. -/
theorem Snapshot.isGeneric_result_told {locked : Bool} {incoming : List (Option Shape)}
    (known : ∀ shape, some shape ∈ incoming → shape.isGeneric = false) :
    (told locked incoming).result.isGeneric = false := by
  have base : (told locked incoming).base.isGeneric = false := by
    refine Shape.isGeneric_foldl_join rfl ?_
    simp only [told, List.map_map, List.mem_map]
    rintro _ ⟨shape, isIncoming, rfl⟩
    cases shape with
    -- An empty input counts as pending; the guess at its shape has no part in this.
    | none => rfl
    | some shape => exact known shape isIncoming
  rw [result_eq]
  split_ifs
  · rfl
  · rfl
  · exact base

namespace Node

variable {node first second : Node} {port : Port} {locked : Bool}
  {incoming : List (Option Shape)}

/-- Refreshes of the node write the shape of the port. -/
def Reshapes (node : Node) (port : PortId) : Prop :=
  match node.inference with
  | .fixed => False
  | .arithmetic locked =>
      port ∈ node.inputs.map Port.id ∨
        locked = false ∧ (node.outputs.map Port.id).head? = some port

theorem reshapes_eq (sameBlank : first.blank = second.blank) :
    first.Reshapes = second.Reshapes := by
  obtain ⟨inputs, outputs⟩ := map_ports_congr Port.id sameBlank fun _ => rfl
  funext port
  rw [Reshapes, Reshapes, inference_eq_of_blank_eq sameBlank, inputs, outputs]

theorem Anchored.shape_eq_declared (anchored : node.Anchored locked)
    (arithmetic : node.inference = .arithmetic locked) (isPort : port ∈ node.ports)
    (steady : ¬ node.Reshapes port.id) : port.shape = port.declared := by
  rw [Reshapes, arithmetic] at steady
  obtain ⟨notInput, notFirst⟩ := not_or.mp steady
  have isOutput : port ∈ node.outputs :=
    (List.mem_append.mp isPort).resolve_left fun isInput =>
      notInput (List.mem_map_of_mem isInput)
  apply anchored.outputShapes
  cases locked with
  | true => exact isOutput
  | false =>
      cases given : node.outputs with
      | nil =>
          rw [given] at isOutput
          exact absurd isOutput List.not_mem_nil
      | cons output others =>
          rw [given] at isOutput notFirst
          refine (List.mem_cons.mp isOutput).resolve_left ?_
          rintro rfl
          exact notFirst ⟨rfl, rfl⟩

/-- An output has its declared shape or that of the result. -/
theorem Anchored.shape_of_refreshed_eq (anchored : node.Anchored locked)
    (sameLength : incoming.length = node.inputs.length)
    (settled : node.refreshed locked incoming = node) (isOutput : port ∈ node.outputs) :
    port.shape = port.declared ∨ port.shape = (Snapshot.told locked incoming).result := by
  have written := outputs_of_refreshed_eq sameLength anchored settled
  cases given : node.outputs with
  | nil =>
      rw [given] at isOutput
      exact absurd isOutput List.not_mem_nil
  | cons output others =>
      rw [given] at written isOutput
      rw [List.map_cons, List.map_cons, List.modifyHead_cons] at written
      obtain ⟨head, tail⟩ := List.cons.inj written
      rcases List.mem_cons.mp isOutput with rfl | isOther
      · rw [head, Port.concluded]
        split_ifs
        · exact Or.inl rfl
        · exact Or.inr rfl
      · rw [tail] at isOther
        exact Or.inl (anchored_reset isOther).2

end Node

/-- An added node has no output of a generic shape, and inputs and outputs are in their places. -/
def Edit.AddsDefinite (edit : Edit) : Prop :=
  edit.Adds fun node => node.Directed ∧ ∀ port ∈ node.outputs,
    port.shape.isGeneric = false ∧ port.declared.isGeneric = false

instance (edit : Edit) : Decidable edit.AddsDefinite :=
  inferInstanceAs (Decidable (edit.Adds _))

/-- The kinds of the catalogue bring no generic shape along. -/
theorem Catalogue.addsDefinite_instantiate {kind : NodeKind} (isKind : kind ∈ arithmeticKinds)
    (id : NodeId) (portId : Direction → Nat → PortId) :
    (Edit.add (kind.instantiate id portId)).AddsDefinite := by
  have ofKind : ∀ kind ∈ arithmeticKinds, (∀ port ∈ kind.inputs, port.direction = .input) ∧
      ∀ port ∈ kind.outputs, port.direction = .output ∧ port.shape.isGeneric = false ∧
        port.declared.isGeneric = false := by
    decide +kernel
  obtain ⟨inputs, outputs⟩ := ofKind kind isKind
  -- Only the identifiers of the ports are different on the node.
  refine ⟨⟨?_, ?_⟩, ?_⟩
  · intro port isInput
    obtain ⟨index, small, rfl⟩ := List.mem_mapIdx.mp isInput
    exact inputs kind.inputs[index] (List.getElem_mem small)
  · intro port isOutput
    obtain ⟨index, small, rfl⟩ := List.mem_mapIdx.mp isOutput
    exact (outputs kind.outputs[index] (List.getElem_mem small)).1
  · intro port isOutput
    obtain ⟨index, small, rfl⟩ := List.mem_mapIdx.mp isOutput
    exact (outputs kind.outputs[index] (List.getElem_mem small)).2

namespace Graph

variable {start graph : Graph} {edit : Edit} {edits history : List Edit} {link : Link}
  {node producer consumer : Node} {output input port : Port} {shape : Shape}

theorem run_concat (start : Graph) (history : List Edit) (edit : Edit) :
    (start.run (history ++ [edit])).value.1 =
      ((start.run history).value.1.perform edit).value.1 := by
  induction history generalizing start with
  | nil => rfl
  | cons first history ih => exact ih (start.perform first).value.1

/-- The link was made while its output had this shape, and has been in place ever since. -/
def MadeFor (start : Graph) (edits : List Edit) (link : Link) (shape : Shape) : Prop :=
  ∃ before after, edits = before ++ .connect link :: after ∧
    (start.run before).value.1.refusal? link = none ∧
    (start.run before).value.1.offered? link.source = some shape ∧
    ∀ part, part <+: after →
      link ∈ (start.run (before ++ .connect link :: part)).value.1.links.toList

namespace MadeFor

theorem concat (made : start.MadeFor history link shape)
    (member : link ∈ (start.run (history ++ [edit])).value.1.links.toList) :
    start.MadeFor (history ++ [edit]) link shape := by
  obtain ⟨before, after, rfl, accepted, offered, inPlace⟩ := made
  refine ⟨before, after ++ [edit], by simp, accepted, offered, ?_⟩
  intro part isPrefix
  rcases List.prefix_concat_iff.mp isPrefix with rfl | earlier
  · simpa using member
  · exact inPlace part earlier

theorem of_accepted (accepted : (start.run history).value.1.refusal? link = none)
    (offered : (start.run history).value.1.offered? link.source = some shape)
    (member : link ∈ (start.run (history ++ [.connect link])).value.1.links.toList) :
    start.MadeFor (history ++ [.connect link]) link shape := by
  refine ⟨history, [], rfl, accepted, offered, ?_⟩
  intro part isPrefix
  rw [List.prefix_nil.mp isPrefix]
  exact member

end MadeFor

theorem Joins.offered? (joins : graph.Joins link producer consumer output input)
    (distinct : graph.portIds.Nodup) : graph.offered? link.source = some output.shape := by
  rw [Graph.offered?, ← joins.producerId, node?_of_mem joins.producerMember, Option.bind_some,
    ← joins.outputId, port?_of_mem distinct joins.producerMember joins.outputMember,
    Option.map_some]

/-- A port that refreshes do not write keeps its shape as long as its node is there. -/
theorem Tidy.shape_eq_of_persistsAs (tidy : graph.Tidy) {later : Graph} (laterTidy : later.Tidy)
    (member : producer ∈ graph.nodes.toList) {laterProducer : Node}
    (laterMember : laterProducer ∈ later.nodes.toList)
    (persists : producer.PersistsAs laterProducer) (isPort : output ∈ producer.ports)
    {laterOutput : Port}
    (laterPort : laterOutput ∈ laterProducer.ports) (sameBlank : laterOutput.blank = output.blank)
    (steady : ¬ producer.Reshapes output.id) : laterOutput.shape = output.shape := by
  have sameId : laterOutput.id = output.id := Port.view_congr Port.id sameBlank fun _ => rfl
  cases inference : producer.inference with
  | fixed =>
      rw [persists.fixed inference] at laterPort
      rw [port_eq_of_id tidy.distinct member laterPort isPort sameId]
  | arithmetic locked =>
      have laterInference : laterProducer.inference = .arithmetic locked :=
        (Node.inference_eq_of_blank_eq persists.blank).trans inference
      have laterSteady : ¬ laterProducer.Reshapes laterOutput.id := by
        rw [Node.reshapes_eq persists.blank, sameId]
        exact steady
      calc
        laterOutput.shape = laterOutput.declared :=
          (laterTidy.declared laterProducer laterMember locked laterInference).shape_eq_declared
            laterInference laterPort laterSteady
        _ = output.declared := Port.view_congr Port.declared sameBlank fun _ => rfl
        _ = output.shape :=
          ((tidy.declared producer member locked inference).shape_eq_declared inference isPort
            steady).symm

/-- The link was made for a shape that its input accepts, and which its output still has unless
refreshes write it. -/
structure Checked (start : Graph) (edits : List Edit) (link : Link) (shape : Shape)
    (producer consumer : Node) (output input : Port) : Prop
    extends (start.run edits).value.1.Joins link producer consumer output input where
  made : start.MadeFor edits link shape
  fits : input.declared.accepts shape = true
  kept : ¬ producer.Reshapes output.id → output.shape = shape

theorem Tidy.checked_concat (tidy : (start.run history).value.1.Tidy)
    (novel : edit.Novel (start.run history).value.1)
    (checked : ∀ link ∈ (start.run history).value.1.links.toList,
      ∃ shape producer consumer output input,
        start.Checked history link shape producer consumer output input)
    (member : link ∈ (start.run (history ++ [edit])).value.1.links.toList) :
    ∃ shape producer consumer output input,
      start.Checked (history ++ [edit]) link shape producer consumer output input := by
  -- What was known of the two ports before the edit, be the link old or new.
  obtain ⟨shape, producer, consumer, output, input, joins, uninvolved, made, fits, kept⟩ :
      ∃ shape producer consumer output input,
        (start.run history).value.1.Joins link producer consumer output input ∧
        (∀ id, edit = .remove id → link.source.node ≠ id ∧ link.target.node ≠ id) ∧
        start.MadeFor (history ++ [edit]) link shape ∧ input.declared.accepts shape = true ∧
        (¬ producer.Reshapes output.id → output.shape = shape) := by
    have edited := run_concat start history edit ▸ member
    rcases mem_links_perform edited with ⟨old, uninvolved⟩ | ⟨rfl, accepted⟩
    · obtain ⟨shape, producer, consumer, output, input, known⟩ := checked link old
      exact ⟨shape, producer, consumer, output, input, known.toJoins, uninvolved,
        known.made.concat member, known.fits, known.kept⟩
    · obtain ⟨producer, consumer, output, input, admits⟩ := refusal?_eq_none_iff.mp accepted
      exact ⟨output.shape, producer, consumer, output, input, admits.joins,
        fun _ isRemove => Edit.noConfusion isRemove,
        .of_accepted accepted (admits.joins.offered? tidy.distinct) member, admits.fits,
        fun _ => rfl⟩
  obtain ⟨laterProducer, laterConsumer, laterOutput, laterInput, laterJoins, persists, sameOutput,
    sameInput⟩ := joins.perform novel.addsNew uninvolved
  have sameDeclared : laterInput.declared = input.declared :=
    Port.view_congr Port.declared sameInput fun _ => rfl
  have sameId : laterOutput.id = output.id := Port.view_congr Port.id sameOutput fun _ => rfl
  refine ⟨shape, laterProducer, laterConsumer, laterOutput, laterInput, ?_⟩
  constructor
  case toJoins =>
    rw [run_concat]
    exact laterJoins
  case made => exact made
  case fits =>
    rw [sameDeclared]
    exact fits
  case kept =>
    intro steady
    rw [Node.reshapes_eq persists.blank, sameId] at steady
    rw [tidy.shape_eq_of_persistsAs (tidy.perform novel) joins.producerMember
      laterJoins.producerMember persists joins.outputMember laterJoins.outputMember sameOutput
      steady]
    exact kept steady

theorem NovelRun.exists_checked (novel : start.NovelRun edits) (tidy : start.Tidy)
    (unlinked : start.links.toList = []) :
    ∀ link ∈ (start.run edits).value.1.links.toList, ∃ shape producer consumer output input,
      start.Checked edits link shape producer consumer output input := by
  -- What is known of a link speaks of the edits so far, so the invariant says where they led.
  have invariant := novel.induction
    (fun history graph => graph = (start.run history).value.1 ∧ graph.Tidy ∧
      ∀ link ∈ graph.links.toList, ∃ shape producer consumer output input,
        start.Checked history link shape producer consumer output input)
    ?_ [] ⟨rfl, tidy, ?_⟩
  · exact invariant.2.2
  · rintro history _ edit ⟨rfl, tidy, checked⟩ novel
    refine ⟨(run_concat start history edit).symm, tidy.perform novel, ?_⟩
    rw [← run_concat]
    exact fun link member => tidy.checked_concat novel checked member
  · intro link member
    have initial : link ∈ start.links.toList := member
    rw [unlinked] at initial
    exact absurd initial List.not_mem_nil

theorem NovelRun.freshRun (novel : graph.NovelRun edits)
    (definite : ∀ edit ∈ edits, edit.AddsDefinite) : graph.FreshRun edits :=
  (novel.and_forall definite).mono fun _ _ ⟨isNovel, isDefinite⟩ =>
    ⟨isNovel, isDefinite.mono fun _ definite => definite.1⟩

theorem Wired.exists_output_of_carried? (wired : graph.Wired) (member : node ∈ graph.nodes.toList)
    (isInput : port ∈ node.inputs) (carried : graph.carried? port.id = some shape) :
    ∃ producer ∈ graph.nodes.toList, graph.Feeds producer.id node.id ∧
      ∃ output ∈ producer.outputs, output.shape = shape := by
  rw [carried?_eq] at carried
  obtain ⟨link, found, offered⟩ := Option.bind_eq_some_iff.mp carried
  have linkMember : link ∈ graph.links.toList := List.mem_of_find?_eq_some found
  have samePort : link.target.port = port.id := by simpa using List.find?_some found
  have target := wired.plugged.target_eq member isInput linkMember samePort
  obtain ⟨producer, consumer, output, input, joins, isOutput, -⟩ := wired.exists_joins linkMember
  refine ⟨producer, joins.producerMember, ?_, output, isOutput, ?_⟩
  · exact ⟨link, linkMember, joins.producerId.symm, congrArg Endpoint.node target⟩
  · rw [joins.offered? wired.distinct] at offered
    exact Option.some.inj offered

/-- If no generic shape is brought along, then none comes about at an output. -/
theorem Settled.isGeneric_output (settled : graph.Settled)
    (stems : graph.Everywhere fun node => ∃ added, StemsFrom edits added node)
    (definite : ∀ edit ∈ edits, edit.AddsDefinite) :
    graph.Everywhere fun node => ∀ port ∈ node.outputs, port.shape.isGeneric = false := by
  refine settled.wired.layered.forall_node fun node member earlier port isOutput => ?_
  obtain ⟨added, stems⟩ := stems node member
  obtain ⟨-, addedDefinite⟩ := definite _ (add_mem_of_lastAdded? stems.isLast)
  cases inference : node.inference with
  | fixed =>
      rw [stems.fixed inference] at isOutput
      exact (addedDefinite port isOutput).1
  | arithmetic locked =>
      have unchanged := settledAt_iff.mp (settled.settledAt node.id) node (node?_of_mem member)
      rw [renewed_of_arithmetic inference] at unchanged
      rcases (settled.declared node member locked inference).shape_of_refreshed_eq
        (length_incoming graph node) unchanged isOutput with asDeclared | isResult
      · have sameDeclared := (Node.map_ports_congr Port.declared stems.blank fun _ => rfl).2
        have isDeclared : port.declared ∈ added.outputs.map Port.declared :=
          sameDeclared ▸ List.mem_map_of_mem isOutput
        obtain ⟨declared, isAdded, sameShape⟩ := List.mem_map.mp isDeclared
        rw [asDeclared, ← sameShape]
        exact (addedDefinite declared isAdded).2
      · -- By now it is known that the producers give nothing generic.
        rw [isResult]
        refine Snapshot.isGeneric_result_told fun shape isIncoming => ?_
        obtain ⟨input, isInput, carried⟩ := List.mem_map.mp isIncoming
        obtain ⟨producer, producerMember, feeds, output, outputMember, rfl⟩ :=
          settled.wired.exists_output_of_carried? member isInput carried
        exact earlier producer producerMember feeds output outputMember

/--
Every link of a novel run was made for a shape that the declared shape of its
input accepts.  Its output still has this shape, and so still fits, unless
refreshes write it.  And if no generic shape is brought along, then an input that
was declared pending always accepts what its output has.
-/
theorem accepts_of_novelRun (name : String) (settings : Settings) (edits : List Edit)
    (novel : (blank name settings).NovelRun edits) :
    let start := blank name settings
    let graph := (start.run edits).value.1
    ∀ link ∈ graph.links.toList, ∃ shape producer consumer output input,
      start.MadeFor edits link shape ∧ graph.Joins link producer consumer output input ∧
      input.declared.accepts shape = true ∧
      (¬ producer.Reshapes output.id →
        output.shape = shape ∧ input.declared.accepts output.shape = true) ∧
      ((∀ edit ∈ edits, edit.AddsDefinite) → input.declared = .pending →
        input.declared.accepts output.shape = true) := by
  intro start graph link member
  obtain ⟨shape, producer, consumer, output, input, checked⟩ :=
    novel.exists_checked (tidy_blank name settings) rfl link member
  refine ⟨shape, producer, consumer, output, input, checked.made, checked.toJoins, checked.fits,
    ?_, ?_⟩
  · intro steady
    have kept := checked.kept steady
    exact ⟨kept, kept ▸ checked.fits⟩
  · intro definite isPending
    have fresh := novel.freshRun definite
    have settled : graph.Settled := (settled_blank name settings).run fresh
    have isOutput : output ∈ producer.outputs :=
      (settled.wired.directed producer checked.producerMember).mem_outputs
        (port?_of_mem settled.wired.distinct checked.producerMember checked.outputMember)
        checked.leaves
    have known := settled.isGeneric_output (fresh.stemsFrom rfl) definite producer
      checked.producerMember output isOutput
    rw [isPending, Shape.pending_accepts, known]
    rfl

end Graph

namespace Sample

def scalar : Node :=
  (Catalogue.constant "value" "Value" .scalar).instantiate ⟨.ofNat 3⟩ fun _ _ => ⟨.ofNat 40⟩

def absolute : Node :=
  (Catalogue.componentwise "abs" "Abs" "Absolute value" ["In"]).instantiate ⟨.ofNat 4⟩ fun
    | .input, _ => ⟨.ofNat 50⟩
    | .output, _ => ⟨.ofNat 60⟩

def sink : Node where
  id := ⟨.ofNat 5⟩
  kind := "sink"
  name := "Sink"
  inference := .fixed
  inputs := [.declare .input ⟨.ofNat 70⟩ "Factor" .scalar]
  outputs := []

/-- Edits that wire a scalar into a sink through an absolute value, and then a vector instead. -/
def rewiring : List Edit :=
  [ .add scalar, .add vector, .add absolute, .add sink,
    .connect ⟨⟨.ofNat 1⟩, ⟨⟨.ofNat 3⟩, ⟨.ofNat 40⟩⟩, ⟨⟨.ofNat 4⟩, ⟨.ofNat 50⟩⟩⟩,
    .connect ⟨⟨.ofNat 2⟩, ⟨⟨.ofNat 4⟩, ⟨.ofNat 60⟩⟩, ⟨⟨.ofNat 5⟩, ⟨.ofNat 70⟩⟩⟩,
    .disconnect ⟨.ofNat 1⟩,
    .connect ⟨⟨.ofNat 3⟩, ⟨⟨.ofNat 1⟩, ⟨.ofNat 10⟩⟩, ⟨⟨.ofNat 4⟩, ⟨.ofNat 50⟩⟩⟩ ]

/-- In the end the sink is fed a vector. -/
theorem not_accepts_rewiring :
    (Graph.blank "Rewiring" {}).NovelRun rewiring ∧
      (let graph := ((Graph.blank "Rewiring" {}).run rewiring).value.1
      ∃ link ∈ graph.links.toList, ∃ producer ∈ graph.nodes.toList,
        ∃ consumer ∈ graph.nodes.toList, ∃ output ∈ producer.outputs, ∃ input ∈ consumer.inputs,
          link.source = ⟨producer.id, output.id⟩ ∧ link.target = ⟨consumer.id, input.id⟩ ∧
          output.shape ≠ .pending ∧ input.declared.accepts output.shape = false) := by
  decide +kernel

/-- The links of the rewired graph fit what they were made for, and those into the absolute value
fit what they carry. -/
theorem accepts_rewiring :
    (Graph.blank "Rewiring" {}).NovelRun rewiring ∧ (∀ edit ∈ rewiring, edit.AddsDefinite) ∧
      (let graph := ((Graph.blank "Rewiring" {}).run rewiring).value.1
      graph.links.toList.length = 2 ∧
      ∀ link ∈ graph.links.toList, ∃ shape producer consumer output input,
        (Graph.blank "Rewiring" {}).MadeFor rewiring link shape ∧
        graph.Joins link producer consumer output input ∧ input.declared.accepts shape = true ∧
        (input.declared = .pending → input.declared.accepts output.shape = true)) := by
  have novel : (Graph.blank "Rewiring" {}).NovelRun rewiring := by decide +kernel
  have definite : ∀ edit ∈ rewiring, edit.AddsDefinite := by decide +kernel
  refine ⟨novel, definite, by decide +kernel, fun link member => ?_⟩
  obtain ⟨shape, producer, consumer, output, input, made, joins, fits, -, accepts⟩ :=
    Graph.accepts_of_novelRun "Rewiring" {} rewiring novel link member
  exact ⟨shape, producer, consumer, output, input, made, joins, fits, accepts definite⟩

end Sample

end DataflowTyping
