import DataflowTyping.Proofs.DefiniteShapes
import DataflowTyping.Proofs.Widening

/-!
# Graphs of arithmetic

Nodes of the catalogue of arithmetic are constants, operations and reductions.
In a graph of such nodes every output is pending or has a known number of
components, and so has every input with a link; an input without one is pending
or says which vector may come.  An operation with all its operands gives a known
number of components.  No link is refused because of shapes, and nothing clashes.
-/

namespace DataflowTyping

namespace Port

/-- What the declaration of a port says apart from names. -/
def traits (port : Port) : Direction × Shape × Bool :=
  (port.direction, port.declared, port.manyLinks)

theorem map_mapIdx_withId {View : Type} (view : Port → View)
    (blind : ∀ port id, view (port.withId id) = view port) (ports : List Port)
    (portId otherId : Nat → PortId) :
    (ports.mapIdx fun index port => port.withId (portId index)).map view =
      (ports.mapIdx fun index port => port.withId (otherId index)).map view := by
  apply List.ext_getElem
  · simp
  · simp [blind]

end Port

namespace Node

variable {node first second : Node}

/--
A node as the catalogue of arithmetic has them.  A constant has no inputs and
its output a known shape.  An operation has inputs, and its output was declared
pending, or a scalar if it is locked.
-/
structure Standard (node : Node) : Prop where
  inputs : ∀ port ∈ node.inputs, port.traits = (.input, .pending, false)
  outputs : ∀ port ∈ node.outputs, port.direction = .output
  oneOutput : node.outputs.length = 1
  constant : node.inference = .fixed → node.inputs = [] ∧
    ∀ port ∈ node.outputs, port.shape.isConcrete = true
  operation : ∀ locked, node.inference = .arithmetic locked → node.inputs ≠ [] ∧
    ∀ port ∈ node.outputs, port.declared = if locked then .scalar else .pending

instance (node : Node) : Decidable node.Standard :=
  decidable_of_iff
    ((∀ port ∈ node.inputs, port.traits = (.input, .pending, false)) ∧
      (∀ port ∈ node.outputs, port.direction = .output) ∧ node.outputs.length = 1 ∧
      (node.inference = .fixed → node.inputs = [] ∧
        ∀ port ∈ node.outputs, port.shape.isConcrete = true) ∧
      ∀ locked, node.inference = .arithmetic locked → node.inputs ≠ [] ∧
        ∀ port ∈ node.outputs, port.declared = if locked then .scalar else .pending)
    ⟨fun ⟨inputs, outputs, oneOutput, constant, operation⟩ =>
      ⟨inputs, outputs, oneOutput, constant, operation⟩,
     fun ⟨inputs, outputs, oneOutput, constant, operation⟩ =>
      ⟨inputs, outputs, oneOutput, constant, operation⟩⟩

/-- Whether a node is standard can be told from the declarations of its ports, and from the shape
that a constant has. -/
theorem Standard.congr (standard : first.Standard)
    (sameInference : first.inference = second.inference)
    (sameInputs : first.inputs.map Port.traits = second.inputs.map Port.traits)
    (sameOutputs : first.outputs.map Port.traits = second.outputs.map Port.traits)
    (sameShapes : first.inference = .fixed →
      first.outputs.map Port.shape = second.outputs.map Port.shape) : second.Standard := by
  have fromFirst {View : Type} {view : Port → View} {ports others : List Port}
      (same : ports.map view = others.map view) {port : Port} (member : port ∈ others) :
      ∃ old ∈ ports, view old = view port :=
    List.mem_map.mp (same ▸ List.mem_map_of_mem member)
  constructor
  case inputs =>
    intro port isInput
    obtain ⟨old, isOld, same⟩ := fromFirst sameInputs isInput
    rw [← same]
    exact standard.inputs old isOld
  case outputs =>
    intro port isOutput
    obtain ⟨old, isOld, same⟩ := fromFirst sameOutputs isOutput
    exact (congrArg Prod.fst same).symm.trans (standard.outputs old isOld)
  case oneOutput =>
    have sameLength := congrArg List.length sameOutputs
    simp only [List.length_map] at sameLength
    rw [← sameLength, standard.oneOutput]
  case constant =>
    intro fixed
    rw [← sameInference] at fixed
    obtain ⟨noInputs, known⟩ := standard.constant fixed
    rw [noInputs, List.map_nil, eq_comm, List.map_eq_nil_iff] at sameInputs
    refine ⟨sameInputs, fun port isOutput => ?_⟩
    obtain ⟨old, isOld, same⟩ := fromFirst (sameShapes fixed) isOutput
    rw [← same]
    exact known old isOld
  case operation =>
    intro locked arithmetic
    rw [← sameInference] at arithmetic
    obtain ⟨someInput, declared⟩ := standard.operation locked arithmetic
    refine ⟨?_, fun port isOutput => ?_⟩
    · rintro noInputs
      rw [noInputs, List.map_nil, List.map_eq_nil_iff] at sameInputs
      exact someInput sameInputs
    · obtain ⟨old, isOld, same⟩ := fromFirst sameOutputs isOutput
      exact (congrArg (·.2.1) same).symm.trans (declared old isOld)

theorem Standard.persist (standard : first.Standard) (persists : first.PersistsAs second) :
    second.Standard := by
  have sameBlank := persists.blank.symm
  obtain ⟨sameInputs, sameOutputs⟩ := map_ports_congr Port.traits sameBlank fun _ => rfl
  refine standard.congr (inference_eq_of_blank_eq sameBlank) sameInputs sameOutputs fun fixed => ?_
  rw [persists.fixed fixed]

theorem Standard.directed (standard : node.Standard) : node.Directed :=
  ⟨fun port isInput => congrArg Prod.fst (standard.inputs port isInput), standard.outputs⟩

theorem Standard.exists_output (standard : node.Standard) : ∃ output, node.outputs = [output] :=
  List.length_eq_one_iff.mp standard.oneOutput

theorem Standard.isArithmetic {port : Port} (standard : node.Standard)
    (isInput : port ∈ node.inputs) : ∃ locked, node.inference = .arithmetic locked := by
  cases inference : node.inference with
  | fixed =>
      rw [(standard.constant inference).1] at isInput
      exact absurd isInput List.not_mem_nil
  | arithmetic locked => exact ⟨locked, rfl⟩

end Node

namespace Catalogue

/--
The node was created from a kind on offer.  Its name may be its own, and it may have
been in a graph, where refreshes wrote shapes and casts.
-/
def Offers (catalogue : Catalogue) (node : Node) : Prop :=
  ∃ portId made, catalogue.create? node.kind node.id portId = some made ∧
    Node.PersistsAs { made with name := node.name } node

theorem toList_arithmetic : arithmetic.toList = arithmeticKinds := by
  decide +kernel

theorem offers_instantiate {kind : NodeKind} (isKind : kind ∈ arithmeticKinds) (id : NodeId)
    (portId : Direction → Nat → PortId) : arithmetic.Offers (kind.instantiate id portId) := by
  have found : arithmetic.find? kind.id = some kind :=
    Keyed.find?_eq_some_iff.mpr ⟨toList_arithmetic ▸ isKind, rfl⟩
  exact ⟨portId, kind.instantiate id portId, Option.map_eq_some_iff.mpr ⟨kind, found, rfl⟩,
    .refl _⟩

namespace Offers

variable {node : Node}

/-- Whatever becomes of a node in a graph, it may be added to another one. -/
theorem persist {catalogue : Catalogue} {later : Node} (offered : catalogue.Offers node)
    (persists : node.PersistsAs later) : catalogue.Offers later := by
  obtain ⟨portId, made, created, isMade⟩ := offered
  have sameKind : later.kind = node.kind := by simpa using congrArg Node.kind persists.blank
  have sameName : later.name = node.name := by simpa using congrArg Node.name persists.blank
  refine ⟨portId, made, ?_, ?_⟩
  · rw [sameKind, persists.id, created]
  · rw [sameName]
    exact isMade.trans persists

theorem exists_kind (offered : arithmetic.Offers node) :
    ∃ kind ∈ arithmeticKinds, ∃ portId,
      Node.PersistsAs { kind.instantiate node.id portId with name := node.name } node := by
  obtain ⟨portId, made, created, isMade⟩ := offered
  obtain ⟨kind, found, rfl⟩ := Option.map_eq_some_iff.mp created
  exact ⟨kind, toList_arithmetic ▸ Keyed.mem_of_find? found, portId, isMade⟩

theorem standard (offered : arithmetic.Offers node) : node.Standard := by
  obtain ⟨kind, isKind, portId, persists⟩ := offered.exists_kind
  have ofKind : ∀ kind ∈ arithmeticKinds,
      (kind.instantiate ⟨.zero⟩ fun _ _ => ⟨.zero⟩).Standard := by
    decide +kernel
  refine Node.Standard.persist ?_ persists
  -- An instance differs from the one with the identifier zero throughout in identifiers only.
  refine (ofKind kind isKind).congr rfl ?_ ?_ fun _ => ?_
  · exact Port.map_mapIdx_withId Port.traits (fun _ _ => rfl) kind.inputs _ _
  · exact Port.map_mapIdx_withId Port.traits (fun _ _ => rfl) kind.outputs _ _
  · exact Port.map_mapIdx_withId Port.shape (fun _ _ => rfl) kind.outputs _ _

/-- A refresh with nothing wired in leaves no generic shape at the output. -/
theorem definite_renewed {graph : Graph} (offered : arithmetic.Offers node)
    (unlinked : ∀ shape ∈ graph.incoming node, shape = none) :
    (graph.renewed node).Definite := by
  obtain ⟨kind, isKind, portId, persists⟩ := offered.exists_kind
  obtain ⟨-, definite⟩ := addsDefinite_instantiate isKind node.id portId
  cases inference : node.inference with
  | fixed =>
      have sameInference := Node.inference_eq_of_blank_eq persists.blank
      rw [Graph.renewed, inference, persists.fixed (sameInference.symm.trans inference)]
      exact definite
  | arithmetic locked =>
      have sameDeclared := (Node.map_ports_congr Port.declared persists.blank fun _ => rfl).2
      have declared : ∀ shape ∈ node.outputs.map Port.declared, shape.isGeneric = false := by
        rw [sameDeclared, List.forall_mem_map]
        exact fun port isOutput => (definite port isOutput).2
      rw [Graph.renewed_of_arithmetic inference]
      refine Node.definite_refreshed (Graph.length_incoming graph node)
        (List.forall_mem_map.mp declared) (fun wired => ?_) fun shape isIncoming => ?_
      · rw [Snapshot.isUnwired_told.mpr unlinked] at wired
        contradiction
      · exact absurd (unlinked _ isIncoming) (Option.some_ne_none shape)

end Offers

end Catalogue

/-- An added node was created from a kind on offer. -/
def Edit.AddsFrom (catalogue : Catalogue) (edit : Edit) : Prop :=
  edit.Adds catalogue.Offers

theorem Shape.mem_of_isGeneric_eq_false {shape : Shape} (known : shape.isGeneric = false) :
    shape ∈ [.pending, .scalar, .vec2, .vec3, .vec4] := by
  revert known
  cases shape <;> decide

namespace Snapshot

theorem placeholder_told {locked : Bool} {incoming : List (Option Shape)}
    (unlinked : none ∈ incoming) :
    (told locked incoming).placeholder ∈
      [.pending, .scalarOrVec2, .scalarOrVec3, .scalarOrVec4] := by
  have several : (told locked incoming).base = .scalar →
      1 < (told locked incoming).operands.length := by
    intro scalarBase
    match incoming with
    | [] => exact absurd unlinked List.not_mem_nil
    | [given] =>
        rw [← List.mem_singleton.mp unlinked] at scalarBase
        contradiction
    | first :: second :: rest => simp [told]
  unfold placeholder
  cases base : (told locked incoming).base with
  | scalar => simp [Shape.placeholder, several base]
  | pending | vec2 | vec3 | vec4 | scalarOrVec2 | scalarOrVec3 | scalarOrVec4 =>
      simp [Shape.placeholder]

end Snapshot

namespace Graph

open Traced

variable {graph : Graph} {node : Node} {port : Port} {link : Link} {edit : Edit}
  {edits : List Edit}

theorem exists_connect_of_refused {error : LinkError}
    (refused : (graph.perform edit).value.2 = .refused error) :
    ∃ link, edit = .connect link ∧ graph.refusal? link = some error := by
  cases edit with
  | connect link =>
      refine ⟨link, rfl, ?_⟩
      cases found : graph.refusal? link with
      | none =>
          rw [perform_connect_of_accepted found] at refused
          exact Outcome.noConfusion refused
      | some other =>
          rw [perform_connect_of_refused found] at refused
          exact congrArg some (Outcome.refused.inj refused)
  | refreshAll =>
      cases found : graph.order? with
      | none =>
          rw [perform_refreshAll_of_none found] at refused
          exact Outcome.noConfusion refused
      | some order =>
          rw [perform_refreshAll_of_some found] at refused
          exact Outcome.noConfusion refused
  | add | remove | disconnect | refresh | propagate => exact Outcome.noConfusion refused

/-- Only an input of a declared shape is refused because of shapes. -/
theorem exists_of_refusal?_eq_shapesDiffer {outputShape inputShape : Shape} {name : String}
    (refused : graph.refusal? link = some (.shapesDiffer outputShape inputShape name)) :
    ∃ producer consumer output input, graph.node? link.source.node = some producer ∧
      graph.node? link.target.node = some consumer ∧
      producer.port? link.source.port = some output ∧
      consumer.port? link.target.port = some input ∧ output.direction = .output ∧
      input.direction = .input ∧ input.declared.accepts output.shape = false := by
  unfold refusal? at refused
  split at refused
  · simp at refused
  · simp at refused
  · rename_i producer consumer producerFound consumerFound
    split at refused
    · simp at refused
    · simp at refused
    · rename_i output input outputFound inputFound
      split_ifs at refused with misdirected misfits
      all_goals simp only [Option.some.injEq, reduceCtorEq] at refused
      rw [not_or, not_not, not_not] at misdirected
      exact ⟨producer, consumer, output, input, producerFound, consumerFound, outputFound,
        inputFound, misdirected.1, misdirected.2, by simpa using misfits⟩

/-- A link leads to the input. -/
def Linked (graph : Graph) (target : Endpoint) : Prop :=
  ∃ link ∈ graph.links.toList, link.target = target

/-- Links from outputs that are not pending lead into all inputs of the node. -/
def Fed (graph : Graph) (node : Node) : Prop :=
  ∀ port ∈ node.inputs, ∃ link ∈ graph.links.toList, link.target = ⟨node.id, port.id⟩ ∧
    ∃ shape, graph.offered? link.source = some shape ∧ shape ≠ .pending

/-- A settled graph of nodes of the catalogue without generic shapes at outputs. -/
structure Regular (graph : Graph) : Prop where
  settled : graph.Settled
  outputs : graph.Everywhere Node.Definite
  offered : graph.Everywhere Catalogue.arithmetic.Offers

theorem regular_blank (name : String) (settings : Settings) : (blank name settings).Regular where
  settled := settled_blank name settings
  outputs := fun _ member => absurd member List.not_mem_nil
  offered := fun _ member => absurd member List.not_mem_nil

namespace Regular

theorem definite (regular : graph.Regular) : graph.Definite :=
  ⟨regular.settled.wired, regular.outputs⟩

theorem standard (regular : graph.Regular) : graph.Everywhere Node.Standard :=
  fun node member => (regular.offered node member).standard

/-- Inputs are declared pending, and so accept whatever outputs give. -/
theorem accepts (regular : graph.Regular) {producer consumer : Node} {output input : Port}
    (producerMember : producer ∈ graph.nodes.toList)
    (consumerMember : consumer ∈ graph.nodes.toList) (isOutput : output ∈ producer.outputs)
    (isInput : input ∈ consumer.inputs) : input.declared.accepts output.shape = true := by
  have declared : input.declared = .pending :=
    congrArg (·.2.1) ((regular.standard consumer consumerMember).inputs input isInput)
  have known := (regular.outputs producer producerMember output isOutput).1
  rw [declared, Shape.pending_accepts, known]
  rfl

theorem refusal?_ne_shapesDiffer (regular : graph.Regular) (link : Link)
    (outputShape inputShape : Shape) (name : String) :
    graph.refusal? link ≠ some (.shapesDiffer outputShape inputShape name) := by
  intro refused
  obtain ⟨producer, consumer, output, input, producerFound, consumerFound, outputFound, inputFound,
    leaves, enters, misfits⟩ := exists_of_refusal?_eq_shapesDiffer refused
  have producerMember := mem_of_node? producerFound
  have consumerMember := mem_of_node? consumerFound
  have isOutput :=
    (regular.standard producer producerMember).directed.mem_outputs outputFound leaves
  have isInput := (regular.standard consumer consumerMember).directed.mem_inputs inputFound enters
  rw [regular.accepts producerMember consumerMember isOutput isInput] at misfits
  contradiction

theorem perform (regular : graph.Regular) (novel : edit.Novel graph)
    (adds : edit.AddsFrom .arithmetic) :
    (graph.perform edit).Ensures
      (fun settled => settled.1.Regular ∧ ∀ outputShape inputShape name,
        settled.2 ≠ .refused (.shapesDiffer outputShape inputShape name))
      fun event => event.isTrouble = false := by
  have fresh : edit.Fresh graph := ⟨novel, adds.mono fun _ offered => offered.standard.directed⟩
  have plugged := (regular.settled.wired.altered fresh).plugged
  have joined := regular.settled.wired.layered.joined
  obtain ⟨definite, quiet⟩ := regular.definite.perform fresh <| by
    rintro node rfl
    exact Catalogue.Offers.definite_renewed adds (plugged.incoming_of_added joined novel.1)
  have offered : (graph.perform edit).value.1.Everywhere Catalogue.arithmetic.Offers := by
    refine Everywhere.perform (fun graph node offered => ?_) ?_ regular.offered
    · exact offered.persist ((Node.PersistsAs.refl node).renewed graph)
    · rintro node rfl
      exact Catalogue.Offers.persist adds ((Node.PersistsAs.refl node).renewed _)
  refine ⟨⟨⟨regular.settled.perform fresh, definite.outputs, offered⟩, ?_⟩, quiet⟩
  intro outputShape inputShape name refused
  obtain ⟨link, -, refusal⟩ := exists_connect_of_refused refused
  exact regular.refusal?_ne_shapesDiffer link outputShape inputShape name refusal

/-- The input carries what is offered at the other end of a link into it. -/
theorem carried?_of_link (regular : graph.Regular) (member : node ∈ graph.nodes.toList)
    (isInput : port ∈ node.inputs) (isLink : link ∈ graph.links.toList)
    (target : link.target = ⟨node.id, port.id⟩) :
    graph.carried? port.id = some port.shape ∧ graph.offered? link.source = some port.shape := by
  have standard := regular.standard node member
  have one : port.manyLinks = false := congrArg (·.2.2) (standard.inputs port isInput)
  have ends : link.ends ∈ graph.links.toList.map Link.ends := List.mem_map_of_mem isLink
  rw [Link.ends, target] at ends
  have carried := regular.settled.wired.carried?_of_link member isInput one ends
  obtain ⟨producer, consumer, output, input, joins, -⟩ := regular.settled.wired.exists_joins isLink
  have offered := joins.offered? regular.settled.wired.distinct
  obtain ⟨locked, arithmetic⟩ := standard.isArithmetic isInput
  have shape := (regular.settled.settledAt node.id).shape_eq member arithmetic isInput
  rw [carried, offered, Option.getD_some] at shape
  rw [carried, offered, shape]
  exact ⟨rfl, rfl⟩

theorem isGeneric_of_link (regular : graph.Regular) (member : node ∈ graph.nodes.toList)
    (isInput : port ∈ node.inputs) (isLink : link ∈ graph.links.toList)
    (target : link.target = ⟨node.id, port.id⟩) : port.shape.isGeneric = false := by
  obtain ⟨carried, -⟩ := regular.carried?_of_link member isInput isLink target
  exact regular.definite.incoming member port.shape (List.mem_map.mpr ⟨port, isInput, carried⟩)

theorem carried?_of_no_link (regular : graph.Regular) (member : node ∈ graph.nodes.toList)
    (isInput : port ∈ node.inputs) (unlinked : ¬ graph.Linked ⟨node.id, port.id⟩) :
    graph.carried? port.id = none := by
  refine regular.settled.wired.carried?_of_no_link member isInput fun source isEnds => ?_
  obtain ⟨link, isLink, ends⟩ := List.mem_map.mp isEnds
  exact unlinked ⟨link, isLink, congrArg Prod.snd ends⟩

theorem shape_of_no_link (regular : graph.Regular) (member : node ∈ graph.nodes.toList)
    (isInput : port ∈ node.inputs) (unlinked : ¬ graph.Linked ⟨node.id, port.id⟩) :
    port.shape ∈ [.pending, .scalarOrVec2, .scalarOrVec3, .scalarOrVec4] := by
  have carried := regular.carried?_of_no_link member isInput unlinked
  obtain ⟨locked, arithmetic⟩ := (regular.standard node member).isArithmetic isInput
  rw [(regular.settled.settledAt node.id).shape_eq member arithmetic isInput, carried,
    Option.getD_none]
  exact Snapshot.placeholder_told (List.mem_map.mpr ⟨port, isInput, carried⟩)

theorem shape_output (regular : graph.Regular) (member : node ∈ graph.nodes.toList)
    (unlocked : node.inference = .arithmetic false) :
    ∃ output, node.outputs = [output] ∧
      output.shape = (Snapshot.told false (graph.incoming node)).result := by
  obtain ⟨output, isOnly⟩ := (regular.standard node member).exists_output
  refine ⟨output, isOnly, ?_⟩
  have unchanged := settledAt_iff.mp (regular.settled.settledAt node.id) node (node?_of_mem member)
  rw [renewed_of_arithmetic unlocked] at unchanged
  apply Node.shape_head_refreshed (length_incoming graph node)
  rw [unchanged, isOnly, List.head?_cons]

theorem incoming_known (regular : graph.Regular) (member : node ∈ graph.nodes.toList)
    (fed : graph.Fed node) :
    ∀ given ∈ graph.incoming node, ∃ shape, given = some shape ∧ shape.isConcrete = true := by
  intro given isIncoming
  obtain ⟨port, isInput, rfl⟩ := List.mem_map.mp isIncoming
  obtain ⟨link, isLink, target, shape, offered, notPending⟩ := fed port isInput
  obtain ⟨carried, alsoOffered⟩ := regular.carried?_of_link member isInput isLink target
  obtain rfl : shape = port.shape := Option.some.inj (offered.symm.trans alsoOffered)
  refine ⟨port.shape, carried, Shape.isConcrete_iff.mpr ⟨?_, notPending⟩⟩
  exact regular.isGeneric_of_link member isInput isLink target

/-- An operation with all its operands gives the widest of their shapes. -/
theorem result_greatest (regular : graph.Regular) (member : node ∈ graph.nodes.toList)
    (unlocked : node.inference = .arithmetic false) (fed : graph.Fed node) :
    ∃ output, node.outputs = [output] ∧ output.shape.isConcrete = true ∧
      some output.shape ∈ graph.incoming node ∧
      ∀ shape, some shape ∈ graph.incoming node → shape.width ≤ output.shape.width := by
  obtain ⟨output, isOnly, isResult⟩ := regular.shape_output member unlocked
  have someInput := ((regular.standard node member).operation false unlocked).1
  have known := regular.incoming_known member fed
  obtain ⟨isIncoming, greatest⟩ :=
    Snapshot.result_told_greatest (by simpa [incoming] using someInput) known
  rw [← isResult] at isIncoming greatest
  obtain ⟨shape, same, isKnown⟩ := known _ isIncoming
  rw [← Option.some.inj same] at isKnown
  exact ⟨output, isOnly, isKnown, isIncoming, greatest⟩

end Regular

/-- A run that adds nodes of the catalogue under new identifiers keeps the graph regular. -/
theorem NovelRun.regular (name : String) (settings : Settings)
    (novel : (blank name settings).NovelRun edits)
    (adds : ∀ edit ∈ edits, edit.AddsFrom .arithmetic) :
    ((blank name settings).run edits).Ensures
      (fun settled => settled.1.Regular ∧ ∀ outcome ∈ settled.2, ∀ outputShape inputShape name,
        outcome ≠ .refused (.shapesDiffer outputShape inputShape name))
      fun event => event.isTrouble = false :=
  (novel.and_forall adds).ensures_run
    (fun _ _ regular permitted => regular.perform permitted.1 permitted.2)
    (regular_blank name settings)

/--
In a run that adds nodes of the catalogue of arithmetic under new identifiers,
outputs and inputs with a link are pending or have a known number of components,
inputs without a link are pending or generic, and an operation whose operands
are all known gives a known number of components.  No event of the run tells of
operands that clash or cannot be cast, and no link is refused because of shapes.
-/
theorem shapes_of_arithmetic_run (name : String) (settings : Settings) (edits : List Edit)
    (novel : (blank name settings).NovelRun edits)
    (adds : ∀ edit ∈ edits, edit.AddsFrom .arithmetic) :
    let history := (blank name settings).run edits
    let graph := history.value.1
    (∀ node ∈ graph.nodes.toList,
      (∀ port ∈ node.outputs, port.shape ∈ [.pending, .scalar, .vec2, .vec3, .vec4]) ∧
      (∀ port ∈ node.inputs,
        (graph.Linked ⟨node.id, port.id⟩ →
          port.shape ∈ [.pending, .scalar, .vec2, .vec3, .vec4]) ∧
        (¬ graph.Linked ⟨node.id, port.id⟩ →
          port.shape ∈ [.pending, .scalarOrVec2, .scalarOrVec3, .scalarOrVec4])) ∧
      (node.inference = .arithmetic false → graph.Fed node →
        ∃ output, node.outputs = [output] ∧ output.shape.isConcrete = true)) ∧
    (∀ event ∈ history.events, event.isTrouble = false) ∧
    ∀ outcome ∈ history.value.2, ∀ outputShape inputShape consumer,
      outcome ≠ .refused (.shapesDiffer outputShape inputShape consumer) := by
  intro history graph
  obtain ⟨⟨regular, outcomes⟩, quiet⟩ := NovelRun.regular name settings novel adds
  refine ⟨fun node member => ⟨?_, fun port isInput => ⟨?_, ?_⟩, ?_⟩, quiet, outcomes⟩
  · intro port isOutput
    exact Shape.mem_of_isGeneric_eq_false (regular.outputs node member port isOutput).1
  · rintro ⟨link, isLink, target⟩
    exact Shape.mem_of_isGeneric_eq_false (regular.isGeneric_of_link member isInput isLink target)
  · exact regular.shape_of_no_link member isInput
  · intro unlocked fed
    obtain ⟨output, isOnly, isKnown, -⟩ := regular.result_greatest member unlocked fed
    exact ⟨output, isOnly, isKnown⟩

end Graph

namespace Sample

def norm : Node :=
  (Catalogue.reduction "length" "Length" "Vector length" ["In"]).instantiate ⟨.ofNat 8⟩ fun
    | .input, _ => ⟨.ofNat 100⟩
    | .output, _ => ⟨.ofNat 101⟩

def blend : Node :=
  (Catalogue.componentwise "lerp" "Lerp" "Blend between A and B by T" ["A", "B", "T"]).instantiate
    ⟨.ofNat 9⟩ fun
      | .input, index => ⟨.ofNat (110 + index)⟩
      | .output, _ => ⟨.ofNat 120⟩

/--
Edits that blend the sum of two vectors with the length of one of them.  In the
meantime a link from the blend back to the sum is refused.
-/
def blending : List Edit :=
  [ .add plane, .add vector, .add sum, .add norm, .add blend, .add absolute,
    .connect ⟨⟨.ofNat 1⟩, ⟨⟨.ofNat 6⟩, ⟨.ofNat 80⟩⟩, ⟨⟨.ofNat 2⟩, ⟨.ofNat 20⟩⟩⟩,
    .connect ⟨⟨.ofNat 2⟩, ⟨⟨.ofNat 2⟩, ⟨.ofNat 30⟩⟩, ⟨⟨.ofNat 9⟩, ⟨.ofNat 110⟩⟩⟩,
    .connect ⟨⟨.ofNat 3⟩, ⟨⟨.ofNat 9⟩, ⟨.ofNat 120⟩⟩, ⟨⟨.ofNat 2⟩, ⟨.ofNat 21⟩⟩⟩,
    .connect ⟨⟨.ofNat 4⟩, ⟨⟨.ofNat 1⟩, ⟨.ofNat 10⟩⟩, ⟨⟨.ofNat 2⟩, ⟨.ofNat 21⟩⟩⟩,
    .connect ⟨⟨.ofNat 5⟩, ⟨⟨.ofNat 1⟩, ⟨.ofNat 10⟩⟩, ⟨⟨.ofNat 8⟩, ⟨.ofNat 100⟩⟩⟩,
    .connect ⟨⟨.ofNat 6⟩, ⟨⟨.ofNat 8⟩, ⟨.ofNat 101⟩⟩, ⟨⟨.ofNat 9⟩, ⟨.ofNat 111⟩⟩⟩,
    .connect ⟨⟨.ofNat 7⟩, ⟨⟨.ofNat 6⟩, ⟨.ofNat 80⟩⟩, ⟨⟨.ofNat 9⟩, ⟨.ofNat 112⟩⟩⟩ ]

theorem addsFrom_blending : ∀ edit ∈ blending, edit.AddsFrom .arithmetic := by
  have offers {kind : NodeKind} (isKind : kind ∈ Catalogue.arithmeticKinds) (id : NodeId)
      (portId : Direction → Nat → PortId) :
      (Edit.add (kind.instantiate id portId)).AddsFrom .arithmetic :=
    Catalogue.offers_instantiate isKind id portId
  simp only [blending, List.forall_mem_cons]
  refine ⟨offers ?_ _ _, offers ?_ _ _, offers ?_ _ _, offers ?_ _ _, offers ?_ _ _,
    offers ?_ _ _, trivial, trivial, trivial, trivial, trivial, trivial, trivial, nofun⟩
  all_goals decide +kernel

/-- Wiring the blend meets with a circle, but with no trouble over shapes. -/
theorem shapes_blending :
    (Graph.blank "Blending" {}).NovelRun blending ∧
      (∀ edit ∈ blending, edit.AddsFrom .arithmetic) ∧
      (let history := (Graph.blank "Blending" {}).run blending
      .refused .cycle ∈ history.value.2 ∧
        (∀ node ∈ history.value.1.nodes.toList, ∀ port ∈ node.outputs,
          port.shape ∈ [.pending, .scalar, .vec2, .vec3, .vec4]) ∧
        (∀ event ∈ history.events, event.isTrouble = false) ∧
        ∀ outcome ∈ history.value.2, ∀ outputShape inputShape consumer,
          outcome ≠ .refused (.shapesDiffer outputShape inputShape consumer)) := by
  have novel : (Graph.blank "Blending" {}).NovelRun blending := by decide +kernel
  obtain ⟨shapes, quiet, outcomes⟩ :=
    Graph.shapes_of_arithmetic_run "Blending" {} blending novel addsFrom_blending
  refine ⟨novel, addsFrom_blending, by decide +kernel, ?_, quiet, outcomes⟩
  exact fun node member => (shapes node member).1

end Sample

end DataflowTyping
