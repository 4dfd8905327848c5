import DataflowTyping.Proofs.ArithmeticRun

/-!
# How wide operands are when they are used

An operation works by component on operands that were widened as their casts
say.  Only vectors of two components are ever widened, and they are widened to
the result.  So an operand is used as a scalar or with as many components as the
result has, with one exception: a vector of three components stays as it is
beside one of four.
-/

namespace DataflowTyping

theorem Shape.components?_of_isConcrete {shape : Shape} (known : shape.isConcrete = true) :
    shape.components? = some shape.width := by
  obtain ⟨width, isWidth⟩ := Option.isSome_iff_exists.mp known
  rw [Shape.width, isWidth, Option.getD_some]

theorem Port.effectiveComponents?_of_dueCast {port : Port} {result : Shape}
    (known : port.shape.isConcrete = true) (resultKnown : result.isConcrete = true)
    (narrower : port.shape.width ≤ result.width) (due : port.cast = port.dueCast result) :
    (port.shape = .vec3 ∧ result.width = 4 → port.effectiveComponents? = some 3) ∧
      (¬ (port.shape = .vec3 ∧ result.width = 4) →
        port.effectiveComponents? = some 1 ∨ port.effectiveComponents? = some result.width) := by
  unfold effectiveComponents? components?
  rw [due, dueCast]
  generalize port.shape = shape at known narrower
  revert known resultKnown narrower
  cases shape <;> cases result <;> decide

namespace Graph

variable {graph : Graph} {node : Node}

theorem Regular.castsFollow (regular : graph.Regular) (member : node ∈ graph.nodes.toList) :
    node.CastsFollow := by
  have unchanged := settledAt_iff.mp (regular.settled.settledAt node.id) node (node?_of_mem member)
  rw [← unchanged]
  exact castsFollow_renewed graph node

theorem Regular.input_below_output (regular : graph.Regular) (member : node ∈ graph.nodes.toList)
    (unlocked : node.inference = .arithmetic false) (fed : graph.Fed node) :
    ∃ output, node.outputs = [output] ∧ output.shape.isConcrete = true ∧
      ∀ input ∈ node.inputs,
        input.shape.isConcrete = true ∧ input.shape.width ≤ output.shape.width := by
  obtain ⟨output, isOnly, isKnown, -, greatest⟩ := regular.result_greatest member unlocked fed
  refine ⟨output, isOnly, isKnown, fun input isInput => ?_⟩
  obtain ⟨link, isLink, target, -⟩ := fed input isInput
  obtain ⟨carried, -⟩ := regular.carried?_of_link member isInput isLink target
  have isIncoming : some input.shape ∈ graph.incoming node :=
    List.mem_map.mpr ⟨input, isInput, carried⟩
  obtain ⟨shape, same, inputKnown⟩ := regular.incoming_known member fed _ isIncoming
  rw [← Option.some.inj same] at inputKnown
  exact ⟨inputKnown, greatest _ isIncoming⟩

/--
In a run that adds nodes of the catalogue of arithmetic under new identifiers,
take an operation that is not locked and whose operands are all known.  Each
operand is used as a scalar or with as many components as the result has, except
that a vector of three components stays one for a result of four.
-/
theorem operand_widths_of_arithmetic_run (name : String) (settings : Settings) (edits : List Edit)
    (novel : (blank name settings).NovelRun edits)
    (adds : ∀ edit ∈ edits, edit.AddsFrom .arithmetic) :
    let graph := ((blank name settings).run edits).value.1
    ∀ node ∈ graph.nodes.toList, node.inference = .arithmetic false → graph.Fed node →
      ∃ output width, node.outputs = [output] ∧ output.components? = some width ∧
        ∀ input ∈ node.inputs,
          (input.shape = .vec3 ∧ width = 4 → input.effectiveComponents? = some 3) ∧
          (¬ (input.shape = .vec3 ∧ width = 4) →
            input.effectiveComponents? = some 1 ∨ input.effectiveComponents? = some width) := by
  intro graph node member unlocked fed
  obtain ⟨⟨regular, -⟩, -⟩ := NovelRun.regular name settings novel adds
  obtain ⟨output, isOnly, isKnown, below⟩ := regular.input_below_output member unlocked fed
  refine ⟨output, output.shape.width, isOnly, Shape.components?_of_isConcrete isKnown, ?_⟩
  intro input isInput
  obtain ⟨inputKnown, narrower⟩ := below input isInput
  have first : node.outputs.head? = some output := by rw [isOnly, List.head?_cons]
  exact Port.effectiveComponents?_of_dueCast inputKnown isKnown narrower
    (regular.castsFollow member unlocked output first input isInput)

end Graph

namespace Sample

def quadruple : Node :=
  (Catalogue.constant "vector4" "Vector 4" .vec4).instantiate ⟨.ofNat 10⟩ fun _ _ => ⟨.ofNat 130⟩

/-- Edits that blend vectors of two, three and four components. -/
def unevenBlending : List Edit :=
  [ .add plane, .add vector, .add quadruple, .add blend,
    .connect ⟨⟨.ofNat 1⟩, ⟨⟨.ofNat 6⟩, ⟨.ofNat 80⟩⟩, ⟨⟨.ofNat 9⟩, ⟨.ofNat 110⟩⟩⟩,
    .connect ⟨⟨.ofNat 2⟩, ⟨⟨.ofNat 1⟩, ⟨.ofNat 10⟩⟩, ⟨⟨.ofNat 9⟩, ⟨.ofNat 111⟩⟩⟩,
    .connect ⟨⟨.ofNat 3⟩, ⟨⟨.ofNat 10⟩, ⟨.ofNat 130⟩⟩, ⟨⟨.ofNat 9⟩, ⟨.ofNat 112⟩⟩⟩ ]

theorem addsFrom_unevenBlending : ∀ edit ∈ unevenBlending, edit.AddsFrom .arithmetic := by
  simp only [unevenBlending, List.forall_mem_cons]
  refine ⟨Catalogue.offers_instantiate ?_ _ _, Catalogue.offers_instantiate ?_ _ _,
    Catalogue.offers_instantiate ?_ _ _, Catalogue.offers_instantiate ?_ _ _, trivial, trivial,
    trivial, nofun⟩
  all_goals decide +kernel

theorem exists_blend_unevenBlending :
    let graph := ((Graph.blank "Blending" {}).run unevenBlending).value.1
    ∃ node ∈ graph.nodes.toList, node.inference = .arithmetic false ∧ graph.Fed node ∧
      node.outputs.map Port.components? = [some 4] ∧
      node.inputs.map Port.shape = [.vec2, .vec3, .vec4] := by
  intro graph
  have present : ∃ node ∈ graph.nodes.toList, node.inference = .arithmetic false ∧
      (∀ port ∈ node.inputs, ∃ link ∈ graph.links.toList, link.target = ⟨node.id, port.id⟩ ∧
        (graph.offered? link.source).isSome = true ∧
        graph.offered? link.source ≠ some .pending) ∧
      node.outputs.map Port.components? = [some 4] ∧
      node.inputs.map Port.shape = [.vec2, .vec3, .vec4] := by
    decide +kernel
  obtain ⟨node, member, unlocked, linked, ports⟩ := present
  refine ⟨node, member, unlocked, fun port isInput => ?_, ports⟩
  obtain ⟨link, isLink, target, isOffered, notPending⟩ := linked port isInput
  obtain ⟨shape, offered⟩ := Option.isSome_iff_exists.mp isOffered
  refine ⟨link, isLink, target, shape, offered, ?_⟩
  rintro rfl
  exact notPending offered

/-- Some operand of the blend is neither a scalar nor as wide as the result. -/
theorem uneven_operand_of_blend :
    (Graph.blank "Blending" {}).NovelRun unevenBlending ∧
      (∀ edit ∈ unevenBlending, edit.AddsFrom .arithmetic) ∧
      (let graph := ((Graph.blank "Blending" {}).run unevenBlending).value.1
      ∃ node ∈ graph.nodes.toList, node.inference = .arithmetic false ∧ graph.Fed node ∧
        node.outputs.map Port.components? = [some 4] ∧
        ¬ ∀ input ∈ node.inputs,
          input.effectiveComponents? = some 1 ∨ input.effectiveComponents? = some 4) := by
  refine ⟨by decide +kernel, addsFrom_unevenBlending, ?_⟩
  intro graph
  obtain ⟨node, member, unlocked, fed, outputs, inputs⟩ := exists_blend_unevenBlending
  refine ⟨node, member, unlocked, fed, outputs, fun even => ?_⟩
  have uneven : ∀ node ∈ graph.nodes.toList, node.inputs.map Port.shape = [.vec2, .vec3, .vec4] →
      ∃ input ∈ node.inputs, input.effectiveComponents? = some 3 := by
    decide +kernel
  obtain ⟨input, isInput, isUneven⟩ := uneven node member inputs
  have oneOrFour := even input isInput
  rw [isUneven] at oneOrFour
  revert oneOrFour
  decide

/-- The vector of two components is widened to four, and that of three keeps its own. -/
theorem operand_widths_unevenBlending :
    (Graph.blank "Blending" {}).NovelRun unevenBlending ∧
      (∀ edit ∈ unevenBlending, edit.AddsFrom .arithmetic) ∧
      (let graph := ((Graph.blank "Blending" {}).run unevenBlending).value.1
      ∃ node ∈ graph.nodes.toList, node.inference = .arithmetic false ∧ graph.Fed node ∧
        node.inputs.map Port.shape = [.vec2, .vec3, .vec4] ∧
        ∃ output, node.outputs = [output] ∧ output.components? = some 4 ∧
          ∀ input ∈ node.inputs,
            (input.shape = .vec3 → input.effectiveComponents? = some 3) ∧
            (input.shape ≠ .vec3 → input.effectiveComponents? = some 1 ∨
              input.effectiveComponents? = some 4)) := by
  have novel : (Graph.blank "Blending" {}).NovelRun unevenBlending := by decide +kernel
  obtain ⟨node, member, unlocked, fed, outputs, inputs⟩ := exists_blend_unevenBlending
  obtain ⟨output, width, isOnly, isWidth, widths⟩ := Graph.operand_widths_of_arithmetic_run
    "Blending" {} unevenBlending novel addsFrom_unevenBlending node member unlocked fed
  rw [isOnly, List.map_singleton, List.singleton_inj] at outputs
  obtain rfl : width = 4 := Option.some.inj (isWidth.symm.trans outputs)
  refine ⟨novel, addsFrom_unevenBlending, node, member, unlocked, fed, inputs, output, isOnly,
    outputs, fun input isInput => ?_⟩
  obtain ⟨exception, rule⟩ := widths input isInput
  exact ⟨fun isVec3 => exception ⟨isVec3, rfl⟩, fun notVec3 => rule fun both => notVec3 both.1⟩

end Sample

end DataflowTyping
