import DataflowTyping.Proofs.FreshRun

/-!
# Casts follow the result

A refresh of a node whose output is not locked writes its output and all casts
together: an input that carries two components is widened to the result, and no
other input is.  Nothing but a refresh of the node writes its ports, and a node
is refreshed when it is added.  Hence casts are never out of date, whatever node
was added and whatever happened around it.
-/

namespace DataflowTyping

namespace Shape

theorem components?_eq_two_iff {shape : Shape} : shape.components? = some 2 ↔ shape = vec2 := by
  cases shape <;> decide

theorem placeholder_ne_vec2 (base : Shape) (inputCount : Nat) :
    base.placeholder inputCount ≠ vec2 := by
  unfold placeholder
  split
  · split_ifs <;> decide
  all_goals decide

end Shape

namespace Port

/-- The width to which the port is to be widened for a result of some shape. -/
def dueCast (port : Port) (result : Shape) : UInt8 :=
  if port.shape = .vec2 then result.castWidth?.getD 0 else 0

theorem cast_informed_of_unlocked {snapshot : Snapshot} (unlocked : snapshot.locked = false)
    (port : Port) (shape : Option Shape) :
    (port.informed snapshot shape).cast =
      (port.informed snapshot shape).dueCast snapshot.result := by
  have written : (port.informed snapshot shape).cast = snapshot.castFor (shape.getD .pending) := by
    simp [informed, unlocked, withCast]
  rw [written, dueCast, shape_informed, Snapshot.castFor]
  cases shape with
  | none =>
      -- The guess at an empty input is never of two components.
      have notWide : snapshot.placeholder ≠ .vec2 := Shape.placeholder_ne_vec2 _ _
      simp [Shape.components?, notWide]
  | some shape => simp only [Option.getD_some, Shape.components?_eq_two_iff]

end Port

namespace Node

variable {node : Node}

/-- Inputs are widened to the first output just as its shape requires. -/
def CastsFollow (node : Node) : Prop :=
  node.inference = .arithmetic false → ∀ output, node.outputs.head? = some output →
    ∀ input ∈ node.inputs, input.cast = input.dueCast output.shape

theorem shape_head_refreshed {incoming : List (Option Shape)} {output : Port}
    (sameLength : incoming.length = node.inputs.length)
    (first : (node.refreshed false incoming).outputs.head? = some output) :
    output.shape = (Snapshot.told false incoming).result := by
  rw [outputs_refreshed false sameLength] at first
  cases given : (if (Snapshot.told false incoming).isUnwired then node.outputs.map Port.reset
      else node.outputs) with
  | nil => simp [given] at first
  | cons old others =>
      rw [given, List.modifyHead_cons, List.head?_cons, Option.some.injEq] at first
      rw [← first]
      rfl

theorem castsFollow_refreshed {incoming : List (Option Shape)}
    (sameLength : incoming.length = node.inputs.length) :
    (node.refreshed false incoming).CastsFollow := by
  intro _ output first input isInput
  rw [inputs_refreshed false sameLength] at isInput
  obtain ⟨index, small, rfl⟩ := List.mem_iff_getElem.mp isInput
  rw [List.getElem_zipWith, shape_head_refreshed sameLength first]
  exact Port.cast_informed_of_unlocked rfl _ _

end Node

namespace Graph

variable {graph : Graph} {holds : Node → Prop}

theorem castsFollow_renewed (graph : Graph) (node : Node) : (graph.renewed node).CastsFollow := by
  intro unlocked
  have wasUnlocked : node.inference = .arithmetic false := by
    rw [← unlocked]
    exact (Node.inference_eq_of_blank_eq (blank_renewed graph node)).symm
  rw [renewed_of_arithmetic wasUnlocked] at unlocked ⊢
  exact Node.castsFollow_refreshed (length_incoming graph node) unlocked

/-- What every refresh brings about holds of all nodes after any edits. -/
theorem Everywhere.run (brought : ∀ (graph : Graph) (node : Node), holds (graph.renewed node))
    (everywhere : graph.Everywhere holds) (edits : List Edit) :
    (graph.run edits).value.1.Everywhere holds := by
  induction edits generalizing graph with
  | nil => exact everywhere
  | cons edit edits ih =>
      apply ih
      exact everywhere.perform (fun graph node _ => brought graph node)
        fun node _ => brought _ node

/--
Whatever edits were made, every input of an arithmetic node with an output that
is not locked has the cast that the shape of this output requires: an input of
two components is widened to it, and no other input is.
-/
theorem cast_eq_of_run (name : String) (settings : Settings) (edits : List Edit) :
    ∀ node ∈ ((blank name settings).run edits).value.1.nodes.toList,
      node.inference = .arithmetic false → ∀ output, node.outputs.head? = some output →
        ∀ input ∈ node.inputs,
          input.cast = if input.shape = .vec2 then output.shape.castWidth?.getD 0 else 0 := by
  have initially : (blank name settings).Everywhere Node.CastsFollow :=
    fun node member => absurd member List.not_mem_nil
  exact initially.run castsFollow_renewed edits

end Graph

namespace Sample

def plane : Node :=
  (Catalogue.constant "vector2" "Vector 2" .vec2).instantiate ⟨.ofNat 6⟩ fun _ _ => ⟨.ofNat 80⟩

/-- A node that brings generic shapes and casts along. -/
def mixer : Node where
  id := ⟨.ofNat 7⟩
  kind := "mixer"
  name := "Mixer"
  inference := .arithmetic false
  inputs :=
    [ (Port.declare .input ⟨.ofNat 90⟩ "A" .scalarOrVec2).withCast 9,
      (Port.declare .input ⟨.ofNat 91⟩ "B" .pending).withCast 5 ]
  outputs := [.declare .output ⟨.ofNat 92⟩ "Out" .scalarOrVec4]

/-- Edits that wire both vectors into the mixer. -/
def mixing : List Edit :=
  [ .add plane, .add vector, .add mixer,
    .connect ⟨⟨.ofNat 1⟩, ⟨⟨.ofNat 6⟩, ⟨.ofNat 80⟩⟩, ⟨⟨.ofNat 7⟩, ⟨.ofNat 90⟩⟩⟩,
    .connect ⟨⟨.ofNat 2⟩, ⟨⟨.ofNat 1⟩, ⟨.ofNat 10⟩⟩, ⟨⟨.ofNat 7⟩, ⟨.ofNat 91⟩⟩⟩ ]

/-- The mixer widens the vector of two components to three, and forgets its own casts. -/
theorem cast_mixing :
    let graph := ((Graph.blank "Mixing" {}).run mixing).value.1
    ∃ node ∈ graph.nodes.toList, node.id = mixer.id ∧ node.inference = .arithmetic false ∧
      ∃ output, node.outputs = [output] ∧ output.shape = .vec3 ∧
        node.inputs.map Port.shape = [.vec2, .vec3] ∧
        ∀ input ∈ node.inputs, input.cast = if input.shape = .vec2 then 3 else 0 := by
  intro graph
  have present : ∃ node ∈ graph.nodes.toList, node.id = mixer.id ∧
      node.inference = .arithmetic false ∧ node.outputs.map Port.shape = [.vec3] ∧
      node.inputs.map Port.shape = [.vec2, .vec3] := by
    decide +kernel
  obtain ⟨node, member, isMixer, unlocked, outputs, inputs⟩ := present
  obtain ⟨output, isOnly, isWide⟩ := List.map_eq_singleton_iff.mp outputs
  refine ⟨node, member, isMixer, unlocked, output, isOnly, isWide, inputs, fun input isInput => ?_⟩
  have first : node.outputs.head? = some output := by rw [isOnly, List.head?_cons]
  rw [Graph.cast_eq_of_run "Mixing" {} mixing node member unlocked output first input isInput,
    isWide]
  rfl

end Sample

end DataflowTyping
