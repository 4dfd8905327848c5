import DataflowTyping.Proofs.Propagation

/-!
# What a refresh forgets

A refresh overwrites the shapes of the inputs and, unless the output is locked,
their casts and the shape of the first output.  What stood there before, be it from
an earlier refresh or from nowhere, has no influence on what is written and on
the decision behind it.  In particular a second refresh with the same incoming
shapes decides the same and changes nothing, whether or not the inputs take over
these shapes once more.
-/

namespace DataflowTyping

namespace Port

/-- A port that carries the incoming shape does not change when it takes it over. -/
theorem withShape_of_informed (snapshot : Snapshot) (port : Port) (shape : Option Shape) :
    (port.informed snapshot shape).withShape
        (shape.getD (port.informed snapshot shape).shape) =
      port.informed snapshot shape := by
  cases shape with
  | none => rfl
  | some shape =>
      have same : (port.informed snapshot (some shape)).shape = shape :=
        shape_informed snapshot port (some shape)
      calc
        (port.informed snapshot (some shape)).withShape shape =
            (port.informed snapshot (some shape)).withShape
              (port.informed snapshot (some shape)).shape := by rw [same]
        _ = port.informed snapshot (some shape) := rfl

end Port

namespace Node

variable {node other : Node} {locked : Bool} {incoming : List (Option Shape)}

theorem map_shape_inputs_refreshed (locked : Bool)
    (sameLength : incoming.length = node.inputs.length) :
    (node.refreshed locked incoming).inputs.map Port.shape =
      incoming.map fun shape => shape.getD (Snapshot.told locked incoming).placeholder := by
  rw [inputs_refreshed locked sameLength]
  apply List.ext_getElem
  · simp [sameLength]
  · intro index _ _
    simp only [List.getElem_map, List.getElem_zipWith, Port.shape_informed]

/-- After a refresh the inputs carry what comes in. -/
theorem receive_refreshed (sameLength : incoming.length = node.inputs.length) :
    (node.refreshed locked incoming).receive incoming = node.refreshed locked incoming := by
  have stillSameLength : incoming.length = (node.refreshed locked incoming).inputs.length :=
    sameLength.trans (length_inputs_refreshed sameLength).symm
  have sameInputs : ((node.refreshed locked incoming).receive incoming).inputs =
      (node.refreshed locked incoming).inputs := by
    simp only [receive]
    rw [overlay_eq_zipWith _ stillSameLength, inputs_refreshed locked sameLength]
    apply List.ext_getElem
    · simp [sameLength]
    · intro index _ _
      simp only [List.getElem_zipWith]
      exact Port.withShape_of_informed _ _ _
  calc
    (node.refreshed locked incoming).receive incoming =
        { node.refreshed locked incoming with
          inputs := ((node.refreshed locked incoming).receive incoming).inputs } := rfl
    _ = node.refreshed locked incoming := by rw [sameInputs]

/-- A node without the shapes and casts of its inputs and without the shape of its first output. -/
def unmarked (node : Node) : Node :=
  { node with
    inputs := node.inputs.map Port.blank
    outputs := node.outputs.modifyHead fun port => port.withShape .pending }

theorem length_inputs_eq_of_unmarked_eq (sameRest : other.unmarked = node.unmarked) :
    other.inputs.length = node.inputs.length := by
  have sameInputs : other.inputs.map Port.blank = node.inputs.map Port.blank :=
    congrArg inputs sameRest
  simpa using congrArg List.length sameInputs

theorem inputs_refreshed_unmarked (sameLength : incoming.length = node.inputs.length) :
    (node.refreshed false incoming).inputs =
      List.zipWith (Port.informed (.told false incoming)) node.unmarked.inputs incoming := by
  rw [inputs_refreshed false sameLength, unmarked]
  apply List.ext_getElem
  · simp
  · intro index _ _
    simp only [List.getElem_zipWith, List.getElem_map]
    exact (Port.informed_blank (fun isLocked => absurd isLocked Bool.false_ne_true) _).symm

theorem outputs_refreshed_unmarked (sameLength : incoming.length = node.inputs.length) :
    (node.refreshed false incoming).outputs =
      (if (Snapshot.told false incoming).isUnwired then node.unmarked.outputs.map Port.reset
        else node.unmarked.outputs).modifyHead (Port.concluded (.told false incoming)) := by
  rw [outputs_refreshed false sameLength, unmarked]
  cases node.outputs with
  | nil => rfl
  | cons output others => cases (Snapshot.told false incoming).isUnwired <;> rfl

/-- Without a lock everything that is not overwritten is in the unmarked node. -/
theorem refreshed_eq_of_unmarked_eq (sameLength : incoming.length = node.inputs.length)
    (sameRest : other.unmarked = node.unmarked) :
    other.refreshed false incoming = node.refreshed false incoming := by
  have otherLength : incoming.length = other.inputs.length :=
    sameLength.trans (length_inputs_eq_of_unmarked_eq sameRest).symm
  have fromUnmarked (node : Node) : node.refreshed false incoming =
      { node.unmarked with
        inputs := (node.refreshed false incoming).inputs
        outputs := (node.refreshed false incoming).outputs } :=
    refreshed_eq node false incoming
  rw [fromUnmarked other, fromUnmarked node, inputs_refreshed_unmarked sameLength,
    inputs_refreshed_unmarked otherLength, outputs_refreshed_unmarked sameLength,
    outputs_refreshed_unmarked otherLength, sameRest]

/--
A second refresh with the same incoming shapes decides the same and leaves the node
as it is, also if the inputs do not take over these shapes once more.  Nodes that
differ in the shapes and casts of their inputs and in the shape of their first
output only are refreshed by the same decision, with the same shapes at the inputs.
They become the same node if the output is not locked.
-/
theorem refreshed_forgets (node : Node) (locked : Bool) (incoming : List (Option Shape))
    (sameLength : incoming.length = node.inputs.length) :
    let wired := incoming.map Option.isSome
    let decision := (node.seen locked incoming).resolution
    let once := node.refreshed locked incoming
    (once.refreshed locked incoming = once ∧ (once.seen locked incoming).resolution = decision) ∧
    (once.carryOut wired (once.snapshot wired locked).resolution = once ∧
      (once.snapshot wired locked).resolution = decision) ∧
    ∀ other : Node, other.unmarked = node.unmarked →
      (other.seen locked incoming).resolution = decision ∧
      (other.refreshed locked incoming).inputs.map Port.shape = once.inputs.map Port.shape ∧
      (locked = false → other.refreshed locked incoming = once) := by
  intro wired decision once
  have onceLength : incoming.length = once.inputs.length :=
    sameLength.trans (length_inputs_refreshed sameLength).symm
  have twice : once.refreshed locked incoming = once := refreshed_refreshed sameLength
  have sameDecision : (once.seen locked incoming).resolution = decision := by
    rw [resolution_seen onceLength, ← resolution_seen sameLength]
  have received : once.receive incoming = once := receive_refreshed sameLength
  refine ⟨⟨twice, sameDecision⟩, ?_, fun other sameRest => ?_⟩
  · rw [refreshed, seen, received] at twice
    rw [seen, received] at sameDecision
    exact ⟨twice, sameDecision⟩
  · have otherLength : incoming.length = other.inputs.length :=
      sameLength.trans (length_inputs_eq_of_unmarked_eq sameRest).symm
    refine ⟨?_, ?_, ?_⟩
    · rw [resolution_seen otherLength, ← resolution_seen sameLength]
    · rw [map_shape_inputs_refreshed locked otherLength,
        ← map_shape_inputs_refreshed locked sameLength]
    · rintro rfl
      exact refreshed_eq_of_unmarked_eq sameLength sameRest

end Node

namespace Sample

/-- Nothing is left of garbled shapes and casts, and a second refresh adds nothing. -/
theorem refreshed_garbled :
    let incoming : List (Option Shape) := [some .vec2, some .vec3]
    let once := garbled.refreshed false incoming
    incoming.length = garbled.inputs.length ∧ sum.unmarked = garbled.unmarked ∧ sum ≠ garbled ∧
      once.inputs.map Port.cast = [3, 0] ∧ once.refreshed false incoming = once ∧
      sum.refreshed false incoming = once := by
  intro incoming once
  have sameRest : sum.unmarked = garbled.unmarked := by decide +kernel
  obtain ⟨⟨twice, -⟩, -, forgets⟩ := garbled.refreshed_forgets false incoming rfl
  obtain ⟨-, -, sameNode⟩ := forgets sum sameRest
  exact ⟨rfl, sameRest, by decide +kernel, by decide +kernel, twice, sameNode rfl⟩

end Sample

end DataflowTyping
