import DataflowTyping.Node.Refresh
import Mathlib.Data.List.Basic

/-!
# What a refresh makes of a node

A refresh reads the very ports that it writes.  Nevertheless its decision
depends only on the shapes that come in, because the guess at an empty input is
never looked at: while an input is missing, only what is wired in counts, and
nothing is widened.  From this follow closed forms of the ports after a refresh,
and that a second refresh with the same incoming shapes changes nothing.
-/

namespace DataflowTyping

/-- An operand without the guess that an empty input carries. -/
def Operand.heard (operand : Operand) : Operand :=
  ⟨operand.contribution, operand.wired⟩

namespace Operand

variable {operand : Operand}

@[simp]
theorem contribution_heard (operand : Operand) :
    operand.heard.contribution = operand.contribution := by
  cases wired : operand.wired <;> simp [heard, contribution, wired]

@[simp]
theorem isMissing_heard (operand : Operand) : operand.heard.isMissing = operand.isMissing := by
  cases wired : operand.wired <;> simp [heard, contribution, isMissing, wired]

theorem heard_shape (present : operand.isMissing = false) :
    operand.heard.shape = operand.shape := by
  simp [heard, contribution, (isMissing_eq_false_iff.mp present).1]

end Operand

namespace Snapshot

variable {snapshot : Snapshot}

/-- A snapshot without the guesses at empty inputs and without the old output. -/
def heard (snapshot : Snapshot) : Snapshot where
  operands := snapshot.operands.map Operand.heard
  output := .pending
  locked := snapshot.locked

/-- The width to which an input with a value of some shape is widened. -/
def castFor (snapshot : Snapshot) (shape : Shape) : UInt8 :=
  if shape.components? = some 2 then snapshot.result.castWidth?.getD 0 else 0

theorem casts_eq_map_castFor (snapshot : Snapshot) :
    snapshot.casts = snapshot.operands.map fun operand => snapshot.castFor operand.shape :=
  rfl

theorem castFor_of_isIncomplete (incomplete : snapshot.isIncomplete = true) (shape : Shape) :
    snapshot.castFor shape = 0 := by
  have noWidth : snapshot.result.castWidth?.getD 0 = 0 := by
    rw [result, if_pos incomplete]
    by_cases scalarBase : snapshot.base = .scalar
    · rw [if_pos scalarBase]
      rfl
    · rw [if_neg scalarBase]
      rfl
  rw [castFor, noWidth, ite_self]

theorem isMissing_of_mem {operand : Operand} (complete : snapshot.isIncomplete = false)
    (member : operand ∈ snapshot.operands) : operand.isMissing = false := by
  simp only [isIncomplete, List.any_eq_false, Bool.not_eq_true] at complete
  exact complete operand member

@[simp]
theorem isUnwired_heard (snapshot : Snapshot) : snapshot.heard.isUnwired = snapshot.isUnwired := by
  simp only [isUnwired, heard, List.all_map]
  rfl

@[simp]
theorem isIncomplete_heard (snapshot : Snapshot) :
    snapshot.heard.isIncomplete = snapshot.isIncomplete := by
  simp only [isIncomplete, heard, List.any_map]
  congr 1
  funext operand
  exact operand.isMissing_heard

@[simp]
theorem base_heard (snapshot : Snapshot) : snapshot.heard.base = snapshot.base := by
  simp only [base, heard, List.map_map]
  congr 2
  funext operand
  exact operand.contribution_heard

@[simp]
theorem placeholder_heard (snapshot : Snapshot) :
    snapshot.heard.placeholder = snapshot.placeholder := by
  rw [placeholder, placeholder, base_heard, heard, List.length_map]

theorem result_of_complete (complete : snapshot.isIncomplete = false) :
    snapshot.result = snapshot.dominant := by
  rw [result, complete, if_neg Bool.false_ne_true]

/-- The result depends on the join of what is wired in, and on whether that is all. -/
theorem result_eq (snapshot : Snapshot) :
    snapshot.result = if snapshot.isIncomplete then
      if snapshot.base = .scalar then .scalar else .pending else snapshot.base := by
  cases incomplete : snapshot.isIncomplete with
  | true => simp [result, incomplete]
  | false => simp [result_of_complete incomplete, base_eq_dominant incomplete]

@[simp]
theorem result_heard (snapshot : Snapshot) : snapshot.heard.result = snapshot.result := by
  rw [result_eq, result_eq, isIncomplete_heard, base_heard]

@[simp]
theorem castFor_heard (snapshot : Snapshot) (shape : Shape) :
    snapshot.heard.castFor shape = snapshot.castFor shape := by
  rw [castFor, castFor, result_heard]

@[simp]
theorem casts_heard (snapshot : Snapshot) : snapshot.heard.casts = snapshot.casts := by
  rw [casts_eq_map_castFor, casts_eq_map_castFor, heard, List.map_map]
  apply List.map_congr_left
  intro operand member
  rw [Function.comp_apply]
  cases incomplete : snapshot.isIncomplete with
  | true =>
      have stillIncomplete : snapshot.heard.isIncomplete = true := by
        rw [isIncomplete_heard, incomplete]
      exact (castFor_of_isIncomplete stillIncomplete _).trans
        (castFor_of_isIncomplete incomplete _).symm
  | false =>
      rw [Operand.heard_shape (isMissing_of_mem incomplete member)]
      exact castFor_heard snapshot operand.shape

/-- The decision of a refresh depends only on what is wired in. -/
theorem resolution_heard (snapshot : Snapshot) :
    snapshot.heard.resolution = snapshot.resolution := by
  have sameLocked : snapshot.heard.locked = snapshot.locked := rfl
  simp only [resolution, isUnwired_heard, base_heard, placeholder_heard, result_heard,
    casts_heard, sameLocked]

/-- What a node hears from its producers. -/
def told (locked : Bool) (incoming : List (Option Shape)) : Snapshot where
  operands := incoming.map fun shape => ⟨shape.getD .pending, shape.isSome⟩
  output := .pending
  locked := locked

@[simp]
theorem locked_told (locked : Bool) (incoming : List (Option Shape)) :
    (told locked incoming).locked = locked :=
  rfl

theorem isUnwired_told {locked : Bool} {incoming : List (Option Shape)} :
    (told locked incoming).isUnwired = true ↔ ∀ shape ∈ incoming, shape = none := by
  simp [isUnwired, told, List.all_eq_true]

theorem casts_told (locked : Bool) (incoming : List (Option Shape)) :
    (told locked incoming).casts =
      incoming.map fun shape => (told locked incoming).castFor (shape.getD .pending) := by
  rw [casts_eq_map_castFor]
  exact List.map_map

end Snapshot

theorem overlay_eq_zipWith {Entry Change : Type} (change : Entry → Change → Entry)
    {entries : List Entry} {items : List Change} (sameLength : items.length = entries.length) :
    overlay change entries items = List.zipWith change entries items := by
  induction entries generalizing items with
  | nil => cases items <;> rfl
  | cons entry entries ih =>
      cases items with
      | nil => simp at sameLength
      | cons item items =>
          rw [overlay, List.zipWith_cons_cons, ih (by simpa using sameLength)]

namespace Port

/-- An input with the shape that comes in, or with a guess if it is empty. -/
def filled (snapshot : Snapshot) (port : Port) (shape : Option Shape) : Port :=
  (if snapshot.isUnwired then port.reset else port).withShape (shape.getD snapshot.placeholder)

theorem filled_eq {snapshot : Snapshot} {port : Port} {shape : Option Shape}
    (unwired : snapshot.isUnwired = true → shape = none) :
    (if shape.isSome then
      if snapshot.isUnwired then (port.withShape (shape.getD port.shape)).reset
      else port.withShape (shape.getD port.shape)
    else
      (if snapshot.isUnwired then (port.withShape (shape.getD port.shape)).reset
      else port.withShape (shape.getD port.shape)).withShape snapshot.placeholder) =
    port.filled snapshot shape := by
  unfold filled
  cases isUnwired : snapshot.isUnwired with
  | true =>
      rw [unwired isUnwired]
      rfl
  | false => cases shape <;> rfl

/-- What a refresh makes of an input, given the shape that comes in. -/
def informed (snapshot : Snapshot) (port : Port) (shape : Option Shape) : Port :=
  if snapshot.locked then port.filled snapshot shape
  else (port.filled snapshot shape).withCast (snapshot.castFor (shape.getD .pending))

/-- What a refresh makes of the first output. -/
def concluded (snapshot : Snapshot) (port : Port) : Port :=
  if snapshot.locked then port else port.withShape snapshot.result

theorem informed_informed (snapshot : Snapshot) (port : Port) (shape : Option Shape) :
    (port.informed snapshot shape).informed snapshot shape = port.informed snapshot shape := by
  unfold informed filled
  cases snapshot.locked <;> cases snapshot.isUnwired <;> rfl

end Port

namespace Node

variable {node : Node} {locked : Bool} {incoming : List (Option Shape)}

theorem inputs_carryOut (wired : List Bool) (node : Node) (resolution : Resolution) :
    (node.carryOut wired resolution).inputs =
      resolution.casts.elim
        (overlay (fun port wired => if wired then port else port.withShape resolution.placeholder)
          (if resolution.reset then node.inputs.map Port.reset else node.inputs) wired)
        (overlay Port.withCast
          (overlay
            (fun port wired => if wired then port else port.withShape resolution.placeholder)
            (if resolution.reset then node.inputs.map Port.reset else node.inputs) wired)) := by
  obtain ⟨reset, base, placeholder, output, casts⟩ := resolution
  cases reset <;> cases output <;> cases casts <;> rfl

theorem outputs_carryOut (wired : List Bool) (node : Node) (resolution : Resolution) :
    (node.carryOut wired resolution).outputs =
      resolution.output.elim
        (if resolution.reset then node.outputs.map Port.reset else node.outputs)
        fun shape => (if resolution.reset then node.outputs.map Port.reset
          else node.outputs).modifyHead fun port => port.withShape shape := by
  obtain ⟨reset, base, placeholder, output, casts⟩ := resolution
  cases reset <;> cases output <;> cases casts <;> rfl

theorem heard_seen (sameLength : incoming.length = node.inputs.length) :
    (node.seen locked incoming).heard = .told locked incoming := by
  have operands : (node.seen locked incoming).operands.map Operand.heard =
      incoming.map fun shape => ⟨shape.getD .pending, shape.isSome⟩ := by
    simp only [seen, snapshot, receive]
    rw [overlay_eq_zipWith _ sameLength]
    apply List.ext_getElem
    · simp [sameLength]
    · intro index _ small
      have inRange : index < incoming.length := by simpa using small
      simp only [List.getElem_map, List.getElem_zipWith]
      cases incoming[index] <;> rfl
  rw [Snapshot.heard, operands]
  rfl

/-- The decision of a refresh depends only on the shapes that come in. -/
theorem resolution_seen (sameLength : incoming.length = node.inputs.length) :
    (node.seen locked incoming).resolution = (Snapshot.told locked incoming).resolution := by
  rw [← Snapshot.resolution_heard, heard_seen sameLength]

theorem filled_receive (snapshot : Snapshot) (sameLength : incoming.length = node.inputs.length)
    (unwired : snapshot.isUnwired = true → ∀ shape ∈ incoming, shape = none) :
    overlay (fun port wired => if wired then port else port.withShape snapshot.placeholder)
        (if snapshot.isUnwired then (node.receive incoming).inputs.map Port.reset
          else (node.receive incoming).inputs)
        (incoming.map Option.isSome) =
      List.zipWith (Port.filled snapshot) node.inputs incoming := by
  have resetEach : (if snapshot.isUnwired then (node.receive incoming).inputs.map Port.reset
      else (node.receive incoming).inputs) =
        (node.receive incoming).inputs.map fun port =>
          if snapshot.isUnwired then port.reset else port := by
    cases snapshot.isUnwired <;> simp
  rw [resetEach, overlay_eq_zipWith _ (by simp [receive, sameLength])]
  simp only [receive, overlay_eq_zipWith _ sameLength]
  apply List.ext_getElem
  · simp [sameLength]
  intro index _ small
  have inRange : index < incoming.length := by
    rw [List.length_zipWith] at small
    omega
  simp only [List.getElem_zipWith, List.getElem_map]
  exact Port.filled_eq fun isUnwired => unwired isUnwired _ (List.getElem_mem inRange)

/-- The inputs after a refresh. -/
theorem inputs_refreshed (locked : Bool) (sameLength : incoming.length = node.inputs.length) :
    (node.refreshed locked incoming).inputs =
      List.zipWith (Port.informed (.told locked incoming)) node.inputs incoming := by
  have filled := filled_receive (Snapshot.told locked incoming) sameLength
    Snapshot.isUnwired_told.mp
  rw [refreshed, inputs_carryOut, resolution_seen sameLength]
  unfold Snapshot.resolution
  rw [filled]
  cases locked with
  | true => rfl
  | false =>
      simp only [Snapshot.locked_told, Bool.false_eq_true, if_false, Option.elim_some,
        Snapshot.casts_told]
      rw [overlay_eq_zipWith _ (by simp [sameLength])]
      apply List.ext_getElem
      · simp [sameLength]
      · intro index _ _
        simp only [List.getElem_zipWith, List.getElem_map]
        rfl

/-- The outputs after a refresh. -/
theorem outputs_refreshed (locked : Bool) (sameLength : incoming.length = node.inputs.length) :
    (node.refreshed locked incoming).outputs =
      (if (Snapshot.told locked incoming).isUnwired then node.outputs.map Port.reset
        else node.outputs).modifyHead (Port.concluded (.told locked incoming)) := by
  rw [refreshed, outputs_carryOut, resolution_seen sameLength]
  cases locked with
  | true => exact (congrFun List.modifyHead_id _).symm
  | false => rfl

/-- A refresh touches nothing but the ports. -/
theorem refreshed_eq (node : Node) (locked : Bool) (incoming : List (Option Shape)) :
    node.refreshed locked incoming =
      { node with
        inputs := (node.refreshed locked incoming).inputs
        outputs := (node.refreshed locked incoming).outputs } := by
  unfold refreshed
  obtain ⟨reset, base, placeholder, output, casts⟩ := (node.seen locked incoming).resolution
  cases reset <;> cases output <;> cases casts <;> rfl

theorem length_inputs_refreshed (sameLength : incoming.length = node.inputs.length) :
    (node.refreshed locked incoming).inputs.length = node.inputs.length := by
  rw [inputs_refreshed locked sameLength, List.length_zipWith, sameLength, Nat.min_self]

/-- A second refresh with the same incoming shapes changes nothing. -/
theorem refreshed_refreshed (sameLength : incoming.length = node.inputs.length) :
    (node.refreshed locked incoming).refreshed locked incoming =
      node.refreshed locked incoming := by
  have stillSameLength : incoming.length = (node.refreshed locked incoming).inputs.length :=
    sameLength.trans (length_inputs_refreshed sameLength).symm
  have sameInputs : ((node.refreshed locked incoming).refreshed locked incoming).inputs =
      (node.refreshed locked incoming).inputs := by
    rw [inputs_refreshed locked stillSameLength, inputs_refreshed locked sameLength]
    apply List.ext_getElem
    · simp [sameLength]
    · intro index _ _
      simp only [List.getElem_zipWith]
      exact Port.informed_informed _ _ _
  have sameOutputs : ((node.refreshed locked incoming).refreshed locked incoming).outputs =
      (node.refreshed locked incoming).outputs := by
    rw [outputs_refreshed locked stillSameLength, outputs_refreshed locked sameLength]
    cases node.outputs with
    | nil => cases (Snapshot.told locked incoming).isUnwired <;> rfl
    | cons output outputs =>
        cases (Snapshot.told locked incoming).isUnwired <;> cases locked <;>
          simp [Port.concluded, Port.withShape, Port.reset]
  rw [refreshed_eq (node.refreshed locked incoming), sameInputs, sameOutputs]

end Node

end DataflowTyping
