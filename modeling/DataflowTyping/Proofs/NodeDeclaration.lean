import DataflowTyping.Proofs.NodeRefresh

/-!
# What a refresh leaves alone

A node without the shapes and casts of its ports is `blank`, and a refresh keeps
the blank node.  Some shapes and casts are never found anew either: those of a
locked output, of every output but the first, and the casts beside a locked
output.  Once a node has been refreshed with nothing wired in, these stand as
declared, and the node is `Anchored`.  All ports of an anchored node that is not
changed by a refresh then follow from its blank and the incoming shapes.
-/

namespace DataflowTyping

/-- A port without its shape and cast. -/
def Port.blank (port : Port) : Port :=
  { port with shape := .pending, cast := 0 }

namespace Port

@[simp]
theorem blank_reset (port : Port) : port.reset.blank = port.blank :=
  rfl

@[simp]
theorem id_blank (port : Port) : port.blank.id = port.id :=
  rfl

theorem view_congr {View : Type} (view : Port → View) {first second : Port}
    (sameBlank : first.blank = second.blank) (blind : ∀ port, view port.blank = view port) :
    view first = view second := by
  rw [← blind first, sameBlank, blind second]

@[simp]
theorem blank_informed (snapshot : Snapshot) (port : Port) (shape : Option Shape) :
    (port.informed snapshot shape).blank = port.blank := by
  unfold informed filled
  cases snapshot.locked <;> cases snapshot.isUnwired <;> rfl

theorem shape_informed (snapshot : Snapshot) (port : Port) (shape : Option Shape) :
    (port.informed snapshot shape).shape = shape.getD snapshot.placeholder := by
  unfold informed filled
  cases snapshot.locked <;> rfl

theorem cast_informed_of_locked {snapshot : Snapshot} (locked : snapshot.locked = true)
    (port : Port) (shape : Option Shape) :
    (port.informed snapshot shape).cast = if snapshot.isUnwired then 0 else port.cast := by
  unfold informed filled
  rw [if_pos locked]
  cases snapshot.isUnwired <;> rfl

@[simp]
theorem blank_concluded (snapshot : Snapshot) (port : Port) :
    (port.concluded snapshot).blank = port.blank := by
  unfold concluded
  cases snapshot.locked <;> rfl

@[simp]
theorem cast_concluded (snapshot : Snapshot) (port : Port) :
    (port.concluded snapshot).cast = port.cast := by
  unfold concluded
  cases snapshot.locked <;> rfl

/-- Of the first output only the cast and a locked shape are ever kept. -/
theorem concluded_reset {snapshot : Snapshot} {port : Port} (noCast : port.cast = 0)
    (asDeclared : snapshot.locked = true → port.shape = port.declared) :
    port.reset.concluded snapshot = port.concluded snapshot := by
  obtain ⟨id, name, direction, shape, declared, cast, manyLinks⟩ := port
  simp only at noCast asDeclared
  subst noCast
  unfold concluded
  cases locked : snapshot.locked with
  | true =>
      rw [asDeclared locked]
      rfl
  | false => rfl

theorem informed_blank {snapshot : Snapshot} {port : Port}
    (noCast : snapshot.locked = true → port.cast = 0) (shape : Option Shape) :
    port.blank.informed snapshot shape = port.informed snapshot shape := by
  obtain ⟨id, name, direction, oldShape, declared, cast, manyLinks⟩ := port
  unfold informed filled
  cases locked : snapshot.locked with
  | false => cases snapshot.isUnwired <;> rfl
  | true =>
      have isZero : cast = 0 := noCast locked
      subst isZero
      cases snapshot.isUnwired <;> rfl

end Port

namespace Node

variable {node first second : Node} {locked : Bool} {incoming : List (Option Shape)}

def blank (node : Node) : Node :=
  { node with
    inputs := node.inputs.map Port.blank
    outputs := node.outputs.map Port.blank }

@[simp]
theorem id_blank (node : Node) : node.blank.id = node.id :=
  rfl

@[simp]
theorem kind_blank (node : Node) : node.blank.kind = node.kind :=
  rfl

@[simp]
theorem name_blank (node : Node) : node.blank.name = node.name :=
  rfl

@[simp]
theorem inference_blank (node : Node) : node.blank.inference = node.inference :=
  rfl

theorem isArithmetic_iff :
    node.isArithmetic = true ↔ ∃ locked, node.inference = .arithmetic locked := by
  unfold isArithmetic
  cases node.inference <;> simp

theorem id_eq_of_blank_eq (sameBlank : first.blank = second.blank) : first.id = second.id := by
  rw [← id_blank first, sameBlank, id_blank]

theorem inference_eq_of_blank_eq (sameBlank : first.blank = second.blank) :
    first.inference = second.inference := by
  rw [← inference_blank first, sameBlank, inference_blank]

/-- A refresh keeps everything but the shapes and casts of the ports. -/
theorem blank_refreshed (sameLength : incoming.length = node.inputs.length) :
    (node.refreshed locked incoming).blank = node.blank := by
  have inputs : (node.refreshed locked incoming).inputs.map Port.blank =
      node.inputs.map Port.blank := by
    rw [inputs_refreshed locked sameLength]
    apply List.ext_getElem
    · simp [sameLength]
    · intro index _ _
      simp
  have outputs : (node.refreshed locked incoming).outputs.map Port.blank =
      node.outputs.map Port.blank := by
    rw [outputs_refreshed locked sameLength]
    cases node.outputs with
    | nil => cases (Snapshot.told locked incoming).isUnwired <;> rfl
    | cons output outputs =>
        cases (Snapshot.told locked incoming).isUnwired <;> simp
  rw [blank, inputs, outputs, refreshed_eq]
  rfl

theorem map_ports_congr {View : Type} (view : Port → View) (sameBlank : first.blank = second.blank)
    (blind : ∀ port, view port.blank = view port) :
    first.inputs.map view = second.inputs.map view ∧
      first.outputs.map view = second.outputs.map view := by
  have throughBlank (ports : List Port) : ports.map view = (ports.map Port.blank).map view := by
    rw [List.map_map]
    exact List.map_congr_left fun port _ => (blind port).symm
  have sameInputs : first.inputs.map Port.blank = second.inputs.map Port.blank :=
    congrArg Node.inputs sameBlank
  have sameOutputs : first.outputs.map Port.blank = second.outputs.map Port.blank :=
    congrArg Node.outputs sameBlank
  rw [throughBlank first.inputs, throughBlank first.outputs, sameInputs, sameOutputs,
    ← throughBlank, ← throughBlank]
  exact ⟨rfl, rfl⟩

/-- The ports that a refresh does not write stand as declared. -/
structure Anchored (node : Node) (locked : Bool) : Prop where
  outputCasts : ∀ port ∈ node.outputs, port.cast = 0
  outputShapes : ∀ port ∈ if locked then node.outputs else node.outputs.tail,
    port.shape = port.declared
  inputCasts : locked = true → ∀ port ∈ node.inputs, port.cast = 0

theorem Anchored.reset_eq (anchored : node.Anchored locked) {port : Port}
    (member : port ∈ if locked then node.outputs else node.outputs.tail) : port.reset = port := by
  have isOutput : port ∈ node.outputs := by
    cases locked with
    | true => exact member
    | false => exact List.mem_of_mem_tail member
  have sameShape := anchored.outputShapes port member
  have noCast := anchored.outputCasts port isOutput
  obtain ⟨id, name, direction, shape, declared, cast, manyLinks⟩ := port
  simp only at sameShape noCast
  rw [Port.reset, ← sameShape, ← noCast]

/-- Ports that have just been reset stand as declared. -/
theorem anchored_reset {port : Port} {outputs : List Port}
    (member : port ∈ outputs.map Port.reset) : port.cast = 0 ∧ port.shape = port.declared := by
  obtain ⟨old, -, rfl⟩ := List.mem_map.mp member
  exact ⟨rfl, rfl⟩

theorem cast_modifyHead_concluded {outputs : List Port}
    (noCasts : ∀ port ∈ outputs, port.cast = 0) :
    ∀ port ∈ outputs.modifyHead (Port.concluded (.told locked incoming)), port.cast = 0 := by
  cases outputs with
  | nil => exact fun port member => absurd member List.not_mem_nil
  | cons output others => simpa using noCasts

theorem shape_modifyHead_concluded {outputs : List Port}
    (asDeclared : ∀ port ∈ if locked then outputs else outputs.tail, port.shape = port.declared) :
    ∀ port ∈ if locked then outputs.modifyHead (Port.concluded (.told locked incoming))
      else (outputs.modifyHead (Port.concluded (.told locked incoming))).tail,
        port.shape = port.declared := by
  cases outputs with
  | nil => simp
  | cons output others => cases locked <;> simpa [Port.concluded] using asDeclared

/-- A refresh with nothing wired in anchors a node, and every other one keeps it anchored. -/
theorem anchored_refreshed (sameLength : incoming.length = node.inputs.length)
    (anchored : (Snapshot.told locked incoming).isUnwired = false → node.Anchored locked) :
    (node.refreshed locked incoming).Anchored locked := by
  have inputCasts : locked = true →
      ∀ port ∈ (node.refreshed locked incoming).inputs, port.cast = 0 := by
    rintro rfl port member
    rw [inputs_refreshed true sameLength] at member
    obtain ⟨index, small, rfl⟩ := List.mem_iff_getElem.mp member
    rw [List.getElem_zipWith, Port.cast_informed_of_locked rfl]
    cases unwired : (Snapshot.told true incoming).isUnwired with
    | true => rfl
    | false => exact (anchored unwired).inputCasts rfl _ (List.getElem_mem _)
  have written := outputs_refreshed locked sameLength
  cases unwired : (Snapshot.told locked incoming).isUnwired with
  | true =>
      rw [unwired, if_pos rfl] at written
      refine ⟨?_, ?_, inputCasts⟩
      · rw [written]
        exact cast_modifyHead_concluded fun port member => (anchored_reset member).1
      · rw [written]
        refine shape_modifyHead_concluded fun port member => ?_
        have isOutput : port ∈ node.outputs.map Port.reset := by
          cases locked with
          | true => exact member
          | false => exact List.mem_of_mem_tail member
        exact (anchored_reset isOutput).2
  | false =>
      rw [unwired, if_neg Bool.false_ne_true] at written
      refine ⟨?_, ?_, inputCasts⟩
      · rw [written]
        exact cast_modifyHead_concluded (anchored unwired).outputCasts
      · rw [written]
        exact shape_modifyHead_concluded (anchored unwired).outputShapes

theorem inputs_of_refreshed_eq (sameLength : incoming.length = node.inputs.length)
    (anchored : node.Anchored locked) (settled : node.refreshed locked incoming = node) :
    node.inputs =
      List.zipWith (Port.informed (.told locked incoming)) (node.inputs.map Port.blank)
        incoming := by
  have unchanged := inputs_refreshed locked sameLength
  rw [settled] at unchanged
  conv_lhs => rw [unchanged]
  apply List.ext_getElem
  · simp
  · intro index _ _
    simp only [List.getElem_zipWith, List.getElem_map]
    exact (Port.informed_blank (fun isLocked =>
      anchored.inputCasts isLocked _ (List.getElem_mem _)) _).symm

/-- Resetting the outputs of an anchored node does not show once the first is written. -/
theorem Anchored.modifyHead_reset (anchored : node.Anchored locked) :
    (node.outputs.map Port.reset).modifyHead (Port.concluded (.told locked incoming)) =
      node.outputs.modifyHead (Port.concluded (.told locked incoming)) := by
  cases given : node.outputs with
  | nil => rfl
  | cons output others =>
      have othersReset : others.map Port.reset = others := by
        conv_rhs => rw [← List.map_id others]
        apply List.map_congr_left
        intro port member
        refine anchored.reset_eq ?_
        rw [given]
        cases locked with
        | true => exact List.mem_cons_of_mem _ member
        | false => exact member
      have headReset : output.reset.concluded (.told locked incoming) =
          output.concluded (.told locked incoming) := by
        apply Port.concluded_reset
        · exact anchored.outputCasts output (given ▸ List.mem_cons_self)
        · rintro rfl
          exact anchored.outputShapes output (given ▸ List.mem_cons_self)
      rw [List.map_cons, List.modifyHead_cons, List.modifyHead_cons, othersReset, headReset]

/-- The outputs that a refresh leaves as they are follow from their blanks. -/
theorem outputs_of_refreshed_eq (sameLength : incoming.length = node.inputs.length)
    (anchored : node.Anchored locked) (settled : node.refreshed locked incoming = node) :
    node.outputs =
      ((node.outputs.map Port.blank).map Port.reset).modifyHead
        (Port.concluded (.told locked incoming)) := by
  have unchanged := outputs_refreshed locked sameLength
  have sameReset : (node.outputs.map Port.blank).map Port.reset = node.outputs.map Port.reset := by
    rw [List.map_map]
    rfl
  rw [settled] at unchanged
  rw [sameReset]
  cases unwired : (Snapshot.told locked incoming).isUnwired with
  | true =>
      rw [unwired, if_pos rfl] at unchanged
      exact unchanged
  | false =>
      rw [unwired, if_neg Bool.false_ne_true] at unchanged
      exact unchanged.trans anchored.modifyHead_reset.symm

end Node

end DataflowTyping
