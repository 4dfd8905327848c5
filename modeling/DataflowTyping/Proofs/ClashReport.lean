import DataflowTyping.Proofs.Dominance

/-!
# What is reported of operands that clash

A refresh looks for clashes while it joins the operands one by one: it compares
each of them with the join of those before it.  Nevertheless a clash is reported
exactly if two operands clash, wherever they stand.  Without a clash the join of
known operands is known, and nothing keeps them from being cast.

A reported clash does not settle the result.  The join starts afresh behind it,
so that the output is pending only if the last operand is the one that clashed.
-/

namespace DataflowTyping

namespace Shape

variable {soFar : Shape} {shapes : List Shape}

theorem clashesAlong_pending_eq_nil_iff : clashesAlong pending shapes = [] ↔ Agree shapes := by
  rw [clashesAlong_eq_nil_iff, agree_cons_iff]
  simp

theorem join_of_clashes {first second : Shape} (clash : first.clashes second = true) :
    first.join second = pending := by
  simp only [clashes, Bool.and_eq_true, decide_eq_true_eq] at clash
  exact clash.2

/-- Behind the last step that clashes, the remaining shapes are joined as if they stood alone. -/
theorem exists_last_clash (clash : clashesAlong soFar shapes ≠ []) :
    ∃ before culprit after, shapes = before ++ culprit :: after ∧
      (before.foldl join soFar, culprit) ∈ clashesAlong soFar shapes ∧ Agree after ∧
      shapes.foldl join soFar = joinAll after := by
  induction shapes generalizing soFar with
  | nil => exact absurd rfl clash
  | cons next shapes ih =>
      by_cases later : clashesAlong (soFar.join next) shapes = []
      · have here : soFar.clashes next = true := by
          by_contra together
          exact clash (by simp [clashesAlong, together, later])
        rw [join_of_clashes here, clashesAlong_pending_eq_nil_iff] at later
        refine ⟨[], next, shapes, rfl, ?_, later, ?_⟩
        · simp [clashesAlong, here]
        · rw [List.foldl_cons, join_of_clashes here, joinAll]
      · obtain ⟨before, culprit, after, rfl, isClash, agree, joined⟩ := ih later
        refine ⟨next :: before, culprit, after, rfl, ?_, agree, joined⟩
        rw [clashesAlong]
        split_ifs
        · exact List.mem_cons_of_mem _ isClash
        · exact isClash

end Shape

namespace Snapshot

variable {snapshot : Snapshot} {settings : Settings} {label : Option String}

theorem clash_mem_report_iff {node : String} {soFar next : Shape} :
    .clash node soFar next ∈ snapshot.report settings label ↔
      settings.warnOnClash = true ∧ snapshot.locked = false ∧ snapshot.isIncomplete = false ∧
        (soFar, next) ∈ Shape.clashesAlong .pending (snapshot.operands.map Operand.shape) ∧
        label.getD unnamed = node := by
  unfold report joinReport
  cases settings.diagnostics <;> cases settings.warnOnClash <;> cases snapshot.locked <;>
    cases snapshot.isIncomplete <;> simp

theorem uncastable_mem_report_iff {node : String} {output : Shape} :
    .uncastable node output ∈ snapshot.report settings label ↔
      snapshot.locked = false ∧ snapshot.isIncomplete = false ∧ snapshot.dominant = .pending ∧
        snapshot.operands ≠ [] ∧ node = label.getD unnamed ∧ output = snapshot.dominant := by
  unfold report joinReport
  cases settings.diagnostics <;> cases settings.warnOnClash <;> cases snapshot.locked <;>
    cases snapshot.isIncomplete <;> simp [and_assoc]

theorem shape_ne_pending (complete : snapshot.isIncomplete = false) :
    ∀ shape ∈ snapshot.operands.map Operand.shape, shape ≠ .pending := by
  intro shape member
  obtain ⟨operand, isOperand, rfl⟩ := List.mem_map.mp member
  exact (Operand.isMissing_eq_false_iff.mp (isMissing_of_mem complete isOperand)).2

theorem dominant_ne_pending (complete : snapshot.isIncomplete = false)
    (agree : Shape.Agree (snapshot.operands.map Operand.shape))
    (nonempty : snapshot.operands ≠ []) : snapshot.dominant ≠ .pending := by
  have nonemptyShapes : snapshot.operands.map Operand.shape ≠ [] := by simpa using nonempty
  exact shape_ne_pending complete _ (Shape.joinAll_greatest agree nonemptyShapes).1

theorem exists_clash_mem_report_iff (warns : settings.warnOnClash = true)
    (unlocked : snapshot.locked = false) (complete : snapshot.isIncomplete = false) :
    (∃ node soFar next, .clash node soFar next ∈ snapshot.report settings label) ↔
      ¬ Shape.Agree (snapshot.operands.map Operand.shape) := by
  rw [← Shape.clashesAlong_pending_eq_nil_iff, List.eq_nil_iff_forall_not_mem]
  simp [clash_mem_report_iff, warns, unlocked, complete]

theorem not_agree_iff {operands : List Operand} :
    ¬ Shape.Agree (operands.map Operand.shape) ↔
      ∃ first second : Fin operands.length, first ≠ second ∧
        (operands.get first).shape.clashes (operands.get second).shape = true := by
  simp only [Shape.Agree, List.forall_mem_map, not_forall, Bool.not_eq_false]
  constructor
  · rintro ⟨operand, isOperand, other, isOther, clash⟩
    obtain ⟨first, rfl⟩ := List.mem_iff_get.mp isOperand
    obtain ⟨second, rfl⟩ := List.mem_iff_get.mp isOther
    refine ⟨first, second, ?_, clash⟩
    rintro rfl
    rw [Shape.clashes_self] at clash
    contradiction
  · rintro ⟨first, second, -, clash⟩
    exact ⟨_, List.get_mem operands first, _, List.get_mem operands second, clash⟩

/--
While a node is joining known operands, a clash is reported exactly if two of
the operands clash, at whatever places they stand.  If none do, then the output
is known and nothing is reported that keeps operands from being cast.
-/
theorem clash_reported_iff (snapshot : Snapshot) (settings : Settings) (label : Option String)
    (warns : settings.warnOnClash = true) (unlocked : snapshot.locked = false)
    (complete : snapshot.isIncomplete = false) :
    ((∃ node soFar next, .clash node soFar next ∈ snapshot.report settings label) ↔
      ∃ first second : Fin snapshot.operands.length, first ≠ second ∧
        (snapshot.operands.get first).shape.clashes (snapshot.operands.get second).shape = true) ∧
    ((¬ ∃ first second : Fin snapshot.operands.length, first ≠ second ∧
        (snapshot.operands.get first).shape.clashes (snapshot.operands.get second).shape = true) →
      snapshot.operands ≠ [] →
        (∃ shape, snapshot.resolution.output = some shape ∧ shape ≠ .pending) ∧
          ∀ node output, .uncastable node output ∉ snapshot.report settings label) := by
  rw [← not_agree_iff, not_not]
  refine ⟨exists_clash_mem_report_iff warns unlocked complete, fun agree nonempty => ?_⟩
  have known := dominant_ne_pending complete agree nonempty
  constructor
  · refine ⟨snapshot.dominant, ?_, known⟩
    rw [output_of_unlocked unlocked, result_of_complete complete]
  · intro node output reported
    exact known (uncastable_mem_report_iff.mp reported).2.2.1

end Snapshot

namespace Sample

/-- A scalar and a vector stand between the operands that clash. -/
def distantQuarrel : Snapshot where
  operands := [.carrying .vec3, .carrying .scalar, .carrying .vec4, .carrying .scalarOrVec3]
  output := .pending
  locked := false

/-- The distant clash is reported, and no trouble with operands of different widths. -/
theorem clash_reported_distantQuarrel :
    (distantQuarrel.locked = false ∧ distantQuarrel.isIncomplete = false ∧
      (distantQuarrel.operands.get ⟨0, by decide⟩).shape.clashes
        (distantQuarrel.operands.get ⟨3, by decide⟩).shape = true ∧
      ∃ node soFar next, .clash node soFar next ∈ distantQuarrel.report {} none) ∧
    (widening.locked = false ∧ widening.isIncomplete = false ∧
      (∃ shape, widening.resolution.output = some shape ∧ shape ≠ .pending) ∧
      ∀ node output, .uncastable node output ∉ widening.report {} none) := by
  have clash : (distantQuarrel.operands.get ⟨0, by decide⟩).shape.clashes
      (distantQuarrel.operands.get ⟨3, by decide⟩).shape = true := by
    decide
  obtain ⟨reportedIff, -⟩ := Snapshot.clash_reported_iff distantQuarrel {} none rfl rfl rfl
  obtain ⟨-, quiet⟩ := Snapshot.clash_reported_iff widening {} none rfl rfl rfl
  refine ⟨⟨rfl, rfl, clash, reportedIff.mpr ⟨_, _, by decide, clash⟩⟩, rfl, rfl, ?_⟩
  exact quiet (by decide) (by decide)

end Sample

namespace Snapshot

variable {snapshot : Snapshot} {settings : Settings} {label : Option String}

theorem exists_last_reported {node : String} {soFar next : Shape}
    (reported : .clash node soFar next ∈ snapshot.report settings label) :
    ∃ before culprit after, snapshot.operands = before ++ culprit :: after ∧
      .clash (label.getD unnamed) (.joinAll (before.map Operand.shape)) culprit.shape ∈
        snapshot.report settings label ∧
      Shape.Agree (after.map Operand.shape) ∧
      snapshot.dominant = .joinAll (after.map Operand.shape) := by
  obtain ⟨warns, unlocked, complete, isClash, -⟩ := clash_mem_report_iff.mp reported
  obtain ⟨shapes, shape, others, isSplit, isLast, agree, joined⟩ :=
    Shape.exists_last_clash (List.ne_nil_of_mem isClash)
  obtain ⟨before, rest, isOperands, rfl, isRest⟩ := List.map_eq_append_iff.mp isSplit
  obtain ⟨culprit, after, rfl, rfl, rfl⟩ := List.map_eq_cons_iff.mp isRest
  refine ⟨before, culprit, after, isOperands, ?_, agree, joined⟩
  exact clash_mem_report_iff.mpr ⟨warns, unlocked, complete, isLast, rfl⟩

theorem casts_of_result_pending (isPending : snapshot.result = .pending) :
    snapshot.casts = List.replicate snapshot.operands.length 0 := by
  rw [casts, isPending]
  simp [Shape.castWidth?]

/--
If a clash is reported, then the operands behind the last reported one do not
clash, and their join alone is the output.  So the output is pending, and
nothing is widened, exactly if no operand stands behind the last reported clash.
-/
theorem output_of_reported_clash (snapshot : Snapshot) (settings : Settings)
    (label : Option String)
    (reported : ∃ node soFar next, .clash node soFar next ∈ snapshot.report settings label) :
    ∃ before culprit after, snapshot.operands = before ++ culprit :: after ∧
      .clash (label.getD unnamed) (.joinAll (before.map Operand.shape)) culprit.shape ∈
        snapshot.report settings label ∧
      Shape.Agree (after.map Operand.shape) ∧
      snapshot.resolution.output = some (.joinAll (after.map Operand.shape)) ∧
      (snapshot.resolution.output = some .pending ∧
        snapshot.resolution.casts = some (List.replicate snapshot.operands.length 0) ↔
          after = []) := by
  obtain ⟨node, soFar, next, isReported⟩ := reported
  obtain ⟨-, unlocked, complete, -⟩ := clash_mem_report_iff.mp isReported
  obtain ⟨before, culprit, after, isOperands, isLast, agree, isDominant⟩ :=
    exists_last_reported isReported
  have isResult := (result_of_complete complete).trans isDominant
  rw [output_of_unlocked unlocked, casts_of_unlocked unlocked, isResult, Option.some.injEq,
    Option.some.injEq]
  refine ⟨before, culprit, after, isOperands, isLast, agree, rfl, ?_, ?_⟩
  · rintro ⟨isPending, -⟩
    by_contra someAfter
    -- A known operand stands behind the clash, and the join picks one of these.
    have member := (Shape.joinAll_greatest agree (by simpa using someAfter)).1
    refine shape_ne_pending complete _ ?_ isPending
    rw [isOperands, List.map_append, List.map_cons]
    exact List.mem_append_right _ (List.mem_cons_of_mem _ member)
  · rintro rfl
    exact ⟨rfl, casts_of_result_pending isResult⟩

end Snapshot

namespace Sample

/-- Two generic operands that clash, and behind them vectors of two and of three components. -/
def quarrel : Snapshot where
  operands := [.carrying .scalarOrVec3, .carrying .scalarOrVec4, .carrying .vec2, .carrying .vec3]
  output := .pending
  locked := false

/-- A clash of the first two operands is reported, but the last two settle the output. -/
theorem output_quarrel_ne_pending :
    .clash "Mix" .scalarOrVec3 .scalarOrVec4 ∈ quarrel.report { warnOnClash := true } (some "Mix") ∧
      quarrel.resolution.output = some .vec3 ∧
      quarrel.resolution.output ≠ some .pending ∧
      quarrel.resolution.casts = some [0, 0, 3, 0] := by
  decide

/-- Operands stand behind the reported clash, and their join is the output. -/
theorem output_of_quarrel :
    (∃ node soFar next, .clash node soFar next ∈ quarrel.report {} none) ∧
      ∃ before culprit after, quarrel.operands = before ++ culprit :: after ∧ after ≠ [] ∧
        quarrel.resolution.output = some (.joinAll (after.map Operand.shape)) := by
  have reported : ∃ node soFar next, .clash node soFar next ∈ quarrel.report {} none :=
    ⟨Snapshot.unnamed, .scalarOrVec3, .scalarOrVec4, by decide⟩
  obtain ⟨before, culprit, after, isOperands, -, -, isOutput, pendingIff⟩ :=
    Snapshot.output_of_reported_clash quarrel {} none reported
  refine ⟨reported, before, culprit, after, isOperands, fun noneAfter => ?_, isOutput⟩
  exact absurd (pendingIff.mpr noneAfter).1 (by decide)

end Sample

end DataflowTyping
