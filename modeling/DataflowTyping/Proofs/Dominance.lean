import DataflowTyping.Proofs.NodeRefresh
import Mathlib.Data.List.FinRange

/-!
# The operand that prevails

Joining is not associative: two shapes that clash join to `pending`, and
`pending` gives way to whatever comes next.  As long as no two of the joined
shapes clash, however, each join picks the one of higher rank.  The join of them
all is then the one of highest rank, in whatever order they are taken, and
looking for a clash step by step finds one exactly if two of the shapes clash.

For a refresh this means that the order of the inputs does not matter if what
is wired in does not clash: the casts follow their inputs, and all else stays.
-/

namespace DataflowTyping

namespace Shape

variable {first second soFar : Shape} {shapes others : List Shape}

/--
How far a shape prevails in a join.  The last four clash with each other, save
for `vec3` and `vec4`, so that `scalarOrVec3` and `scalarOrVec4` meet nothing
but shapes below `vec3` unless there is a clash.
-/
def rank : Shape → Nat
  | pending => 0
  | scalar => 1
  | scalarOrVec2 => 2
  | vec2 => 3
  | vec3 => 4
  | vec4 => 5
  | scalarOrVec3 => 6
  | scalarOrVec4 => 7

theorem rank_injective : Function.Injective rank := by
  intro first second same
  revert same
  cases first <;> cases second <;> decide

@[simp]
theorem clashes_self (shape : Shape) : shape.clashes shape = false := by
  cases shape <;> rfl

@[simp]
theorem pending_clashes (shape : Shape) : pending.clashes shape = false := by
  cases shape <;> rfl

/-- Of two shapes that do not clash, the join is the one of higher rank. -/
theorem join_greatest (together : first.clashes second = false) :
    (first.join second = first ∨ first.join second = second) ∧
      first.rank ≤ (first.join second).rank ∧ second.rank ≤ (first.join second).rank := by
  revert together
  cases first <;> cases second <;> decide

/-- Shapes that do not clash lose none of their clashes with others when they are joined. -/
theorem clashes_join (together : first.clashes second = false) (other : Shape) :
    (first.join second).clashes other = (first.clashes other || second.clashes other) := by
  have table : ∀ first ∈ all, ∀ second ∈ all, first.clashes second = false → ∀ other ∈ all,
      (first.join second).clashes other = (first.clashes other || second.clashes other) := by
    decide +kernel
  exact table first (mem_all first) second (mem_all second) together other (mem_all other)

/-- No two of the shapes clash. -/
def Agree (shapes : List Shape) : Prop :=
  ∀ first ∈ shapes, ∀ second ∈ shapes, first.clashes second = false

instance (shapes : List Shape) : Decidable (Agree shapes) :=
  inferInstanceAs (Decidable (∀ first ∈ shapes, ∀ second ∈ shapes, first.clashes second = false))

theorem Agree.of_perm (agree : Agree shapes) (reordered : shapes.Perm others) : Agree others :=
  fun first isFirst second isSecond =>
    agree first (reordered.mem_iff.mpr isFirst) second (reordered.mem_iff.mpr isSecond)

theorem agree_cons_iff :
    Agree (first :: shapes) ↔ (∀ other ∈ shapes, first.clashes other = false) ∧ Agree shapes := by
  constructor
  · intro agree
    obtain ⟨head, tail⟩ := List.forall_mem_cons.mp agree
    exact ⟨(List.forall_mem_cons.mp head).2,
      fun other isOther => (List.forall_mem_cons.mp (tail other isOther)).2⟩
  · rintro ⟨head, tail⟩
    refine List.forall_mem_cons.mpr ⟨?_, fun other isOther => ?_⟩
    · exact List.forall_mem_cons.mpr ⟨clashes_self first, head⟩
    · exact List.forall_mem_cons.mpr ⟨clashes_comm first other ▸ head other isOther,
        tail other isOther⟩

/-- One step of a join from the left neither hides a clash nor makes one up. -/
theorem agree_cons_cons_iff :
    Agree (first :: second :: shapes) ↔
      first.clashes second = false ∧ Agree (first.join second :: shapes) := by
  rw [agree_cons_iff, agree_cons_iff, agree_cons_iff, List.forall_mem_cons]
  constructor
  · rintro ⟨⟨together, firstApart⟩, secondApart, rest⟩
    refine ⟨together, fun other isOther => ?_, rest⟩
    rw [clashes_join together, firstApart other isOther, secondApart other isOther, Bool.or_self]
  · rintro ⟨together, apart, rest⟩
    simp only [clashes_join together, Bool.or_eq_false_iff] at apart
    exact ⟨⟨together, fun other isOther => (apart other isOther).1⟩,
      fun other isOther => (apart other isOther).2, rest⟩

theorem clashesAlong_eq_nil_iff : clashesAlong soFar shapes = [] ↔ Agree (soFar :: shapes) := by
  induction shapes generalizing soFar with
  | nil => simp [clashesAlong, Agree]
  | cons next shapes ih =>
      rw [agree_cons_cons_iff, ← ih]
      cases clash : soFar.clashes next <;> simp [clashesAlong, clash]

theorem foldl_join_greatest (agree : Agree (soFar :: shapes)) :
    shapes.foldl join soFar ∈ soFar :: shapes ∧
      ∀ shape ∈ soFar :: shapes, shape.rank ≤ (shapes.foldl join soFar).rank := by
  induction shapes generalizing soFar with
  | nil => simp
  | cons next shapes ih =>
      obtain ⟨together, rest⟩ := agree_cons_cons_iff.mp agree
      obtain ⟨member, bound⟩ := ih rest
      obtain ⟨isOne, firstBelow, secondBelow⟩ := join_greatest together
      obtain ⟨here, later⟩ := List.forall_mem_cons.mp bound
      rw [List.foldl_cons]
      constructor
      · simp only [List.mem_cons] at member ⊢
        rcases member with isJoin | isLater
        · rw [isJoin]
          exact isOne.imp_right .inl
        · exact .inr (.inr isLater)
      · simp only [List.forall_mem_cons]
        exact ⟨firstBelow.trans here, secondBelow.trans here, later⟩

theorem joinAll_greatest (agree : Agree shapes) (nonempty : shapes ≠ []) :
    joinAll shapes ∈ shapes ∧ ∀ shape ∈ shapes, shape.rank ≤ (joinAll shapes).rank := by
  cases shapes with
  | nil => exact absurd rfl nonempty
  | cons shape shapes =>
      rw [joinAll_cons]
      exact foldl_join_greatest agree

theorem joinAll_eq_of_perm (agree : Agree shapes) (reordered : shapes.Perm others) :
    joinAll shapes = joinAll others := by
  by_cases empty : shapes = []
  · rw [empty, List.nil_perm] at reordered
    rw [empty, reordered]
  · have otherNonempty : others ≠ [] := fun otherEmpty =>
      empty (List.perm_nil.mp (otherEmpty ▸ reordered))
    obtain ⟨member, bound⟩ := joinAll_greatest agree empty
    obtain ⟨otherMember, otherBound⟩ := joinAll_greatest (agree.of_perm reordered) otherNonempty
    apply rank_injective
    apply Nat.le_antisymm
    · exact otherBound _ (reordered.mem_iff.mp member)
    · exact bound _ (reordered.mem_iff.mpr otherMember)

/-- A generic shape of width three or four stands alone above the shapes of width two. -/
theorem Agree.eq_or_rank_le (agree : Agree shapes) (isFirst : first ∈ shapes)
    (wide : first = scalarOrVec3 ∨ first = scalarOrVec4) (isSecond : second ∈ shapes) :
    second = first ∨ second.rank ≤ vec2.rank := by
  have together := agree first isFirst second isSecond
  revert together
  rcases wide with rfl | rfl <;> cases second <;> decide

end Shape

/-- The entries of a list in another order: at each place the one from where `order` says. -/
def rearrange {Entry : Type} {count : Nat} (order : Equiv.Perm (Fin count))
    (entries : List Entry) : List Entry :=
  (List.finRange count).filterMap fun place => entries[(order place).val]?

theorem rearrange_map {Entry Image : Type} {count : Nat} (order : Equiv.Perm (Fin count))
    (change : Entry → Image) (entries : List Entry) :
    rearrange order (entries.map change) = (rearrange order entries).map change := by
  simp [rearrange, List.map_filterMap]

theorem perm_rearrange {Entry : Type} {entries : List Entry}
    (order : Equiv.Perm (Fin entries.length)) : (rearrange order entries).Perm entries := by
  have found : (fun place => entries[(order place).val]?) = some ∘ entries.get ∘ order := by
    funext place
    simp
  have isTuple : rearrange order entries = List.ofFn (entries.get ∘ order) := by
    rw [rearrange, found, List.filterMap_eq_map, List.ofFn_eq_map]
  calc
    rearrange order entries = List.ofFn (entries.get ∘ order) := isTuple
    List.Perm _ (List.ofFn entries.get) := order.ofFn_comp_perm entries.get
    _ = entries := List.ofFn_get entries

namespace Snapshot

variable {snapshot : Snapshot}

/-- The shapes that are wired in, in the order of the inputs. -/
def wiredShapes (snapshot : Snapshot) : List Shape :=
  (snapshot.operands.filter Operand.wired).map Operand.shape

theorem base_eq_joinAll (snapshot : Snapshot) : snapshot.base = .joinAll snapshot.wiredShapes := by
  have fromAny (operands : List Operand) (soFar : Shape) :
      (operands.map Operand.contribution).foldl Shape.join soFar =
        ((operands.filter Operand.wired).map Operand.shape).foldl Shape.join soFar := by
    induction operands generalizing soFar with
    | nil => rfl
    | cons operand operands ih =>
        cases wired : operand.wired <;> simp [Operand.contribution, wired, ih]
  exact fromAny snapshot.operands .pending

theorem output_of_unlocked (unlocked : snapshot.locked = false) :
    snapshot.resolution.output = some snapshot.result := by
  simp [resolution, unlocked]

theorem casts_of_unlocked (unlocked : snapshot.locked = false) :
    snapshot.resolution.casts = some snapshot.casts := by
  simp [resolution, unlocked]

def rearranged (snapshot : Snapshot) (order : Equiv.Perm (Fin snapshot.operands.length)) :
    Snapshot :=
  { snapshot with operands := rearrange order snapshot.operands }

variable (order : Equiv.Perm (Fin snapshot.operands.length))

theorem perm_operands_rearranged :
    (snapshot.rearranged order).operands.Perm snapshot.operands :=
  perm_rearrange order

theorem isUnwired_rearranged : (snapshot.rearranged order).isUnwired = snapshot.isUnwired :=
  (perm_operands_rearranged order).all_eq

theorem isIncomplete_rearranged :
    (snapshot.rearranged order).isIncomplete = snapshot.isIncomplete :=
  (perm_operands_rearranged order).any_eq

theorem base_rearranged (agree : Shape.Agree snapshot.wiredShapes) :
    (snapshot.rearranged order).base = snapshot.base := by
  have reordered : snapshot.wiredShapes.Perm (snapshot.rearranged order).wiredShapes :=
    ((perm_operands_rearranged order).symm.filter _).map _
  rw [base_eq_joinAll, base_eq_joinAll, Shape.joinAll_eq_of_perm agree reordered]

theorem placeholder_rearranged (agree : Shape.Agree snapshot.wiredShapes) :
    (snapshot.rearranged order).placeholder = snapshot.placeholder := by
  rw [placeholder, placeholder, base_rearranged order agree,
    (perm_operands_rearranged order).length_eq]

theorem result_rearranged (agree : Shape.Agree snapshot.wiredShapes) :
    (snapshot.rearranged order).result = snapshot.result := by
  rw [result_eq, result_eq, isIncomplete_rearranged, base_rearranged order agree]

theorem casts_rearranged (agree : Shape.Agree snapshot.wiredShapes) :
    (snapshot.rearranged order).casts = rearrange order snapshot.casts := by
  rw [casts, casts, result_rearranged order agree, rearrange_map]
  rfl

theorem resolution_rearranged (agree : Shape.Agree snapshot.wiredShapes) :
    (snapshot.rearranged order).resolution =
      { snapshot.resolution with
        casts := snapshot.resolution.casts.map (rearrange order) } := by
  have sameLocked : (snapshot.rearranged order).locked = snapshot.locked := rfl
  unfold resolution
  rw [isUnwired_rearranged, base_rearranged order agree, placeholder_rearranged order agree,
    result_rearranged order agree, casts_rearranged order agree, sameLocked]
  cases snapshot.locked <;> rfl

/--
If nothing that is wired in clashes, then a refresh decides the same for its
inputs in any order, with the casts in that order.  The base is the shape of
highest rank that is wired in, where a generic shape of width three or four
stands alone above `vec2`.  If the output is not locked and no input is missing,
then the base is the output.
-/
theorem resolution_of_agreeing (snapshot : Snapshot)
    (agree : ∀ first ∈ snapshot.wiredShapes, ∀ second ∈ snapshot.wiredShapes,
      first.clashes second = false) :
    (∀ order : Equiv.Perm (Fin snapshot.operands.length),
      (snapshot.rearranged order).resolution =
        { snapshot.resolution with
          casts := snapshot.resolution.casts.map (rearrange order) }) ∧
    (snapshot.wiredShapes = [] → snapshot.resolution.base = .pending) ∧
    (snapshot.wiredShapes ≠ [] → snapshot.resolution.base ∈ snapshot.wiredShapes) ∧
    (∀ shape ∈ snapshot.wiredShapes, shape.rank ≤ snapshot.resolution.base.rank) ∧
    (∀ wide ∈ snapshot.wiredShapes, wide = .scalarOrVec3 ∨ wide = .scalarOrVec4 →
      ∀ shape ∈ snapshot.wiredShapes, shape = wide ∨ shape.rank ≤ Shape.vec2.rank) ∧
    (snapshot.locked = false → snapshot.isIncomplete = false →
      snapshot.resolution.output = some snapshot.resolution.base) := by
  have base : snapshot.resolution.base = .joinAll snapshot.wiredShapes := base_eq_joinAll snapshot
  refine ⟨fun order => resolution_rearranged order agree, ?_, ?_, ?_, ?_, ?_⟩
  · intro unwired
    rw [base, unwired, Shape.joinAll_nil]
  · intro wired
    rw [base]
    exact (Shape.joinAll_greatest agree wired).1
  · intro shape isWired
    rw [base]
    exact (Shape.joinAll_greatest agree (List.ne_nil_of_mem isWired)).2 shape isWired
  · intro wide isWide generic shape isWired
    exact Shape.Agree.eq_or_rank_le agree isWide generic isWired
  · intro unlocked complete
    rw [output_of_unlocked unlocked, result_of_complete complete, ← base_eq_dominant complete]
    rfl

end Snapshot

namespace Sample

def widening : Snapshot where
  operands := [.carrying .vec2, .carrying .scalar, .carrying .scalarOrVec3]
  output := .pending
  locked := false

/-- If the first and the last operand change places, then so do their casts. -/
theorem resolution_widening :
    Shape.Agree widening.wiredShapes ∧ widening.resolution.casts = some [3, 0, 0] ∧
      (widening.rearranged (Equiv.swap ⟨0, by decide⟩ ⟨2, by decide⟩)).resolution =
        { widening.resolution with casts := some [0, 0, 3] } ∧
      widening.resolution.output = some .scalarOrVec3 := by
  have agree : Shape.Agree widening.wiredShapes := by decide
  obtain ⟨reordered, -, -, -, -, output⟩ := Snapshot.resolution_of_agreeing widening agree
  refine ⟨agree, rfl, ?_, output rfl rfl⟩
  rw [reordered]
  decide

end Sample

end DataflowTyping
