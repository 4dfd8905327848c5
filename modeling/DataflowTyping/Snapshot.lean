import DataflowTyping.Shape

/-!
# What a node sees of its surroundings

A refresh of a node starts from a snapshot: for each input its shape and whether
something is wired in, and whether the output is locked.  Everything that a
refresh decides is a function of the snapshot.
-/

namespace DataflowTyping

/-- One input of a node; the shape of a wired input is that of its producer. -/
structure Operand where
  shape : Shape
  wired : Bool
  deriving DecidableEq

namespace Operand

def carrying (shape : Shape) : Operand :=
  ⟨shape, true⟩

def empty : Operand :=
  ⟨.pending, false⟩

/-- What an input adds to the base of its node: the shape of an empty input is only a guess. -/
def contribution (operand : Operand) : Shape :=
  if operand.wired then operand.shape else .pending

/-- An input is missing while no shape is known from a producer. -/
def isMissing (operand : Operand) : Bool :=
  !operand.wired || operand.shape = .pending

theorem isMissing_eq_false_iff {operand : Operand} :
    operand.isMissing = false ↔ operand.wired = true ∧ operand.shape ≠ .pending := by
  simp [isMissing]

end Operand

/-- The inputs of a node, the shape of its output, and whether that shape is locked. -/
structure Snapshot where
  operands : List Operand
  output : Shape
  locked : Bool
  deriving DecidableEq

namespace Snapshot

def isUnwired (snapshot : Snapshot) : Bool :=
  snapshot.operands.all fun operand => !operand.wired

def isIncomplete (snapshot : Snapshot) : Bool :=
  snapshot.operands.any Operand.isMissing

/-- The join of everything wired in. -/
def base (snapshot : Snapshot) : Shape :=
  .joinAll (snapshot.operands.map Operand.contribution)

/-- The join of all inputs. -/
def dominant (snapshot : Snapshot) : Shape :=
  .joinAll (snapshot.operands.map Operand.shape)

def placeholder (snapshot : Snapshot) : Shape :=
  snapshot.base.placeholder snapshot.operands.length

/--
The shape of the result.  While an input is missing only a scalar is certain
enough to be passed on.
-/
def result (snapshot : Snapshot) : Shape :=
  if snapshot.isIncomplete then
    if snapshot.base = .scalar then .scalar else .pending
  else
    snapshot.dominant

/-- The width to which each input is widened: vectors of two components follow the result. -/
def casts (snapshot : Snapshot) : List UInt8 :=
  snapshot.operands.map fun operand =>
    if operand.shape.components? = some 2 then snapshot.result.castWidth?.getD 0 else 0

@[simp]
theorem length_casts (snapshot : Snapshot) :
    snapshot.casts.length = snapshot.operands.length := by
  simp [casts]

/-- When no input is missing, the join of everything wired in is the join of all inputs. -/
theorem base_eq_dominant {snapshot : Snapshot} (complete : snapshot.isIncomplete = false) :
    snapshot.base = snapshot.dominant := by
  have same : snapshot.operands.map Operand.contribution =
      snapshot.operands.map Operand.shape := by
    apply List.map_congr_left
    intro operand member
    have present : operand.isMissing = false := by
      simp only [isIncomplete, List.any_eq_false, Bool.not_eq_true] at complete
      exact complete operand member
    simp [Operand.contribution, (Operand.isMissing_eq_false_iff.mp present).1]
  rw [base, dominant, same]

end Snapshot

end DataflowTyping
