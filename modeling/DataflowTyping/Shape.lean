/-!
# Shapes of values

A port carries a value of some shape: a scalar or a vector of two, three or
four components.  A shape may also be open: `pending` says that nothing is
known yet, and `scalarOrVec2` to `scalarOrVec4` say that a scalar fits as well
as the vector.

The shape of a result is the `join` of the shapes of its operands.  Scalars and
vectors of width two give way to everything wider, and four components win
over three.  A few pairs have no join; they `clash`, and their join falls back
to `pending`.
-/

namespace DataflowTyping

/-- What is known about the values that a port carries. -/
inductive Shape where
  | pending
  | scalar
  | vec2
  | vec3
  | vec4
  | scalarOrVec2
  | scalarOrVec3
  | scalarOrVec4
  deriving DecidableEq, Inhabited

namespace Shape

def all : List Shape :=
  [pending, scalar, vec2, vec3, vec4, scalarOrVec2, scalarOrVec3, scalarOrVec4]

theorem mem_all (shape : Shape) : shape ∈ all := by
  cases shape <;> simp [all]

def name : Shape → String
  | pending => "pending"
  | scalar => "scalar"
  | vec2 => "vec2"
  | vec3 => "vec3"
  | vec4 => "vec4"
  | scalarOrVec2 => "scalar|vec2"
  | scalarOrVec3 => "scalar|vec3"
  | scalarOrVec4 => "scalar|vec4"

def components? : Shape → Option UInt8
  | scalar => some 1
  | vec2 => some 2
  | vec3 => some 3
  | vec4 => some 4
  | pending | scalarOrVec2 | scalarOrVec3 | scalarOrVec4 => none

/-- A concrete shape has a known number of components. -/
def isConcrete (shape : Shape) : Bool :=
  shape.components?.isSome

/-- A generic shape leaves open whether the value is a scalar or a vector. -/
def isGeneric : Shape → Bool
  | scalarOrVec2 | scalarOrVec3 | scalarOrVec4 => true
  | _ => false

/-- Vectors and the shapes that may become one. -/
def isVector : Shape → Bool
  | vec2 | vec3 | vec4 => true
  | shape => shape.isGeneric

/--
The shape of a result with operands of the two shapes.

Equal shapes join to themselves and `pending` to the other shape.  A scalar
gives way to a vector, `scalarOrVec2` to `vec2`, these two to every wider
shape, and `vec3` to `vec4`.  The join of any other pair is `pending`.
-/
def join (first second : Shape) : Shape :=
  if first = second then first
  else
    match first, second with
    | pending, other | other, pending => other
    | scalar, other | other, scalar => other
    | vec2, scalarOrVec2 | scalarOrVec2, vec2 => vec2
    | vec2, other | other, vec2 => other
    | scalarOrVec2, other | other, scalarOrVec2 => other
    | vec3, vec4 | vec4, vec3 => vec4
    | _, _ => pending

@[simp]
theorem join_self (shape : Shape) : shape.join shape = shape := by
  simp [join]

@[simp]
theorem pending_join (shape : Shape) : pending.join shape = shape := by
  cases shape <;> rfl

@[simp]
theorem join_pending (shape : Shape) : shape.join pending = shape := by
  cases shape <;> rfl

theorem join_comm (first second : Shape) : first.join second = second.join first := by
  cases first <;> cases second <;> rfl

/-- Two known shapes clash when they have no join. -/
def clashes (first second : Shape) : Bool :=
  first ≠ pending && second ≠ pending && first.join second = pending

theorem clashes_comm (first second : Shape) :
    first.clashes second = second.clashes first := by
  cases first <;> cases second <;> rfl

/-- The join of a list of shapes, taken from the left. -/
def joinAll (shapes : List Shape) : Shape :=
  shapes.foldl join pending

@[simp]
theorem joinAll_nil : joinAll [] = pending :=
  rfl

@[simp]
theorem joinAll_cons (shape : Shape) (shapes : List Shape) :
    joinAll (shape :: shapes) = shapes.foldl join shape := by
  simp [joinAll]

/-- The steps of a join from the left at which the shape so far clashes with the next one. -/
def clashesAlong : Shape → List Shape → List (Shape × Shape)
  | _, [] => []
  | soFar, next :: rest =>
      let later := clashesAlong (soFar.join next) rest
      if soFar.clashes next then (soFar, next) :: later else later

/--
What an empty input of a node may take when the wired inputs join to `base`.

A scalar base says nothing about the other inputs of a node with several, since
they may be scalars or vectors of any width.
-/
def placeholder (base : Shape) (inputCount : Nat) : Shape :=
  match base with
  | scalar => if 1 < inputCount then pending else scalar
  | vec2 => scalarOrVec2
  | vec3 => scalarOrVec3
  | vec4 => scalarOrVec4
  | pending | scalarOrVec2 | scalarOrVec3 | scalarOrVec4 => pending

/-- Whether a value of shape `output` may be wired into an input that asks for `input`. -/
def accepts (input output : Shape) : Bool :=
  input = output ||
    match input with
    | pending => output.isConcrete
    | scalarOrVec2 => output = scalar || output = vec2
    | scalarOrVec3 => output = scalar || output = vec3
    | scalarOrVec4 => output = scalar || output = vec4
    | scalar | vec2 | vec3 | vec4 => false

@[simp]
theorem accepts_self (shape : Shape) : shape.accepts shape = true := by
  simp [accepts]

/--
The width to which operands of two components are widened for a result of a
given shape, zero for none.  A pending result has no such width.
-/
def castWidth? : Shape → Option UInt8
  | scalar | vec2 | scalarOrVec2 => some 0
  | vec3 | scalarOrVec3 => some 3
  | vec4 | scalarOrVec4 => some 4
  | pending => none

@[simp]
theorem castWidth?_eq_none_iff {shape : Shape} : shape.castWidth? = none ↔ shape = pending := by
  cases shape <;> simp [castWidth?]

end Shape

end DataflowTyping
