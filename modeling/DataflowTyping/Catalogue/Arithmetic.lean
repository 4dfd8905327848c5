import DataflowTyping.Catalogue

/-!
# The catalogue of arithmetic

Constants have an output of a fixed shape.  The ports of arithmetic kinds are
pending until something is wired in, and reductions give a scalar whatever is
wired in.  The ports of a kind carry the identifier zero, because only those of
a node need to be told apart.
-/

namespace DataflowTyping

namespace Catalogue

def portOfKind (direction : Direction) (name : String) (shape : Shape) : Port :=
  .declare direction ⟨.zero⟩ name shape

/-- A kind without inputs, whose output has a fixed shape. -/
def constant (id name : String) (shape : Shape) : NodeKind where
  id := id
  name := name
  category := .input
  description := "Constant " ++ shape.name ++ " value"
  inference := .fixed
  inputs := []
  outputs := [portOfKind .output "Value" shape]

def componentwise (id name description : String) (operands : List String) : NodeKind where
  id := id
  name := name
  category := .arithmetic
  description := description
  inference := .arithmetic false
  inputs := operands.map fun operand => portOfKind .input operand .pending
  outputs := [portOfKind .output "Out" .pending]

/-- A kind that reduces its operands to a scalar. -/
def reduction (id name description : String) (operands : List String) : NodeKind :=
  { componentwise id name description operands with
    category := .vector
    inference := .arithmetic true
    outputs := [portOfKind .output "Out" .scalar] }

def arithmeticKinds : List NodeKind :=
  [ constant "value" "Value" .scalar,
    constant "vector2" "Vector 2" .vec2,
    constant "vector3" "Vector 3" .vec3,
    constant "vector4" "Vector 4" .vec4,
    componentwise "add" "Add" "A + B" ["A", "B"],
    componentwise "subtract" "Subtract" "A - B" ["A", "B"],
    componentwise "multiply" "Multiply" "A * B" ["A", "B"],
    componentwise "divide" "Divide" "A / B" ["A", "B"],
    componentwise "min" "Min" "Component-wise minimum" ["A", "B"],
    componentwise "max" "Max" "Component-wise maximum" ["A", "B"],
    componentwise "power" "Power" "Val raised to Exp" ["Val", "Exp"],
    componentwise "lerp" "Lerp" "Blend between A and B by T" ["A", "B", "T"],
    componentwise "abs" "Abs" "Absolute value" ["In"],
    componentwise "fract" "Frac" "Fractional part" ["In"],
    reduction "dot" "Dot" "Dot product of A and B" ["A", "B"],
    reduction "distance" "Distance" "Distance between A and B" ["A", "B"],
    reduction "length" "Length" "Vector length" ["In"] ]

/-- Constants, arithmetic by component, and reductions. -/
def arithmetic : Catalogue :=
  ofList arithmeticKinds

end Catalogue

end DataflowTyping
