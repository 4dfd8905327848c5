import DataflowTyping.Ident
import DataflowTyping.Shape

/-!
# Ports

A port is a place of a node at which a value enters or leaves.  It was declared
with a shape, and it has a current shape, which a refresh of its node may
change.  An input may in addition ask for a vector of two components to be
widened before use.
-/

namespace DataflowTyping

/-- Which way values pass through a port. -/
inductive Direction where
  | input
  | output
  deriving DecidableEq

/-- A place of a node at which a value enters or leaves. -/
structure Port where
  id : PortId
  name : String
  direction : Direction
  shape : Shape
  /-- The shape with which the port was declared. -/
  declared : Shape
  /-- The width to which a value is widened before use, zero for none. -/
  cast : UInt8
  /-- Whether several links may end at the port. -/
  manyLinks : Bool
  deriving DecidableEq

namespace Port

/-- A port as declared, without a cast; several links may leave an output. -/
def declare (direction : Direction) (id : PortId) (name : String) (shape : Shape) : Port where
  id := id
  name := name
  direction := direction
  shape := shape
  declared := shape
  cast := 0
  manyLinks := direction = .output

def withId (port : Port) (id : PortId) : Port :=
  { port with id := id }

def withShape (port : Port) (shape : Shape) : Port :=
  { port with shape := shape }

def withCast (port : Port) (width : UInt8) : Port :=
  { port with cast := width }

/-- The port as declared: its declared shape and no cast. -/
def reset (port : Port) : Port :=
  { port with shape := port.declared, cast := 0 }

@[simp]
theorem reset_reset (port : Port) : port.reset.reset = port.reset :=
  rfl

def components? (port : Port) : Option UInt8 :=
  port.shape.components?

/-- The number of components after the cast. -/
def effectiveComponents? (port : Port) : Option UInt8 :=
  if port.cast = 0 then port.components? else some port.cast

/-- Whether a value of shape `output` fits the current shape without a cast. -/
def accepts (port : Port) (output : Shape) : Bool :=
  port.shape.accepts output

/--
Whether a link may join the two ports, in either order.  What counts is the
declared shape of the input, since its current shape is only a hint.
-/
def canConnect (first second : Port) : Bool :=
  match first.direction, second.direction with
  | .input, .output => first.declared.accepts second.shape
  | .output, .input => second.declared.accepts first.shape
  | .input, .input | .output, .output => false

theorem canConnect_comm (first second : Port) :
    first.canConnect second = second.canConnect first := by
  cases firstDirection : first.direction <;> cases secondDirection : second.direction <;>
    simp [canConnect, firstDirection, secondDirection]

end Port

end DataflowTyping
