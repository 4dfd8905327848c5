import DataflowTyping.Ident
import DataflowTyping.Shape

/-!
# Events

While shapes are found and links are made, events are given off that tell what
happens.  A `Traced` value is a result together with the events of the
computation that gave it, in order.
-/

namespace DataflowTyping

inductive Level where
  | debug
  | warn
  | error
  deriving DecidableEq

def Level.name : Level → String
  | debug => "DEBUG"
  | warn => "WARN"
  | error => "ERROR"

inductive Event where
  /-- The shapes of a node are about to be found anew. -/
  | refreshing (node : String) (base placeholder : Shape) (reset locked : Bool)
  /-- The operands of a node gave its output this shape. -/
  | resolved (node : String) (dominant : Shape)
  /-- The shape of the operands so far clashes with that of the next one. -/
  | clash (node : String) (soFar next : Shape)
  /-- No operand can be widened for an output of this shape. -/
  | uncastable (node : String) (output : Shape)
  /-- A link was refused because the shapes do not fit. -/
  | rejected (output input : Shape) (consumer : String)
  /-- Nothing could be refreshed because the links run in a circle. -/
  | circular (start : NodeId)
  deriving DecidableEq

namespace Event

def level : Event → Level
  | refreshing .. | resolved .. | rejected .. => .debug
  | clash .. => .warn
  | uncastable .. | circular .. => .error

def message : Event → String
  | refreshing .. => "Refreshing node types"
  | resolved .. => "Resolved output type"
  | clash _ soFar next =>
      "Ambiguous input types " ++ soFar.name ++ " and " ++ next.name ++ ", output left pending"
  | uncastable _ output => "Invalid typecast on output type " ++ output.name
  | rejected output input consumer =>
      "Rejected " ++ output.name ++ " output into " ++ input.name ++ " input of " ++ consumer
  | circular start =>
      "Cannot propagate types from " ++ start.label ++ ": Graph contains a cycle"

end Event

/-- A result and the events of the computation that gave it, in order. -/
structure Traced (Result : Type) where
  value : Result
  events : List Event

namespace Traced

instance : Monad Traced where
  pure value := ⟨value, []⟩
  bind first next :=
    let second := next first.value
    ⟨second.value, first.events ++ second.events⟩

variable {First Second : Type}

@[simp]
theorem value_pure (value : First) : (pure value : Traced First).value = value :=
  rfl

@[simp]
theorem events_pure (value : First) : (pure value : Traced First).events = [] :=
  rfl

@[simp]
theorem value_bind (first : Traced First) (next : First → Traced Second) :
    (first >>= next).value = (next first.value).value :=
  rfl

@[simp]
theorem events_bind (first : Traced First) (next : First → Traced Second) :
    (first >>= next).events = first.events ++ (next first.value).events :=
  rfl

@[simp]
theorem value_map (change : First → Second) (first : Traced First) :
    (change <$> first).value = change first.value :=
  rfl

@[simp]
theorem events_map (change : First → Second) (first : Traced First) :
    (change <$> first).events = first.events := by
  show first.events ++ [] = first.events
  simp

instance : LawfulMonad Traced :=
  LawfulMonad.mk' Traced
    (by
      intro Result traced
      cases traced
      simp [Functor.map])
    (fun _ _ => rfl)
    (by
      intro _ _ _ traced _ _
      cases traced
      simp [bind])

end Traced

end DataflowTyping
