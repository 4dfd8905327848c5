/-!
# Settings

Two switches decide which events are reported while shapes are found.
-/

namespace DataflowTyping

/-- What is reported while shapes are found. -/
structure Settings where
  /-- Report every refresh and the shape that it finds. -/
  diagnostics : Bool := false
  /-- Warn of operands whose shapes clash. -/
  warnOnClash : Bool := true
  deriving DecidableEq, Inhabited

end DataflowTyping
