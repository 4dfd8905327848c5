import DataflowTyping.Event
import DataflowTyping.Settings
import DataflowTyping.Snapshot

/-!
# What a refresh decides and reports

A `Resolution` is the decision of one refresh.  It is carried out by the
`writes` that it lists, in their order.  The settings have no part in the
decision: they only choose which events are reported.
-/

namespace DataflowTyping

/-- The decision of a refresh; a locked output and the casts beside it stay as they are. -/
structure Resolution where
  reset : Bool
  base : Shape
  placeholder : Shape
  output : Option Shape
  casts : Option (List UInt8)
  deriving DecidableEq

/-- One step in which a resolution is carried out. -/
inductive Write where
  /-- Put every port back to its declaration. -/
  | reset
  /-- Give every empty input this shape. -/
  | placeholder (shape : Shape)
  /-- Give the output this shape. -/
  | output (shape : Shape)
  /-- Give each input the cast at its position. -/
  | casts (widths : List UInt8)
  deriving DecidableEq

def Resolution.writes (resolution : Resolution) : List Write :=
  (if resolution.reset then [.reset] else []) ++
    [.placeholder resolution.placeholder] ++
    resolution.output.toList.map .output ++
    resolution.casts.toList.map .casts

namespace Snapshot

/-- The decision of a refresh that starts from this snapshot. -/
def resolution (snapshot : Snapshot) : Resolution where
  reset := snapshot.isUnwired
  base := snapshot.base
  placeholder := snapshot.placeholder
  output := if snapshot.locked then none else some snapshot.result
  casts := if snapshot.locked then none else some snapshot.casts

/-- The name under which a node without one is reported. -/
def unnamed : String :=
  "<unnamed>"

/-- The events of joining all inputs from the left and casting them to the result. -/
def joinReport (snapshot : Snapshot) (settings : Settings) (label : String) : List Event :=
  let clashes := Shape.clashesAlong .pending (snapshot.operands.map Operand.shape)
  (if settings.warnOnClash then clashes.map fun (soFar, next) => .clash label soFar next
    else []) ++
  (if settings.diagnostics then [.resolved label snapshot.dominant] else []) ++
  (if snapshot.dominant.castWidth?.isNone && !snapshot.operands.isEmpty then
    [.uncastable label snapshot.dominant]
    else [])

/--
The events of a refresh that starts from this snapshot.  The inputs are joined
only if the output is not locked and none of them is missing.
-/
def report (snapshot : Snapshot) (settings : Settings) (label : Option String) : List Event :=
  let label := label.getD unnamed
  (if settings.diagnostics then
    [.refreshing label snapshot.base snapshot.placeholder snapshot.isUnwired snapshot.locked]
    else []) ++
  (if snapshot.locked || snapshot.isIncomplete then []
    else snapshot.joinReport settings label)

end Snapshot

end DataflowTyping
