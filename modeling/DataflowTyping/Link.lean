import DataflowTyping.Ident
import DataflowTyping.Shape
import DataflowTyping.Event

/-!
# Links

A link runs from an output of one node to an input of another.  `LinkError`
lists the reasons for which a link is refused.
-/

namespace DataflowTyping

structure Endpoint where
  node : NodeId
  port : PortId
  deriving DecidableEq

/-- A link from a producer's output to a consumer's input. -/
structure Link where
  id : LinkId
  source : Endpoint
  target : Endpoint
  deriving DecidableEq

def Link.involves (link : Link) (node : NodeId) : Bool :=
  link.source.node = node || link.target.node = node

inductive LinkError where
  | nodeNotFound (node : NodeId)
  | portNotFound (port : PortId)
  /-- The link does not run from an output to an input. -/
  | wrongDirection
  /-- The declared shape of the input, on the named consumer, does not accept the output. -/
  | shapesDiffer (output input : Shape) (consumer : String)
  /-- The input takes a single link and has one. -/
  | occupied (port : PortId)
  | selfLoop
  | cycle
  deriving DecidableEq

namespace LinkError

def message : LinkError → String
  | nodeNotFound node => "Node not found: " ++ node.label
  | portNotFound port => "Port not found: " ++ port.label
  | wrongDirection => "Connections must run from an output port to an input port"
  | shapesDiffer output input _ =>
      "Cannot connect " ++ output.name ++ " output into " ++ input.name ++ " input"
  | occupied port => "Port already connected: " ++ port.label
  | selfLoop => "Self-loop not allowed"
  | cycle => "Connection would create a cycle"

/-- What is reported of a refusal: only shapes that do not fit. -/
def events : LinkError → List Event
  | shapesDiffer output input consumer => [.rejected output input consumer]
  | _ => []

end LinkError

end DataflowTyping
