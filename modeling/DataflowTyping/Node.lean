import DataflowTyping.Port

/-!
# Nodes and kinds of nodes

A kind describes nodes: its ports and the way in which their shapes are found.
A node is an instance of a kind, with identifiers of its own.
-/

namespace DataflowTyping

/-- How the shapes of a node's ports are found. -/
inductive Inference where
  /-- The shapes are those of the declaration. -/
  | fixed
  /-- The shapes follow from what is wired in; a locked output keeps its declared shape. -/
  | arithmetic (locked : Bool)
  deriving DecidableEq

/-- The group in which a kind is offered. -/
inductive Category where
  | input
  | arithmetic
  | vector
  deriving DecidableEq

structure NodeKind where
  id : String
  name : String
  category : Category
  description : String
  inference : Inference
  inputs : List Port
  outputs : List Port
  deriving DecidableEq

structure Node where
  id : NodeId
  kind : String
  name : String
  inference : Inference
  inputs : List Port
  outputs : List Port
  deriving DecidableEq

namespace Node

/-- Every port, inputs first. -/
def ports (node : Node) : List Port :=
  node.inputs ++ node.outputs

def port? (node : Node) (wanted : PortId) : Option Port :=
  node.ports.find? fun port => port.id = wanted

/-- Whether the shapes of the ports follow from what is wired in. -/
def isArithmetic (node : Node) : Bool :=
  match node.inference with
  | .fixed => false
  | .arithmetic _ => true

/-- A found port belongs to the node and has the wanted identifier. -/
theorem of_port?_eq_some {node : Node} {wanted : PortId} {port : Port}
    (found : node.port? wanted = some port) : port ∈ node.ports ∧ port.id = wanted :=
  ⟨List.mem_of_find?_eq_some found, by simpa using List.find?_some found⟩

end Node

/--
The node of a kind with the given identifiers; `portId` gives one to each input
and each output by its position.
-/
def NodeKind.instantiate (kind : NodeKind) (id : NodeId) (portId : Direction → Nat → PortId) :
    Node where
  id := id
  kind := kind.id
  name := kind.name
  inference := kind.inference
  inputs := kind.inputs.mapIdx fun index port => port.withId (portId .input index)
  outputs := kind.outputs.mapIdx fun index port => port.withId (portId .output index)

end DataflowTyping
