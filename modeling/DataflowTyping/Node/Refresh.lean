import DataflowTyping.Node
import DataflowTyping.Resolution

/-!
# Refreshing one node

A refresh of a node is told for each input the shape that its producer gives,
or that it has no producer.  The inputs take over the shapes of their
producers, the node is looked at, and the decision is carried out write by
write.
-/

namespace DataflowTyping

/-- Change the entries of a list by those of another; entries without a partner stay. -/
def overlay {Entry Change : Type} (change : Entry → Change → Entry) :
    List Entry → List Change → List Entry
  | entry :: entries, item :: items => change entry item :: overlay change entries items
  | entries, _ => entries

@[simp]
theorem length_overlay {Entry Change : Type} (change : Entry → Change → Entry)
    (entries : List Entry) (items : List Change) :
    (overlay change entries items).length = entries.length := by
  induction entries generalizing items with
  | nil => cases items <;> rfl
  | cons entry entries ih =>
      cases items with
      | nil => rfl
      | cons item items => simp [overlay, ih]

namespace Node

/-- Let every input with a producer take over its shape. -/
def receive (node : Node) (incoming : List (Option Shape)) : Node :=
  { node with
    inputs := overlay (fun port shape => port.withShape (shape.getD port.shape))
      node.inputs incoming }

/-- What the node sees, given which inputs are wired and whether the output is locked. -/
def snapshot (node : Node) (wired : List Bool) (locked : Bool) : Snapshot where
  operands := List.zipWith (fun port wired => ⟨port.shape, wired⟩) node.inputs wired
  output := (node.outputs.head?.map Port.shape).getD .pending
  locked := locked

/-- Carry out one write; the output of a node is the first one. -/
def write (wired : List Bool) (node : Node) : Write → Node
  | .reset =>
      { node with
        inputs := node.inputs.map Port.reset
        outputs := node.outputs.map Port.reset }
  | .placeholder shape =>
      { node with
        inputs := overlay (fun port wired => if wired then port else port.withShape shape)
          node.inputs wired }
  | .output shape =>
      { node with outputs := node.outputs.modifyHead fun port => port.withShape shape }
  | .casts widths =>
      { node with inputs := overlay Port.withCast node.inputs widths }

def carryOut (wired : List Bool) (node : Node) (resolution : Resolution) : Node :=
  resolution.writes.foldl (write wired) node

/-- What the node sees once its inputs have taken over the incoming shapes. -/
def seen (node : Node) (locked : Bool) (incoming : List (Option Shape)) : Snapshot :=
  (node.receive incoming).snapshot (incoming.map Option.isSome) locked

def refreshed (node : Node) (locked : Bool) (incoming : List (Option Shape)) : Node :=
  (node.receive incoming).carryOut (incoming.map Option.isSome)
    (node.seen locked incoming).resolution

@[simp]
theorem id_write (wired : List Bool) (node : Node) (step : Write) :
    (node.write wired step).id = node.id := by
  cases step <;> rfl

/-- Carrying out a resolution leaves the identifier alone. -/
@[simp]
theorem id_carryOut (wired : List Bool) (node : Node) (resolution : Resolution) :
    (node.carryOut wired resolution).id = node.id := by
  unfold carryOut
  generalize resolution.writes = steps
  induction steps generalizing node with
  | nil => rfl
  | cons step steps ih => rw [List.foldl_cons, ih, id_write]

@[simp]
theorem id_refreshed (node : Node) (locked : Bool) (incoming : List (Option Shape)) :
    (node.refreshed locked incoming).id = node.id := by
  rw [refreshed, id_carryOut]
  rfl

end Node

end DataflowTyping
