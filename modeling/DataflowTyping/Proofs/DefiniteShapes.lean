import DataflowTyping.Proofs.Acceptance
import DataflowTyping.Proofs.ClashReport

/-!
# Graphs without generic shapes

Only generic shapes ever clash.  Among the shapes with a known number of
components the join of two is the wider one, so that a node with all its
operands passes on the widest of them.  Hence if nodes bring no generic shape
along, none comes about, and no refresh reports operands that clash or that
cannot be cast.  This holds in the midst of a propagation as well, while the
shapes of some nodes are out of date.
-/

namespace DataflowTyping

namespace Shape

variable {first second shape : Shape} {shapes : List Shape}

/-- The number of components, zero where it is open. -/
def width (shape : Shape) : UInt8 :=
  shape.components?.getD 0

theorem isConcrete_iff : shape.isConcrete = true ↔ shape.isGeneric = false ∧ shape ≠ pending := by
  cases shape <;> decide

theorem width_le_of_rank_le (firstKnown : first.isConcrete = true)
    (secondKnown : second.isConcrete = true) (below : first.rank ≤ second.rank) :
    first.width ≤ second.width := by
  revert firstKnown secondKnown below
  cases first <;> cases second <;> decide

theorem agree_of_isGeneric (known : ∀ shape ∈ shapes, shape.isGeneric = false) : Agree shapes := by
  intro first isFirst second isSecond
  have firstKnown := known first isFirst
  have secondKnown := known second isSecond
  revert firstKnown secondKnown
  cases first <;> cases second <;> decide

end Shape

/-- Whether an event tells of operands that clash or cannot be cast. -/
def Event.isTrouble : Event → Bool
  | .clash .. | .uncastable .. => true
  | .refreshing .. | .resolved .. | .rejected .. | .circular .. => false

namespace Snapshot

variable {snapshot : Snapshot} {locked : Bool} {incoming : List (Option Shape)}

theorem agree_of_definite
    (definite : ∀ operand ∈ snapshot.operands, operand.shape.isGeneric = false) :
    Shape.Agree (snapshot.operands.map Operand.shape) :=
  Shape.agree_of_isGeneric (by simpa using definite)

theorem dominant_greatest (complete : snapshot.isIncomplete = false)
    (definite : ∀ operand ∈ snapshot.operands, operand.shape.isGeneric = false)
    (nonempty : snapshot.operands ≠ []) :
    snapshot.dominant ∈ snapshot.operands.map Operand.shape ∧
      ∀ operand ∈ snapshot.operands, operand.shape.width ≤ snapshot.dominant.width := by
  have known : ∀ shape ∈ snapshot.operands.map Operand.shape, shape.isConcrete = true := by
    intro shape member
    refine Shape.isConcrete_iff.mpr ⟨?_, shape_ne_pending complete shape member⟩
    obtain ⟨operand, isOperand, rfl⟩ := List.mem_map.mp member
    exact definite operand isOperand
  obtain ⟨member, bound⟩ := Shape.joinAll_greatest (agree_of_definite definite)
    (by simpa using nonempty)
  refine ⟨member, fun operand isOperand => ?_⟩
  have isShape := List.mem_map_of_mem (f := Operand.shape) isOperand
  exact Shape.width_le_of_rank_le (known _ isShape) (known _ member) (bound _ isShape)

/-- If a known shape comes into every input, then the result is the widest of these. -/
theorem result_told_greatest (nonempty : incoming ≠ [])
    (known : ∀ given ∈ incoming, ∃ shape, given = some shape ∧ shape.isConcrete = true) :
    some (told locked incoming).result ∈ incoming ∧
      ∀ shape, some shape ∈ incoming → shape.width ≤ (told locked incoming).result.width := by
  have operands : ∀ operand ∈ (told locked incoming).operands, some operand.shape ∈ incoming ∧
      operand.shape.isConcrete = true ∧ operand.isMissing = false := by
    intro operand member
    obtain ⟨given, isIncoming, rfl⟩ := List.mem_map.mp member
    obtain ⟨shape, rfl, isKnown⟩ := known given isIncoming
    have notPending := (Shape.isConcrete_iff.mp isKnown).2
    exact ⟨isIncoming, isKnown, Operand.isMissing_eq_false_iff.mpr ⟨rfl, notPending⟩⟩
  have complete : (told locked incoming).isIncomplete = false :=
    List.any_eq_false.mpr fun operand member => by simp [operands operand member]
  obtain ⟨member, bound⟩ := dominant_greatest complete
    (fun operand member => (Shape.isConcrete_iff.mp (operands operand member).2.1).1)
    (by simpa [told] using nonempty)
  rw [result_of_complete complete]
  constructor
  · obtain ⟨operand, isOperand, same⟩ := List.mem_map.mp member
    exact same ▸ (operands operand isOperand).1
  · intro shape isIncoming
    exact bound ⟨shape, true⟩ (List.mem_map.mpr ⟨some shape, isIncoming, rfl⟩)

theorem isTrouble_report
    (definite : snapshot.isIncomplete = false →
      ∀ operand ∈ snapshot.operands, operand.shape.isGeneric = false)
    (settings : Settings) (label : Option String) :
    ∀ event ∈ snapshot.report settings label, event.isTrouble = false := by
  intro event member
  cases event with
  | clash node soFar next =>
      obtain ⟨-, -, complete, isClash, -⟩ := clash_mem_report_iff.mp member
      rw [Shape.clashesAlong_pending_eq_nil_iff.mpr (agree_of_definite (definite complete))]
        at isClash
      exact absurd isClash List.not_mem_nil
  | uncastable node output =>
      obtain ⟨-, complete, isPending, nonempty, -⟩ := uncastable_mem_report_iff.mp member
      have known := dominant_ne_pending complete (agree_of_definite (definite complete)) nonempty
      exact absurd isPending known
  | refreshing | resolved | rejected | circular => rfl

end Snapshot

namespace Node

variable {node : Node} {locked : Bool} {incoming : List (Option Shape)}

/-- With all operands at hand, what a node sees of them is what comes in. -/
theorem isGeneric_operand_seen (sameLength : incoming.length = node.inputs.length)
    (definite : ∀ shape, some shape ∈ incoming → shape.isGeneric = false)
    (complete : (node.seen locked incoming).isIncomplete = false) :
    ∀ operand ∈ (node.seen locked incoming).operands, operand.shape.isGeneric = false := by
  intro operand member
  have heard : operand.heard ∈ (Snapshot.told locked incoming).operands := by
    rw [← heard_seen sameLength]
    exact List.mem_map_of_mem member
  obtain ⟨shape, isIncoming, same⟩ := List.mem_map.mp heard
  rw [← Operand.heard_shape (Snapshot.isMissing_of_mem complete member), ← same]
  cases shape with
  | none => rfl
  | some shape => exact definite shape isIncoming

/-- Neither the shapes of the outputs nor their declared shapes are generic. -/
def Definite (node : Node) : Prop :=
  ∀ port ∈ node.outputs, port.shape.isGeneric = false ∧ port.declared.isGeneric = false

/-- With nothing wired in, the declared shapes come back, whatever shapes there were. -/
theorem definite_refreshed (sameLength : incoming.length = node.inputs.length)
    (declared : ∀ port ∈ node.outputs, port.declared.isGeneric = false)
    (wired : (Snapshot.told locked incoming).isUnwired = false →
      ∀ port ∈ node.outputs, port.shape.isGeneric = false)
    (known : ∀ shape, some shape ∈ incoming → shape.isGeneric = false) :
    (node.refreshed locked incoming).Definite := by
  have prepared : ∀ port ∈ if (Snapshot.told locked incoming).isUnwired then
      node.outputs.map Port.reset else node.outputs,
        port.shape.isGeneric = false ∧ port.declared.isGeneric = false := by
    split_ifs with unwired
    · intro port isReset
      obtain ⟨old, isOutput, rfl⟩ := List.mem_map.mp isReset
      exact ⟨declared old isOutput, declared old isOutput⟩
    · exact fun port isOutput =>
        ⟨wired (Bool.not_eq_true _ ▸ unwired) port isOutput, declared port isOutput⟩
  have result : (Snapshot.told locked incoming).result.isGeneric = false :=
    Snapshot.isGeneric_result_told known
  unfold Definite
  rw [outputs_refreshed locked sameLength]
  generalize (if (Snapshot.told locked incoming).isUnwired then node.outputs.map Port.reset
    else node.outputs) = outputs at prepared
  cases outputs with
  | nil => exact prepared
  | cons output others =>
      obtain ⟨head, tail⟩ := List.forall_mem_cons.mp prepared
      rw [List.modifyHead_cons, List.forall_mem_cons]
      refine ⟨?_, tail⟩
      unfold Port.concluded
      split_ifs
      · exact head
      · exact ⟨result, head.2⟩

end Node

namespace Graph

open Traced

variable {graph : Graph} {node : Node} {edit : Edit} {holds : Node → Prop}

/-- A refresh reports no trouble if nothing generic comes into its node. -/
theorem isTrouble_refresh {id : NodeId}
    (known : ∀ node, graph.node? id = some node →
      ∀ shape, some shape ∈ graph.incoming node → shape.isGeneric = false) :
    ∀ event ∈ (graph.refresh id).events, event.isTrouble = false := by
  unfold refresh
  split
  · exact fun event member => absurd member List.not_mem_nil
  · rename_i node found
    split
    · exact fun event member => absurd member List.not_mem_nil
    · apply Snapshot.isTrouble_report
      exact Node.isGeneric_operand_seen (length_incoming graph node) (known node found)

/-- Links are as they should be, and no output has a generic shape. -/
structure Definite (graph : Graph) : Prop where
  wired : graph.Wired
  outputs : graph.Everywhere Node.Definite

namespace Definite

theorem incoming (definite : graph.Definite) (member : node ∈ graph.nodes.toList) :
    ∀ shape, some shape ∈ graph.incoming node → shape.isGeneric = false := by
  intro shape isIncoming
  obtain ⟨port, isInput, carried⟩ := List.mem_map.mp isIncoming
  obtain ⟨producer, isProducer, -, output, isOutput, rfl⟩ :=
    definite.wired.exists_output_of_carried? member isInput carried
  exact (definite.outputs producer isProducer output isOutput).1

theorem renew (definite : graph.Definite) (id : NodeId) : (graph.renew id).Definite := by
  refine ⟨(sameFrame_renew graph id).symm.wired definite.wired,
    definite.outputs.renew_of_renewed ?_ id⟩
  intro node member
  unfold renewed
  split
  · exact definite.outputs node member
  · have outputs := definite.outputs node member
    exact Node.definite_refreshed (length_incoming graph node)
      (fun port isOutput => (outputs port isOutput).2)
      (fun _ port isOutput => (outputs port isOutput).1) (definite.incoming member)

theorem refresh (definite : graph.Definite) (id : NodeId) :
    (graph.refresh id).Ensures (fun settled => settled.1.Definite)
      fun event => event.isTrouble = false :=
  ⟨definite.renew id, isTrouble_refresh fun _ found => definite.incoming (mem_of_node? found)⟩

/-- An added node may bring along any shapes that do not outlast its first refresh. -/
theorem perform (definite : graph.Definite) (fresh : edit.Fresh graph)
    (added : ∀ node, edit = .add node → ((graph.altered edit).renewed node).Definite) :
    (graph.perform edit).Ensures (fun settled => settled.1.Definite)
      fun event => event.isTrouble = false := by
  have altered := definite.wired.altered fresh
  by_cases isAdd : ∃ node, edit = .add node
  · obtain ⟨node, rfl⟩ := isAdd
    refine ⟨⟨definite.wired.perform fresh, definite.outputs.add (added node rfl)⟩, ?_⟩
    rw [perform_add, events_map]
    refine isTrouble_refresh fun found isFound shape isIncoming => ?_
    obtain rfl : node = found := Option.some.inj (node?_added.symm.trans isFound)
    have nothing := altered.plugged.incoming_of_added definite.wired.layered.joined fresh.novel.1
    exact absurd (nothing _ isIncoming) (Option.some_ne_none shape)
  · refine ensures_perform (fun graph id definite => refresh definite id) (fun _ _ _ _ => rfl) ?_ ?_
    · refine ⟨altered, definite.outputs.altered fun node same => absurd ⟨node, same⟩ isAdd⟩
    · intro link error _ _ event member
      cases error with
      | shapesDiffer output input consumer =>
          rw [List.mem_singleton.mp member]
          rfl
      | _ => exact absurd member List.not_mem_nil

end Definite

end Graph

end DataflowTyping
