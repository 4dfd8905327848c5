import DataflowTyping.Proofs.Editing

/-!
# What refreshes keep up, edits keep up

A refresh may rely on something about the graph, keep it up, and report only
certain events.  Then the passes of an edit do the same, also in the graphs
between two refreshes, and so does a whole run, provided that the alterations
which edits make before they refresh keep it up too.
-/

namespace DataflowTyping

namespace Traced

variable {First Second Item : Type} {holds : First → Prop} {finallyHolds : Second → Prop}
  {allowed : Event → Prop} {traced : Traced First}

/-- The value has a property, and only allowed events are reported. -/
structure Ensures (holds : First → Prop) (allowed : Event → Prop) (traced : Traced First) :
    Prop where
  value : holds traced.value
  events : ∀ event ∈ traced.events, allowed event

theorem ensures_pure {value : First} (initially : holds value) :
    (pure value : Traced First).Ensures holds allowed :=
  ⟨initially, fun _ member => absurd member List.not_mem_nil⟩

theorem Ensures.bind (ensures : traced.Ensures holds allowed) {next : First → Traced Second}
    (later : (next traced.value).Ensures finallyHolds allowed) :
    (traced >>= next).Ensures finallyHolds allowed := by
  refine ⟨later.value, fun event member => ?_⟩
  rw [events_bind] at member
  rcases List.mem_append.mp member with isEarly | isLate
  · exact ensures.events event isEarly
  · exact later.events event isLate

theorem Ensures.map (ensures : traced.Ensures holds allowed) {change : First → Second}
    (keeps : ∀ value, holds value → finallyHolds (change value)) :
    (change <$> traced).Ensures finallyHolds allowed := by
  refine ⟨keeps _ ensures.value, ?_⟩
  rw [events_map]
  exact ensures.events

theorem ensures_foldlM {step : First → Item → Traced First}
    (steps : ∀ state item, holds state → (step state item).Ensures holds allowed)
    (items : List Item) {state : First} (initially : holds state) :
    (items.foldlM step state).Ensures holds allowed := by
  induction items generalizing state with
  | nil => exact ensures_pure initially
  | cons item items ih =>
      have stepped := steps state item initially
      rw [List.foldlM_cons]
      exact stepped.bind (ih stepped.value)

end Traced

namespace Graph

open Traced

variable {graph : Graph} {holds : Graph → Prop} {allowed : Event → Prop} {edit : Edit}
  {edits : List Edit}

section Passes

variable (refreshes : ∀ (graph : Graph) (id : NodeId), holds graph →
    (graph.refresh id).Ensures (fun settled => holds settled.1) allowed)
  (circles : ∀ (graph : Graph) (start : NodeId), holds graph → graph.order? = none →
    allowed (.circular start))

include refreshes

theorem ensures_refreshEach (initially : holds graph) (ids : List NodeId) :
    (graph.refreshEach ids).Ensures holds allowed :=
  ensures_foldlM (fun current id kept => (refreshes current id kept).map fun _ kept => kept) ids
    initially

include circles

theorem ensures_propagate (initially : holds graph) (start : NodeId) :
    (graph.propagate start).Ensures holds allowed := by
  unfold propagate
  split
  · rename_i noOrder
    exact ⟨initially, by simpa using circles graph start initially noOrder⟩
  · exact ensures_refreshEach refreshes initially _

theorem ensures_perform (altered : holds (graph.altered edit))
    (refusals : ∀ link error, edit = .connect link → graph.refusal? link = some error →
      ∀ event ∈ error.events, allowed event) :
    (graph.perform edit).Ensures (fun settled => holds settled.1) allowed := by
  have propagated := ensures_foldlM (fun current start (kept : holds current) =>
    ensures_propagate refreshes circles kept start) (graph.disturbed edit) altered
  cases edit with
  | add node =>
      rw [perform_add]
      exact (refreshes _ node.id altered).map fun _ kept => kept
  | remove id =>
      rw [perform_remove]
      exact propagated.map fun _ kept => kept
  | connect link =>
      cases refused : graph.refusal? link with
      | some error =>
          rw [perform_connect_of_refused refused]
          rw [Graph.altered, if_neg (by simp [refused])] at altered
          exact ⟨altered, refusals link error rfl refused⟩
      | none =>
          rw [perform_connect_of_accepted refused]
          exact (ensures_propagate refreshes circles altered _).map fun _ kept => kept
  | disconnect id =>
      rw [perform_disconnect]
      exact propagated.map fun _ kept => kept
  | refresh id =>
      rw [perform_refresh]
      exact (refreshes graph id altered).map fun _ kept => kept
  | refreshAll =>
      cases found : graph.order? with
      | none =>
          rw [perform_refreshAll_of_none found]
          exact ensures_pure altered
      | some order =>
          rw [perform_refreshAll_of_some found]
          exact (ensures_refreshEach refreshes altered order).map fun _ kept => kept
  | propagate start =>
      rw [perform_propagate]
      exact (ensures_propagate refreshes circles altered start).map fun _ kept => kept

end Passes

/-- Edits, each of which is allowed at its turn. -/
def Along (allowed : Graph → Edit → Prop) (graph : Graph) : List Edit → Prop
  | [] => True
  | edit :: edits => allowed graph edit ∧ Along allowed (graph.perform edit).value.1 edits

/-- What allowed edits keep, with the edits made so far in view, holds after them all. -/
theorem Along.induction {allowed : Graph → Edit → Prop} (holds : List Edit → Graph → Prop)
    (step : ∀ history graph edit, holds history graph → allowed graph edit →
      holds (history ++ [edit]) (graph.perform edit).value.1)
    (history : List Edit) (initially : holds history graph) (along : graph.Along allowed edits) :
    holds (history ++ edits) (graph.run edits).value.1 := by
  induction edits generalizing graph history with
  | nil =>
      rw [List.append_nil]
      exact initially
  | cons edit edits ih =>
      have later := ih (history ++ [edit]) (step history graph edit initially along.1) along.2
      rw [List.append_assoc] at later
      exact later

instance decidableAlong {permitted : Graph → Edit → Prop}
    [∀ graph edit, Decidable (permitted graph edit)] :
    (graph : Graph) → (edits : List Edit) → Decidable (graph.Along permitted edits)
  | _, [] => inferInstanceAs (Decidable True)
  | graph, edit :: edits =>
      have : Decidable ((graph.perform edit).value.1.Along permitted edits) :=
        decidableAlong (graph.perform edit).value.1 edits
      inferInstanceAs (Decidable (permitted graph edit ∧ _))

theorem Along.mono {permitted weaker : Graph → Edit → Prop} (along : graph.Along permitted edits)
    (weaken : ∀ graph edit, permitted graph edit → weaker graph edit) :
    graph.Along weaker edits := by
  induction edits generalizing graph with
  | nil => trivial
  | cons edit edits ih => exact ⟨weaken graph edit along.1, ih along.2⟩

theorem along_of_forall {permitted : Graph → Edit → Prop}
    (always : ∀ graph edit, permitted graph edit) (graph : Graph) (edits : List Edit) :
    graph.Along permitted edits := by
  induction edits generalizing graph with
  | nil => trivial
  | cons edit edits ih => exact ⟨always graph edit, ih _⟩

theorem Along.and_forall {permitted : Graph → Edit → Prop} {also : Edit → Prop}
    (along : graph.Along permitted edits) (all : ∀ edit ∈ edits, also edit) :
    graph.Along (fun graph edit => permitted graph edit ∧ also edit) edits := by
  induction edits generalizing graph with
  | nil => trivial
  | cons edit edits ih =>
      obtain ⟨first, rest⟩ := List.forall_mem_cons.mp all
      exact ⟨⟨along.1, first⟩, ih along.2 rest⟩

/-- What every allowed edit ensures of the graph, its outcome and its events, a run ensures. -/
theorem Along.ensures_run {permitted : Graph → Edit → Prop} {fine : Outcome → Prop}
    (performs : ∀ graph edit, holds graph → permitted graph edit →
      (graph.perform edit).Ensures (fun settled => holds settled.1 ∧ fine settled.2) allowed)
    (along : graph.Along permitted edits) (initially : holds graph) :
    (graph.run edits).Ensures
      (fun settled => holds settled.1 ∧ ∀ outcome ∈ settled.2, fine outcome) allowed := by
  induction edits generalizing graph with
  | nil => exact ensures_pure ⟨initially, fun _ member => absurd member List.not_mem_nil⟩
  | cons edit edits ih =>
      have performed := performs graph edit initially along.1
      have rest := ih along.2 performed.value.1
      refine performed.bind (rest.bind (ensures_pure ⟨rest.value.1, ?_⟩))
      exact List.forall_mem_cons.mpr ⟨performed.value.2, rest.value.2⟩

end Graph

end DataflowTyping
