import DataflowTyping.Proofs.Acyclicity

/-!
# Settings only choose what is reported

Two graphs that differ in their settings alone go through the same states and
give the same outcomes.  What is reported under some settings is what is
reported if everything is, less the events that the settings do not show.

A computation `Echoes` another if the two end alike and the events of the first
are those of the second that are shown.  Echoes follow each other, so that it
is enough to look at the places where events arise: the refresh of one node and
the refusal of a link.
-/

namespace DataflowTyping

namespace Settings

def verbose : Settings where
  diagnostics := true
  warnOnClash := true

def shows (settings : Settings) : Event → Bool
  | .refreshing .. | .resolved .. => settings.diagnostics
  | .clash .. => settings.warnOnClash
  | .uncastable .. | .rejected .. | .circular .. => true

end Settings

variable {settings : Settings}

theorem Snapshot.joinReport_eq_filter (snapshot : Snapshot) (settings : Settings)
    (label : String) :
    snapshot.joinReport settings label =
      (snapshot.joinReport .verbose label).filter settings.shows := by
  unfold joinReport
  simp only [List.filter_append]
  congr 2
  · cases shown : settings.warnOnClash <;>
      simp [Settings.verbose, Settings.shows, shown, List.filter_map, Function.comp_def]
  · cases shown : settings.diagnostics <;> simp [Settings.verbose, Settings.shows, shown]
  · split_ifs <;> rfl

theorem Snapshot.report_eq_filter (snapshot : Snapshot) (settings : Settings)
    (label : Option String) :
    snapshot.report settings label =
      (snapshot.report .verbose label).filter settings.shows := by
  unfold report
  simp only [List.filter_append]
  congr 1
  · cases shown : settings.diagnostics <;> simp [Settings.verbose, Settings.shows, shown]
  · split_ifs
    · rfl
    · exact snapshot.joinReport_eq_filter settings _

theorem LinkError.filter_events (error : LinkError) (settings : Settings) :
    error.events.filter settings.shows = error.events := by
  cases error <;> rfl

namespace Traced

variable {First Second Third Fourth Item : Type} {alike : First → Second → Prop}
  {finallyAlike : Third → Fourth → Prop} {quiet : Traced First} {loud : Traced Second}

/-- The computations end alike, and the first reports what is shown of the second. -/
structure Echoes (settings : Settings) (alike : First → Second → Prop) (quiet : Traced First)
    (loud : Traced Second) : Prop where
  value : alike quiet.value loud.value
  events : quiet.events = loud.events.filter settings.shows

theorem echoes_pure {first : First} {second : Second} (ends : alike first second) :
    Echoes settings alike (pure first) (pure second) :=
  ⟨ends, rfl⟩

theorem Echoes.bind (echoes : Echoes settings alike quiet loud) {next : First → Traced Third}
    {loudNext : Second → Traced Fourth}
    (later : ∀ first second, alike first second →
      Echoes settings finallyAlike (next first) (loudNext second)) :
    Echoes settings finallyAlike (quiet >>= next) (loud >>= loudNext) := by
  have rest := later _ _ echoes.value
  refine ⟨rest.value, ?_⟩
  rw [events_bind, events_bind, List.filter_append, echoes.events, rest.events]

theorem Echoes.map (echoes : Echoes settings alike quiet loud) {change : First → Third}
    {loudChange : Second → Fourth}
    (ends : ∀ first second, alike first second → finallyAlike (change first) (loudChange second)) :
    Echoes settings finallyAlike (change <$> quiet) (loudChange <$> loud) := by
  refine ⟨ends _ _ echoes.value, ?_⟩
  rw [events_map, events_map, echoes.events]

theorem echoes_foldlM {step : First → Item → Traced First}
    {loudStep : Second → Item → Traced Second}
    (steps : ∀ first second item, alike first second →
      Echoes settings alike (step first item) (loudStep second item))
    (items : List Item) {first : First} {second : Second} (initially : alike first second) :
    Echoes settings alike (items.foldlM step first) (items.foldlM loudStep second) := by
  induction items generalizing first second with
  | nil => exact echoes_pure initially
  | cons item items ih =>
      rw [List.foldlM_cons, List.foldlM_cons]
      exact (steps first second item initially).bind fun _ _ => ih

end Traced

namespace Graph

open Traced

def under (graph : Graph) (settings : Settings) : Graph :=
  { graph with settings := settings }

/-- Graphs that differ in their settings only; the second one reports everything. -/
inductive Twins (settings : Settings) : Graph → Graph → Prop
  | of (graph : Graph) : Twins settings (graph.under settings) (graph.under .verbose)

/-- Twins, with the same result beside each of them. -/
def TwinResults {Result : Type} (settings : Settings) (first second : Graph × Result) : Prop :=
  Twins settings first.1 second.1 ∧ first.2 = second.2

variable {first second : Graph}

theorem altered_under (graph : Graph) (settings : Settings) (edit : Edit) :
    (graph.under settings).altered edit = (graph.altered edit).under settings := by
  cases edit with
  | connect link =>
      have sameRefusal : (graph.under settings).refusal? link = graph.refusal? link := rfl
      rw [altered, altered, sameRefusal]
      split_ifs <;> rfl
  | add | remove | disconnect | refresh | refreshAll | propagate => rfl

namespace Twins

theorem nodes_eq (twins : Twins settings first second) : first.nodes = second.nodes := by
  obtain ⟨graph⟩ := twins
  rfl

theorem links_eq (twins : Twins settings first second) : first.links = second.links := by
  obtain ⟨graph⟩ := twins
  rfl

theorem refresh (twins : Twins settings first second) (id : NodeId) :
    Echoes settings (TwinResults settings) (first.refresh id) (second.refresh id) := by
  obtain ⟨graph⟩ := twins
  have sameNode : (graph.under settings).node? id = (graph.under .verbose).node? id := rfl
  unfold Graph.refresh
  rw [sameNode]
  cases (graph.under .verbose).node? id with
  | none => exact echoes_pure ⟨⟨graph⟩, rfl⟩
  | some node =>
      cases inference : node.inference with
      | fixed =>
          simp only [inference]
          exact echoes_pure ⟨⟨graph⟩, rfl⟩
      | arithmetic locked =>
          simp only [inference]
          let renewed := node.refreshed locked (graph.incoming node)
          refine ⟨⟨⟨{ graph with nodes := graph.nodes.insert renewed }⟩, rfl⟩, ?_⟩
          exact Snapshot.report_eq_filter _ settings _

theorem refreshEach (twins : Twins settings first second) (ids : List NodeId) :
    Echoes settings (Twins settings) (first.refreshEach ids) (second.refreshEach ids) :=
  echoes_foldlM (fun _ _ id twins => (twins.refresh id).map fun _ _ ends => ends.1) ids twins

theorem propagate (twins : Twins settings first second) (start : NodeId) :
    Echoes settings (Twins settings) (first.propagate start) (second.propagate start) := by
  obtain ⟨graph⟩ := twins
  have sameOrder : (graph.under settings).order? = (graph.under .verbose).order? := rfl
  unfold Graph.propagate
  rw [sameOrder]
  cases (graph.under .verbose).order? with
  | none => exact ⟨⟨graph⟩, rfl⟩
  | some order => exact Twins.refreshEach ⟨graph⟩ _

theorem altered (twins : Twins settings first second) (edit : Edit) :
    Twins settings (first.altered edit) (second.altered edit) := by
  obtain ⟨graph⟩ := twins
  rw [altered_under, altered_under]
  exact ⟨graph.altered edit⟩

theorem propagateDisturbed (twins : Twins settings first second) (edit : Edit) :
    Echoes settings (Twins settings)
      ((first.disturbed edit).foldlM Graph.propagate (first.altered edit))
      ((second.disturbed edit).foldlM Graph.propagate (second.altered edit)) := by
  have sameDisturbed : first.disturbed edit = second.disturbed edit := by
    obtain ⟨graph⟩ := twins
    cases edit <;> rfl
  rw [sameDisturbed]
  exact echoes_foldlM (fun _ _ start twins => propagate twins start) _ (twins.altered edit)

theorem perform_connect (twins : Twins settings first second) (link : Link) :
    Echoes settings (TwinResults settings) (first.perform (.connect link))
      (second.perform (.connect link)) := by
  have sameRefusal : first.refusal? link = second.refusal? link := by
    obtain ⟨graph⟩ := twins
    rfl
  cases refused : second.refusal? link with
  | some error =>
      rw [perform_connect_of_refused refused,
        perform_connect_of_refused (sameRefusal.trans refused)]
      exact ⟨⟨twins, rfl⟩, (error.filter_events settings).symm⟩
  | none =>
      rw [perform_connect_of_accepted refused,
        perform_connect_of_accepted (sameRefusal.trans refused)]
      exact ((twins.altered _).propagate _).map fun _ _ ends => ⟨ends, rfl⟩

theorem perform_refreshAll (twins : Twins settings first second) :
    Echoes settings (TwinResults settings) (first.perform .refreshAll)
      (second.perform .refreshAll) := by
  have sameOrder : first.order? = second.order? := by
    obtain ⟨graph⟩ := twins
    rfl
  cases found : second.order? with
  | none =>
      rw [perform_refreshAll_of_none found, perform_refreshAll_of_none (sameOrder.trans found)]
      exact echoes_pure ⟨twins, rfl⟩
  | some order =>
      rw [perform_refreshAll_of_some found, perform_refreshAll_of_some (sameOrder.trans found)]
      exact (twins.refreshEach order).map fun _ _ ends => ⟨ends, rfl⟩

theorem perform (twins : Twins settings first second) (edit : Edit) :
    Echoes settings (TwinResults settings) (first.perform edit) (second.perform edit) := by
  have sameNode (id : NodeId) : first.node? id = second.node? id := by
    obtain ⟨graph⟩ := twins
    rfl
  have sameLink (id : LinkId) : first.links.find? id = second.links.find? id := by
    obtain ⟨graph⟩ := twins
    rfl
  cases edit with
  | add node =>
      rw [perform_add, perform_add]
      exact ((twins.altered _).refresh node.id).map fun _ _ ends => ⟨ends.1, rfl⟩
  | remove id =>
      rw [perform_remove, perform_remove, sameNode]
      exact (twins.propagateDisturbed _).map fun _ _ ends => ⟨ends, rfl⟩
  | connect link => exact twins.perform_connect link
  | disconnect id =>
      rw [perform_disconnect, perform_disconnect, sameLink]
      exact (twins.propagateDisturbed _).map fun _ _ ends => ⟨ends, rfl⟩
  | refresh id =>
      rw [perform_refresh, perform_refresh]
      exact (twins.refresh id).map fun _ _ ends => ⟨ends.1, congrArg Outcome.refreshed ends.2⟩
  | refreshAll => exact twins.perform_refreshAll
  | propagate start =>
      rw [perform_propagate, perform_propagate]
      exact (twins.propagate start).map fun _ _ ends => ⟨ends, rfl⟩

theorem run (twins : Twins settings first second) (edits : List Edit) :
    Echoes settings (TwinResults settings) (first.run edits) (second.run edits) := by
  induction edits generalizing first second with
  | nil => exact echoes_pure ⟨twins, rfl⟩
  | cons edit edits ih =>
      refine (twins.perform edit).bind fun edited loudEdited ends => ?_
      refine (ih ends.1).bind fun final loudFinal finalEnds => ?_
      exact echoes_pure ⟨finalEnds.1, congrArg₂ List.cons ends.2 finalEnds.2⟩

end Twins

/--
The settings have no part in what edits do: whatever they are, after any number
of edits there are the same nodes and links, and the outcomes are the same.  They
only choose what is reported, from the events of a graph that reports everything.
-/
theorem run_congr_settings (name : String) (edits : List Edit) (first second : Settings)
    (count : Nat) :
    let done := (blank name first).run (edits.take count)
    let otherDone := (blank name second).run (edits.take count)
    let verbose := (blank name .verbose).run (edits.take count)
    done.value.2 = otherDone.value.2 ∧ done.value.1.nodes = otherDone.value.1.nodes ∧
      done.value.1.links = otherDone.value.1.links ∧
      done.events = verbose.events.filter first.shows := by
  intro done otherDone verbose
  have twins (settings : Settings) :
      Twins settings (blank name settings) (blank name .verbose) := ⟨blank name .verbose⟩
  obtain ⟨⟨ends, outcomes⟩, events⟩ := (twins first).run (edits.take count)
  obtain ⟨⟨otherEnds, otherOutcomes⟩, -⟩ := (twins second).run (edits.take count)
  exact ⟨outcomes.trans otherOutcomes.symm, ends.nodes_eq.trans otherEnds.nodes_eq.symm,
    ends.links_eq.trans otherEnds.links_eq.symm, events⟩

end Graph

end DataflowTyping
