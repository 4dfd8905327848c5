import DataflowTyping.Proofs.ArithmeticRun
import DataflowTyping.Proofs.Undoing

/-!
# The trace of a propagation

A refresh of an arithmetic node is announced by an event, which tells what the node
hears from its producers.  When a link into a node is made or taken away, the events
announce one refresh of each arithmetic node that links lead to from there, upstream
first.  Each of them tells what the node still hears when all is done, because
nothing that feeds the node is refreshed after it.
-/

namespace DataflowTyping

open Relation

def Event.isRefreshing : Event → Bool
  | refreshing .. => true
  | resolved .. | clash .. | uncastable .. | rejected .. | circular .. => false

namespace Snapshot

theorem filter_joinReport (snapshot : Snapshot) (settings : Settings) (label : String) :
    (snapshot.joinReport settings label).filter Event.isRefreshing = [] := by
  simp only [joinReport, List.filter_append, List.append_eq_nil_iff]
  refine ⟨⟨?_, ?_⟩, ?_⟩
  · split_ifs <;> simp [List.filter_map, Function.comp_def, Event.isRefreshing]
  · split_ifs <;> rfl
  · split_ifs <;> rfl

theorem filter_report {settings : Settings} (diagnostics : settings.diagnostics = true)
    (snapshot : Snapshot) (label : String) :
    (snapshot.report settings (some label)).filter Event.isRefreshing =
      [.refreshing label snapshot.base snapshot.placeholder snapshot.isUnwired
        snapshot.locked] := by
  unfold report
  rw [List.filter_append, if_pos diagnostics, apply_ite (List.filter Event.isRefreshing),
    filter_joinReport, List.filter_nil, ite_self, List.append_nil]
  rfl

end Snapshot

namespace Graph

variable {graph : Graph} {start id other : NodeId} {order ids : List NodeId} {node : Node}

def arithmetic? (graph : Graph) (id : NodeId) : Option Node :=
  (graph.node? id).filter Node.isArithmetic

theorem arithmetic?_eq_some_iff :
    graph.arithmetic? id = some node ↔
      graph.node? id = some node ∧ node.isArithmetic = true :=
  Option.filter_eq_some_iff

/-- What announces a refresh of an arithmetic node. -/
def announcement (graph : Graph) (node : Node) : Event :=
  let heard := Snapshot.told (node.inference = .arithmetic true) (graph.incoming node)
  .refreshing node.name heard.base heard.placeholder heard.isUnwired heard.locked

def announcement? (graph : Graph) (id : NodeId) : Option Event :=
  (graph.arithmetic? id).map graph.announcement

theorem announcement_of_arithmetic {locked : Bool}
    (arithmetic : node.inference = .arithmetic locked) :
    graph.announcement node =
      let seen := node.seen locked (graph.incoming node)
      .refreshing node.name seen.base seen.placeholder seen.isUnwired seen.locked := by
  have isLocked : decide (node.inference = .arithmetic true) = locked := by
    rw [arithmetic]
    cases locked <;> rfl
  have heard : (node.seen locked (graph.incoming node)).heard =
      .told locked (graph.incoming node) :=
    Node.heard_seen (length_incoming graph node)
  simp only [announcement, isLocked, ← heard, Snapshot.base_heard, Snapshot.placeholder_heard,
    Snapshot.isUnwired_heard]
  rfl

theorem filter_events_refresh (diagnostics : graph.settings.diagnostics = true) (id : NodeId) :
    (graph.refresh id).events.filter Event.isRefreshing = (graph.announcement? id).toList := by
  unfold refresh announcement? arithmetic?
  cases graph.node? id with
  | none => rfl
  | some node =>
      cases inference : node.inference with
      | fixed => simp [inference, Option.filter_some, Node.isArithmetic]
      | arithmetic locked =>
          have isArithmetic := Node.isArithmetic_iff.mpr ⟨locked, inference⟩
          simp [inference, Option.filter_some, isArithmetic, announcement_of_arithmetic inference,
            Snapshot.filter_report diagnostics]

theorem events_refreshEach_concat (graph : Graph) (ids : List NodeId) (id : NodeId) :
    (graph.refreshEach (ids ++ [id])).events =
      (graph.refreshEach ids).events ++ ((graph.renewEach ids).refresh id).events := by
  rw [← value_refreshEach]
  simp [refreshEach]

/-- A refresh does not change what announces the refresh of a node that it does not feed. -/
theorem Plugged.announcement?_renew (plugged : graph.Plugged) (notFed : ¬ graph.Feeds id other) :
    (graph.renew id).announcement? other = graph.announcement? other := by
  have frame := (sameFrame_renew graph id).symm
  cases found : graph.node? other with
  | none =>
      have stillAbsent : (graph.renew id).node? other = none := by
        rw [node?, Keyed.find?_eq_none_iff, ← frame.keys]
        exact Keyed.find?_eq_none_iff.mp found
      rw [announcement?, announcement?, arithmetic?, arithmetic?, found, stillAbsent]
      rfl
  | some node =>
      obtain ⟨counterpart, counterpartFound, sameBlank⟩ := frame.exists_node? found
      have sameIncoming : graph.incoming node = (graph.renew id).incoming counterpart := by
        apply plugged.incoming_congr (frame.plugged plugged) (mem_of_node? found)
          (mem_of_node? counterpartFound) sameBlank.symm (congrFun frame.linksInto _)
        intro producer feeds
        have differs : producer ≠ id := by
          rintro rfl
          exact notFed (id_of_node? found ▸ feeds)
        rw [node?_renew, if_neg differs]
      have sameName : counterpart.name = node.name := by
        change counterpart.blank.name = node.blank.name
        rw [sameBlank]
      have sameInference := Node.inference_eq_of_blank_eq sameBlank
      have sameTest : counterpart.isArithmetic = node.isArithmetic := by
        rw [Node.isArithmetic, Node.isArithmetic, sameInference]
      simp [announcement?, arithmetic?, found, counterpartFound, Option.filter_some, sameTest,
        announcement, sameName, sameInference, sameIncoming]

/-- A pass announces each refresh by what the node hears when the pass is over. -/
theorem Plugged.filter_events_pass (plugged : graph.Plugged) (acyclic : graph.Acyclic)
    (diagnostics : graph.settings.diagnostics = true)
    (sorted : Search.Sorted graph.producersOf order) (chosen : NodeId → Bool) :
    (graph.refreshEach (order.filter chosen)).events.filter Event.isRefreshing =
      (order.filter chosen).filterMap
        (graph.renewEach (order.filter chosen)).announcement? := by
  induction sorted with
  | nil => rfl
  | @concat listed last sorted fresh _ ih =>
      cases lastChosen : chosen last with
      | false =>
          rw [filter_concat_of_false lastChosen]
          exact ih
      | true =>
          let middle := graph.renewEach (listed.filter chosen)
          have frame : middle.SameFrame graph := sameFrame_renewEach graph _
          have stillPlugged := frame.symm.plugged plugged
          have announcesLast : (middle.renew last).announcement? last =
              middle.announcement? last := by
            apply stillPlugged.announcement?_renew
            exact fun loop => frame.symm.acyclic acyclic last (.single loop)
          -- What feeds a listed node was listed before it, so `last` does not.
          have announcesListed : ∀ id ∈ listed.filter chosen,
              (middle.renew last).announcement? id = middle.announcement? id := by
            intro id visited
            apply stillPlugged.announcement?_renew
            rw [frame.feeds]
            intro feeds
            have isListed := (List.mem_filter.mp visited).1
            exact fresh (sorted.mem_of_precedes (mem_producersOf.mpr feeds) isListed)
          have stillReported : middle.settings.diagnostics = true := by
            rw [frame.settings, diagnostics]
          rw [filter_concat_of_true lastChosen, events_refreshEach_concat, List.filter_append, ih,
            filter_events_refresh stillReported, renewEach_concat, List.filterMap_append,
            List.filterMap_congr announcesListed, List.filterMap_cons, announcesLast]
          cases middle.announcement? last <;> rfl

/--
The arithmetic nodes to which links lead from a node, each once and behind all of them
from which links lead to it, be it through other nodes.
-/
structure Visits (graph : Graph) (start : NodeId) (visited : List Node) : Prop where
  distinct : (visited.map Node.id).Nodup
  mem_iff : ∀ node, node ∈ visited ↔
    node ∈ graph.nodes.toList ∧ node.isArithmetic = true ∧ ReflTransGen graph.Feeds start node.id
  sorted : ∀ producer ∈ visited, ∀ consumer ∈ visited,
    TransGen graph.Feeds producer.id consumer.id →
      visited.idxOf producer < visited.idxOf consumer

theorem pairwise_filterMap_arithmetic? (graph : Graph) {related : NodeId → NodeId → Prop}
    (pairwise : ids.Pairwise related) :
    (ids.filterMap graph.arithmetic?).Pairwise fun earlier later =>
      related earlier.id later.id := by
  apply pairwise.filterMap
  intro first second relates earlier foundEarlier later foundLater
  rw [id_of_node? (arithmetic?_eq_some_iff.mp foundEarlier).1,
    id_of_node? (arithmetic?_eq_some_iff.mp foundLater).1]
  exact relates

theorem visits_of_sorted (acyclic : graph.Acyclic) (orders : graph.Orders order) (start : NodeId) :
    graph.Visits start ((order.filter fun id => id ∈ graph.downstream start).filterMap
      graph.arithmetic?) := by
  constructor
  case distinct =>
    have distinct := orders.sorted.nodup.filter fun id => decide (id ∈ graph.downstream start)
    rw [List.Nodup, List.pairwise_map]
    exact pairwise_filterMap_arithmetic? graph distinct
  case mem_iff =>
    intro node
    simp only [List.mem_filterMap, List.mem_filter, arithmetic?_eq_some_iff, decide_eq_true_eq,
      mem_downstream]
    constructor
    · rintro ⟨id, ⟨-, reached⟩, found, isArithmetic⟩
      rw [← id_of_node? found] at reached
      exact ⟨mem_of_node? found, isArithmetic, reached⟩
    · rintro ⟨member, isArithmetic, reached⟩
      have isListed := (orders.mem_iff node.id).mpr (Keyed.key_mem_keys member)
      exact ⟨node.id, ⟨isListed, reached⟩, node?_of_mem member, isArithmetic⟩
  case sorted =>
    have noneBack := pairwise_filterMap_arithmetic? graph
      (orders.sorted.pairwise.filter fun id => decide (id ∈ graph.downstream start))
    rw [precedes_producersOf] at noneBack
    intro producer isProducer consumer isConsumer path
    by_contra notBehind
    rcases Nat.lt_or_eq_of_le (Nat.le_of_not_lt notBehind) with before | same
    · have noPath := List.pairwise_iff_getElem.mp noneBack _ _
        (List.idxOf_lt_length_of_mem isConsumer) (List.idxOf_lt_length_of_mem isProducer) before
      rw [List.getElem_idxOf, List.getElem_idxOf] at noPath
      exact noPath path
    · rw [List.idxOf_inj isConsumer] at same
      rw [same] at path
      exact acyclic producer.id path

/-- A propagation announces a refresh of all that it concerns, and leaves everything else alone. -/
theorem Plugged.trace_propagate (plugged : graph.Plugged) (acyclic : graph.Acyclic)
    (diagnostics : graph.settings.diagnostics = true) (start : NodeId) :
    let settled := (graph.propagate start).value
    (∃ visited, settled.Visits start visited ∧
      (graph.propagate start).events.filter Event.isRefreshing =
        visited.map settled.announcement) ∧
    ∀ id, ¬ ReflTransGen graph.Feeds start id → settled.node? id = graph.node? id := by
  intro settled
  obtain ⟨order, found, orders⟩ := plugged.joined.exists_order acyclic
  let ids := order.filter fun id => id ∈ graph.downstream start
  have isSettled : settled = graph.renewEach ids := value_propagate found start
  have frame : graph.SameFrame settled := (sameFrame_propagate graph start).symm
  have sameDownstream : ids = order.filter fun id => id ∈ settled.downstream start := by
    apply List.filter_congr
    intro id _
    rw [decide_eq_decide, mem_downstream, mem_downstream, frame.feeds]
  constructor
  · refine ⟨ids.filterMap settled.arithmetic?, ?_, ?_⟩
    · rw [sameDownstream]
      exact visits_of_sorted (frame.acyclic acyclic) (frame.orders orders) start
    · have events : (graph.propagate start).events = (graph.refreshEach ids).events := by
        rw [propagate, found]
      rw [events, plugged.filter_events_pass acyclic diagnostics orders.sorted, ← isSettled,
        List.map_filterMap]
      rfl
  · intro id unreached
    rw [isSettled]
    apply node?_renewEach
    intro visited
    apply unreached
    simpa [mem_downstream] using (List.mem_filter.mp visited).2

end Graph

/-- The edit made or took away a link into a node, or it propagates from the node. -/
inductive Edit.StartsAt (graph : Graph) (start : NodeId) : Edit → Prop
  | connect {link : Link} (unused : link.id ∉ graph.links.keys)
      (made : (graph.perform (.connect link)).value.2 = .connected link.id)
      (into : link.target.node = start) : StartsAt graph start (.connect link)
  | disconnect {id : LinkId} {link : Link}
      (taken : (graph.perform (.disconnect id)).value.2 = .disconnected (some link))
      (into : link.target.node = start) : StartsAt graph start (.disconnect id)
  | propagate : StartsAt graph start (.propagate start)

namespace Graph

variable {graph smaller larger : Graph} {start goal : NodeId} {link : Link} {edit : Edit}

theorem find?_eq_some_of_disconnected {id : LinkId}
    (taken : (graph.perform (.disconnect id)).value.2 = .disconnected (some link)) :
    graph.links.find? id = some link := by
  rw [perform_disconnect] at taken
  exact Outcome.disconnected.inj taken

/-- A link into a node does not add to what paths lead to from there. -/
theorem reflTransGen_feeds_iff
    (oneMore : ∀ producer consumer, larger.Feeds producer consumer ↔
      smaller.Feeds producer consumer ∨
        (producer = link.source.node ∧ consumer = link.target.node)) :
    ReflTransGen larger.Feeds link.target.node goal ↔
      ReflTransGen smaller.Feeds link.target.node goal := by
  constructor
  · intro path
    rcases reflTransGen_iff_eq_or_transGen.mp path with rfl | further
    · exact .refl
    · have widened := TransGen.mono (fun producer consumer => (oneMore producer consumer).mp) _ _
        further
      rcases transGen_feeds_of_insert widened with without | ⟨-, fromTarget⟩
      · exact without.to_reflTransGen
      · exact fromTarget
  · intro path
    refine ReflTransGen.mono (fun producer consumer feeds => ?_) _ _ path
    exact (oneMore producer consumer).mpr (Or.inl feeds)

theorem feeds_insert_iff (unused : link.id ∉ graph.links.keys) (producer consumer : NodeId) :
    Feeds { graph with links := graph.links.insert link } producer consumer ↔
      graph.Feeds producer consumer ∨
        (producer = link.source.node ∧ consumer = link.target.node) := by
  simp only [Feeds, Keyed.toList_insert_of_not_mem unused, List.mem_append, List.mem_singleton]
  constructor
  · rintro ⟨other, isOld | rfl, source, target⟩
    · exact Or.inl ⟨other, isOld, source, target⟩
    · exact Or.inr ⟨source.symm, target.symm⟩
  · rintro (⟨other, isOld, source, target⟩ | ⟨rfl, rfl⟩)
    · exact ⟨other, Or.inl isOld, source, target⟩
    · exact ⟨link, Or.inr rfl, rfl, rfl⟩

theorem feeds_iff_erase (member : link ∈ graph.links.toList) (producer consumer : NodeId) :
    graph.Feeds producer consumer ↔
      Feeds { graph with links := graph.links.erase link.id } producer consumer ∨
        (producer = link.source.node ∧ consumer = link.target.node) := by
  simp only [Feeds, Keyed.mem_toList_erase]
  constructor
  · rintro ⟨other, isOther, source, target⟩
    by_cases sameId : other.id = link.id
    · have isLink : other = link :=
        List.inj_on_of_nodup_map graph.links.distinct isOther member sameId
      exact Or.inr (isLink ▸ ⟨source.symm, target.symm⟩)
    · exact Or.inl ⟨other, ⟨isOther, sameId⟩, source, target⟩
  · rintro (⟨other, ⟨isOther, -⟩, source, target⟩ | ⟨rfl, rfl⟩)
    · exact ⟨other, isOther, source, target⟩
    · exact ⟨link, member, rfl, rfl⟩

theorem settings_run (graph : Graph) (edits : List Edit) :
    (graph.run edits).value.1.settings = graph.settings := by
  induction edits generalizing graph with
  | nil => rfl
  | cons edit edits ih =>
      have kept : (graph.altered edit).settings = graph.settings := by
        cases edit with
        | connect link =>
            rw [altered]
            split_ifs <;> rfl
        | add | remove | disconnect | refresh | refreshAll | propagate => rfl
      exact (ih _).trans ((sameFrame_perform graph edit).settings.trans kept)

end Graph

namespace Edit.StartsAt

variable {graph : Graph} {start id : NodeId} {edit : Edit}

theorem fresh (starts : edit.StartsAt graph start) : edit.Fresh graph := by
  cases starts with
  | connect unused => exact ⟨unused, trivial⟩
  | disconnect | propagate => exact ⟨trivial, trivial⟩

theorem disturbed_eq (starts : edit.StartsAt graph start) : graph.disturbed edit = [start] := by
  cases starts with
  | connect _ made into =>
      rw [Graph.disturbed, if_pos (Graph.refusal?_eq_none_of_connected made), into]
  | disconnect taken into =>
      rw [Graph.disturbed, Graph.find?_eq_some_of_disconnected taken, Option.toList_some,
        List.map_singleton, into]
  | propagate => rfl

theorem altered_eq (starts : edit.StartsAt graph start) :
    graph.altered edit = { graph with links := (graph.altered edit).links } := by
  cases starts with
  | connect _ made => simp only [Graph.altered, Graph.refusal?_eq_none_of_connected made, if_true]
  | disconnect | propagate => rfl

theorem perform_eq (starts : edit.StartsAt graph start) :
    ∃ outcome, graph.perform edit =
      (fun settled => (settled, outcome)) <$> (graph.altered edit).propagate start := by
  have disturbed := starts.disturbed_eq
  cases starts with
  | connect _ made into =>
      rw [Graph.perform_connect_of_accepted (Graph.refusal?_eq_none_of_connected made), into]
      exact ⟨_, rfl⟩
  | disconnect =>
      rw [Graph.perform_disconnect, disturbed, List.foldlM_cons]
      simp only [List.foldlM_nil, bind_pure]
      exact ⟨_, rfl⟩
  | propagate =>
      rw [Graph.perform_propagate]
      exact ⟨_, rfl⟩

theorem value_perform (starts : edit.StartsAt graph start) :
    (graph.perform edit).value.1 = ((graph.altered edit).propagate start).value := by
  obtain ⟨outcome, performed⟩ := starts.perform_eq
  rw [performed, Traced.value_map]

theorem events_perform (starts : edit.StartsAt graph start) :
    (graph.perform edit).events = ((graph.altered edit).propagate start).events := by
  obtain ⟨outcome, performed⟩ := starts.perform_eq
  rw [performed, Traced.events_map]

theorem nodes_altered (starts : edit.StartsAt graph start) :
    (graph.altered edit).nodes = graph.nodes := by
  rw [starts.altered_eq]

theorem reflTransGen_altered_iff (starts : edit.StartsAt graph start) :
    ReflTransGen (graph.altered edit).Feeds start id ↔ ReflTransGen graph.Feeds start id := by
  cases starts with
  | connect unused made into =>
      rw [← into, Graph.altered, if_pos (Graph.refusal?_eq_none_of_connected made)]
      exact Graph.reflTransGen_feeds_iff (Graph.feeds_insert_iff unused)
  | @disconnect taken link found into =>
      have found := Graph.find?_eq_some_of_disconnected found
      rw [← into, Graph.altered, ← Keyed.key_of_find? found]
      exact (Graph.reflTransGen_feeds_iff
        (Graph.feeds_iff_erase (Keyed.mem_of_find? found))).symm
  | propagate => rfl

end Edit.StartsAt

namespace Graph

variable {graph : Graph} {start : NodeId} {edit : Edit}

theorem Tidy.trace_perform (tidy : graph.Tidy) (diagnostics : graph.settings.diagnostics = true)
    (starts : edit.StartsAt graph start) :
    let done := graph.perform edit
    (∃ visited, done.value.1.Visits start visited ∧
      done.events.filter Event.isRefreshing = visited.map done.value.1.announcement) ∧
    ∀ id, ¬ ReflTransGen graph.Feeds start id → done.value.1.node? id = graph.node? id := by
  intro done
  have plugged : (graph.altered edit).Plugged :=
    (sameFrame_perform graph edit).plugged (tidy.perform starts.fresh.novel).plugged
  have acyclic := (Layered.altered ⟨tidy.plugged.joined, tidy.acyclic⟩ edit).acyclic
  have reported : (graph.altered edit).settings.diagnostics = true := by
    rw [starts.altered_eq]
    exact diagnostics
  have trace := plugged.trace_propagate acyclic reported start
  rw [← starts.value_perform, ← starts.events_perform] at trace
  refine ⟨trace.1, fun id unreached => ?_⟩
  rw [trace.2 id fun path => unreached (starts.reflTransGen_altered_iff.mp path), node?, node?,
    starts.nodes_altered]

theorem Tidy.announcement_mem_events (tidy : graph.Tidy)
    (diagnostics : graph.settings.diagnostics = true) (starts : edit.StartsAt graph start)
    {node : Node} (member : node ∈ (graph.perform edit).value.1.nodes.toList)
    (arithmetic : node.isArithmetic = true)
    (path : ReflTransGen (graph.perform edit).value.1.Feeds start node.id) :
    (graph.perform edit).value.1.announcement node ∈ (graph.perform edit).events := by
  obtain ⟨⟨visited, visits, events⟩, -⟩ := tidy.trace_perform diagnostics starts
  have isVisited := (visits.mem_iff node).mpr ⟨member, arithmetic, path⟩
  have announced := List.mem_map_of_mem isVisited (f := (graph.perform edit).value.1.announcement)
  rw [← events] at announced
  exact (List.mem_filter.mp announced).1

/--
Suppose that after a novel run a link into a node is made or taken away, or that there
is a propagation from the node.  Then the events announce one refresh of each
arithmetic node to which links lead from there, with the node itself, each behind all
that are upstream of it.  No other node changes, and of no node anything but shapes and casts.
-/
theorem refreshes_of_novelRun (name : String) (settings : Settings) (edits : List Edit)
    (novel : (blank name settings).NovelRun edits) (diagnostics : settings.diagnostics = true)
    (edit : Edit) (start : NodeId) :
    let graph := ((blank name settings).run edits).value.1
    edit.StartsAt graph start →
      let done := graph.perform edit
      let edited := done.value.1
      (∃ visited, edited.Visits start visited ∧
        done.events.filter Event.isRefreshing = visited.map edited.announcement) ∧
      (∀ id, ReflTransGen edited.Feeds start id ↔ ReflTransGen graph.Feeds start id) ∧
      (∀ id, ¬ ReflTransGen graph.Feeds start id → edited.node? id = graph.node? id) ∧
      edited.nodes.toList.map Node.blank = graph.nodes.toList.map Node.blank := by
  intro graph starts done edited
  have tidy : graph.Tidy := (tidy_blank name settings).run novel
  have reported : graph.settings.diagnostics = true := by
    rw [settings_run]
    exact diagnostics
  have frame : edited.SameFrame (graph.altered edit) := sameFrame_perform graph edit
  obtain ⟨refreshes, others⟩ := tidy.trace_perform reported starts
  refine ⟨refreshes, fun id => ?_, others, ?_⟩
  · rw [frame.feeds]
    exact starts.reflTransGen_altered_iff
  · rw [frame.blanks, starts.nodes_altered]

end Graph

namespace Sample

/-- Without the vector in the sum, first the sum is refreshed and then the blend that it feeds. -/
theorem refreshes_unblending :
    let settings : Settings := { diagnostics := true }
    let graph := ((Graph.blank "Blending" settings).run blending).value.1
    let edit : Edit := .disconnect ⟨.ofNat 1⟩
    let done := graph.perform edit
    (Graph.blank "Blending" settings).NovelRun blending ∧ settings.diagnostics = true ∧
      edit.StartsAt graph sum.id ∧ (done.events.filter Event.isRefreshing).length = 2 ∧
      (∃ visited, done.value.1.Visits sum.id visited ∧
        done.events.filter Event.isRefreshing = visited.map done.value.1.announcement) ∧
      done.value.1.node? norm.id = graph.node? norm.id := by
  intro settings graph edit done
  have novel : (Graph.blank "Blending" settings).NovelRun blending := by decide +kernel
  have taken : done.value.2 = .disconnected
      (some ⟨⟨.ofNat 1⟩, ⟨⟨.ofNat 6⟩, ⟨.ofNat 80⟩⟩, ⟨⟨.ofNat 2⟩, ⟨.ofNat 20⟩⟩⟩) := by
    decide +kernel
  have starts : edit.StartsAt graph sum.id := .disconnect taken rfl
  have twice : (done.events.filter Event.isRefreshing).length = 2 := by decide +kernel
  have unreached : norm.id ∉ graph.downstream sum.id := by decide +kernel
  rw [Graph.mem_downstream] at unreached
  have refreshes := Graph.refreshes_of_novelRun "Blending" settings blending novel rfl edit sum.id
    starts
  refine ⟨novel, rfl, starts, twice, ?_⟩
  -- Spelled out, so that the two statements agree without evaluating the runs.
  subst done graph
  exact ⟨refreshes.1, refreshes.2.2.1 norm.id unreached⟩

end Sample

end DataflowTyping
