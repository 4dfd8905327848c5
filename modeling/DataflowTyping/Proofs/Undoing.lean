import DataflowTyping.Proofs.History
import DataflowTyping.Proofs.NovelRun
import DataflowTyping.Proofs.Widening

/-!
# Taking a new link away undoes it

A new link overwrites shapes and casts at its consumer and everywhere downstream,
so nothing of what stood there is left when the link is taken away again.  It
comes back all the same.  In a steady graph every node is what its declaration and
its producers make of it, so two steady graphs of the same frame are equal as soon
as their fixed nodes are, and fixed nodes are never written to.
-/

namespace DataflowTyping

namespace Keyed

variable {Entry Key : Type} {key : Entry → Key} [DecidableEq Key] {entries : Keyed key}
  {entry : Entry}

theorem erase_insert (unused : key entry ∉ entries.keys) :
    (entries.insert entry).erase (key entry) = entries := by
  ext1
  rw [toList_erase, toList_insert_of_not_mem unused, List.filter_append, ← toList_erase,
    erase_of_not_mem unused]
  simp

end Keyed

theorem Node.eq_of_ports_eq {first second : Node} (sameBlank : first.blank = second.blank)
    (sameInputs : first.inputs = second.inputs) (sameOutputs : first.outputs = second.outputs) :
    first = second := by
  have restore (node : Node) :
      node = { node.blank with inputs := node.inputs, outputs := node.outputs } := rfl
  rw [restore first, restore second, sameBlank, sameInputs, sameOutputs]

namespace Graph

variable {graph first second : Graph} {node counterpart : Node} {edit : Edit} {edits : List Edit}
  {link : Link}

theorem SameFrame.eq_of_nodes_eq (frame : first.SameFrame second)
    (sameNodes : first.nodes = second.nodes) : first = second := by
  cases first
  cases second
  rw [Graph.mk.injEq]
  exact ⟨frame.name, frame.settings, sameNodes, frame.links⟩

theorem SameFrame.altered_disconnect (frame : first.SameFrame second) (id : LinkId) :
    (first.altered (.disconnect id)).SameFrame (second.altered (.disconnect id)) :=
  ⟨frame.name, frame.settings, congrArg (·.erase id) frame.links, frame.blanks⟩

/-- A tidy graph in which a refresh of any node changes nothing. -/
structure Steady (graph : Graph) : Prop extends graph.Tidy where
  settledAt : ∀ id, graph.SettledAt id

theorem steady_blank (name : String) (settings : Settings) : (blank name settings).Steady where
  toTidy := tidy_blank name settings
  settledAt := fun _ => renew_of_none rfl

namespace Steady

theorem perform (steady : graph.Steady) (novel : edit.Novel graph) :
    (graph.perform edit).value.1.Steady := by
  have tidy := steady.toTidy.perform novel
  have plugged := steady.toTidy.plugged
  have alteredPlugged := (sameFrame_perform graph edit).plugged tidy.plugged
  have alteredLayered := Layered.altered ⟨plugged.joined, steady.acyclic⟩ edit
  exact ⟨tidy, plugged.settledAt_perform alteredPlugged alteredLayered.acyclic novel
    steady.settledAt⟩

theorem run (steady : graph.Steady) (novel : graph.NovelRun edits) :
    (graph.run edits).value.1.Steady :=
  novel.induction (fun _ graph => graph.Steady) (fun _ _ _ steady novel => steady.perform novel) []
    steady

/-- In steady graphs of the same frame an arithmetic node with the same producers is the same. -/
theorem eq_of_producers (firstSteady : first.Steady) (secondSteady : second.Steady)
    (frame : first.SameFrame second) (member : node ∈ first.nodes.toList)
    (otherMember : counterpart ∈ second.nodes.toList)
    (sameBlank : node.blank = counterpart.blank) {locked : Bool}
    (inference : node.inference = .arithmetic locked)
    (sameProducers : ∀ producer, first.Feeds producer node.id →
      first.node? producer = second.node? producer) : node = counterpart := by
  have sameIncoming : first.incoming node = second.incoming counterpart :=
    firstSteady.toTidy.plugged.incoming_congr secondSteady.toTidy.plugged member otherMember
      sameBlank (congrFun frame.linksInto _) sameProducers
  obtain ⟨sameInputs, sameOutputs⟩ := ports_eq_of_renewed_eq (Node.alike_of_blank_eq sameBlank)
    inference sameIncoming (firstSteady.declared node member)
    (secondSteady.declared counterpart otherMember)
    (settledAt_iff.mp (firstSteady.settledAt node.id) node (node?_of_mem member))
    (settledAt_iff.mp (secondSteady.settledAt counterpart.id) counterpart
      (node?_of_mem otherMember))
  exact Node.eq_of_ports_eq sameBlank sameInputs sameOutputs

/-- Steady graphs of the same frame that have the same fixed nodes are equal. -/
theorem eq_of_sameFrame (firstSteady : first.Steady) (secondSteady : second.Steady)
    (frame : first.SameFrame second)
    (fixed : ∀ node ∈ first.nodes.toList, node.inference = .fixed → node ∈ second.nodes.toList) :
    first = second := by
  have joined := firstSteady.toTidy.plugged.joined
  -- Producers come first, so that what leads into a node has been found to be the same.
  have sameNodes : ∀ node ∈ first.nodes.toList, second.node? node.id = some node := by
    refine Layered.forall_node ⟨joined, firstSteady.acyclic⟩ fun node member earlier => ?_
    cases inference : node.inference with
    | fixed => exact node?_of_mem (fixed node member inference)
    | arithmetic locked =>
        obtain ⟨counterpart, found, sameBlank⟩ := frame.exists_node? (node?_of_mem member)
        have sameProducers : ∀ producer, first.Feeds producer node.id →
            first.node? producer = second.node? producer := by
          rintro id ⟨link, linkMember, rfl, isTarget⟩
          have feeds : first.Feeds link.source.node node.id := ⟨link, linkMember, rfl, isTarget⟩
          obtain ⟨producer, producerMember, producerId⟩ :=
            Keyed.mem_keys.mp (joined link linkMember).1
          rw [← producerId] at feeds ⊢
          rw [node?_of_mem producerMember, earlier producer producerMember feeds]
        rw [firstSteady.eq_of_producers secondSteady frame member (mem_of_node? found)
          sameBlank.symm inference sameProducers] at found ⊢
        exact found
  exact frame.eq_of_nodes_eq (Keyed.eq_of_find? frame.keys sameNodes)

end Steady

theorem altered_connect_disconnect (accepted : graph.refusal? link = none)
    (unused : link.id ∉ graph.links.keys) :
    (graph.altered (.connect link)).altered (.disconnect link.id) = graph := by
  simp only [altered, if_pos accepted, Keyed.erase_insert unused]

theorem refusal?_eq_none_of_connected {id : LinkId}
    (connected : (graph.perform (.connect link)).value.2 = .connected id) :
    graph.refusal? link = none := by
  cases refused : graph.refusal? link with
  | none => rfl
  | some error =>
      rw [perform_connect_of_refused refused] at connected
      contradiction

/-- Making a link and taking it away leaves every fixed node as it is. -/
theorem mem_disconnect_connect (link : Link) (id : LinkId) (member : node ∈ graph.nodes.toList)
    (fixed : node.inference = .fixed) :
    node ∈ ((graph.perform (.connect link)).value.1.perform
      (.disconnect id)).value.1.nodes.toList := by
  have connects : (Edit.connect link).AddsNew graph := trivial
  obtain ⟨linked, linkedMember, persists⟩ :=
    exists_persistsAs connects member Edit.noConfusion
  have disconnects : (Edit.disconnect id).AddsNew (graph.perform (.connect link)).value.1 := trivial
  obtain ⟨unlinked, unlinkedMember, further⟩ :=
    exists_persistsAs disconnects linkedMember Edit.noConfusion
  rw [← (persists.trans further).fixed fixed]
  exact unlinkedMember

/--
After a novel run, a link that was made can be taken away at once.  This returns
the link and gives back the very graph that was there before: the same nodes in the
same order with the same shapes and casts, and the same links in the same order.
-/
theorem disconnect_after_connect (name : String) (settings : Settings) (edits : List Edit)
    (novel : (blank name settings).NovelRun edits) (link : Link) :
    let graph := ((blank name settings).run edits).value.1
    link.id ∉ graph.links.keys →
      (graph.perform (.connect link)).value.2 = .connected link.id →
        ((graph.perform (.connect link)).value.1.perform (.disconnect link.id)).value =
          (graph, .disconnected (some link)) := by
  intro graph unused connected
  have accepted := refusal?_eq_none_of_connected connected
  have steady : graph.Steady := (steady_blank name settings).run novel
  let linked := (graph.perform (.connect link)).value.1
  have linkedFrame : linked.SameFrame (graph.altered (.connect link)) := sameFrame_perform _ _
  have linkedSteady : linked.Steady := steady.perform unused
  let unlinked := (linked.perform (.disconnect link.id)).value.1
  have unlinkedSteady : unlinked.Steady := linkedSteady.perform trivial
  have unlinkedFrame : unlinked.SameFrame graph := by
    rw [← altered_connect_disconnect accepted unused]
    exact (sameFrame_perform _ _).trans (linkedFrame.altered_disconnect link.id)
  have restored : unlinked = graph :=
    (steady.eq_of_sameFrame unlinkedSteady unlinkedFrame.symm fun _ member fixed =>
      mem_disconnect_connect link link.id member fixed).symm
  have found : linked.links.find? link.id = some link := by
    rw [linkedFrame.links, altered, if_pos accepted, Keyed.find?_insert, if_pos rfl]
  refine Prod.ext restored ?_
  rw [perform_disconnect]
  exact congrArg Outcome.disconnected found

end Graph

namespace Sample

/-- A node with one input, into which many links may lead. -/
def gatherer : Node where
  id := ⟨.ofNat 8⟩
  kind := "gatherer"
  name := "Gatherer"
  inference := .arithmetic false
  inputs := [{ Port.declare .input ⟨.ofNat 100⟩ "All" .pending with manyLinks := true }]
  outputs := [.declare .output ⟨.ofNat 101⟩ "Out" .pending]

/-- Edits after which the gatherer feeds the mixer and nothing feeds the gatherer. -/
def gathering : List Edit :=
  [ .add plane, .add gatherer, .add mixer,
    .connect ⟨⟨.ofNat 1⟩, ⟨⟨.ofNat 8⟩, ⟨.ofNat 101⟩⟩, ⟨⟨.ofNat 7⟩, ⟨.ofNat 91⟩⟩⟩ ]

def gathered : Link :=
  ⟨⟨.ofNat 2⟩, ⟨⟨.ofNat 6⟩, ⟨.ofNat 80⟩⟩, ⟨⟨.ofNat 8⟩, ⟨.ofNat 100⟩⟩⟩

/-- The shapes that a new link spreads to the mixer are gone with the link. -/
theorem disconnect_gathered :
    let graph := ((Graph.blank "Gathering" {}).run gathering).value.1
    let linked := (graph.perform (.connect gathered)).value
    (Graph.blank "Gathering" {}).NovelRun gathering ∧ gathered.id ∉ graph.links.keys ∧
      linked.2 = .connected gathered.id ∧
      (graph.node? mixer.id).map (fun node => node.inputs.map Port.shape) =
        some [.pending, .pending] ∧
      (linked.1.node? mixer.id).map (fun node => node.inputs.map Port.shape) =
        some [.scalarOrVec2, .vec2] ∧
      (linked.1.perform (.disconnect gathered.id)).value =
        (graph, .disconnected (some gathered)) := by
  intro graph linked
  have novel : (Graph.blank "Gathering" {}).NovelRun gathering := by decide +kernel
  have unused : gathered.id ∉ graph.links.keys := by decide +kernel
  have connected : linked.2 = .connected gathered.id := by decide +kernel
  refine ⟨novel, unused, connected, by decide +kernel, by decide +kernel, ?_⟩
  exact Graph.disconnect_after_connect "Gathering" {} gathering novel gathered unused connected

end Sample

end DataflowTyping
