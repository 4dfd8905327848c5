import DataflowTyping.Proofs.History
import DataflowTyping.Proofs.NovelRun

/-!
# Ports that wiring does not change

A fixed node is never written to.  Of an arithmetic node a refresh writes the
inputs and, unless it is locked, the first output; the other outputs and the casts
of a locked node are written only while nothing is wired in, and then with what was
declared.  A node under new identifiers has nothing wired in when it is first
refreshed.  So from then on these ports stand as declared, even if the node was
added with other shapes and casts.
-/

namespace DataflowTyping

namespace Node.Anchored

variable {node : Node} {port : Port}

theorem locked_output (anchored : node.Anchored true) (isOutput : port ∈ node.outputs) :
    port.shape = port.declared ∧ port.cast = 0 :=
  ⟨anchored.outputShapes port isOutput, anchored.outputCasts port isOutput⟩

theorem unlocked_output (anchored : node.Anchored false) (isOther : port ∈ node.outputs.tail) :
    port.shape = port.declared ∧ port.cast = 0 :=
  ⟨anchored.outputShapes port isOther, anchored.outputCasts port (List.mem_of_mem_tail isOther)⟩

end Node.Anchored

namespace Graph

theorem NovelRun.stemsFrom {graph : Graph} {edits : List Edit} (novel : graph.NovelRun edits)
    (empty : graph.nodes.toList = []) :
    (graph.run edits).value.1.Everywhere fun node => ∃ added, StemsFrom edits added node :=
  (novel.mono fun _ _ novel => novel.addsNew).stemsFrom empty

/--
After a novel run every node still has the declaration with which it was last
added.  A fixed node is just as it was added.  The outputs of a locked node, and all
but the first output of any other arithmetic node, have their declared shapes and no
cast, and neither does an input of a locked node have a cast.
-/
theorem fixed_and_locked_ports_of_run (name : String) (settings : Settings) (edits : List Edit)
    (novel : (blank name settings).NovelRun edits) :
    ∀ node ∈ ((blank name settings).run edits).value.1.nodes.toList,
      ∃ added, lastAdded? edits node.id = some added ∧ node.blank = added.blank ∧
        (node.inference = .fixed → node = added) ∧
        (node.inference = .arithmetic true →
          (∀ port ∈ node.outputs, port.shape = port.declared ∧ port.cast = 0) ∧
            ∀ port ∈ node.inputs, port.cast = 0) ∧
        (node.inference = .arithmetic false →
          ∀ port ∈ node.outputs.tail, port.shape = port.declared ∧ port.cast = 0) := by
  intro node member
  obtain ⟨added, stems⟩ := novel.stemsFrom rfl node member
  have declared := ((tidy_blank name settings).run novel).declared node member
  refine ⟨added, stems.isLast, stems.blank, stems.fixed, fun isLocked => ?_, fun isUnlocked => ?_⟩
  · have anchored := declared true isLocked
    exact ⟨fun _ => anchored.locked_output, anchored.inputCasts rfl⟩
  · exact fun _ => (declared false isUnlocked).unlocked_output

end Graph

namespace Sample

/-- A fixed node that brings along another shape than it declares, and a cast. -/
def tinted : Node where
  id := ⟨.ofNat 11⟩
  kind := "tinted"
  name := "Tinted"
  inference := .fixed
  inputs := []
  outputs := [((Port.declare .output ⟨.ofNat 130⟩ "Out" .vec3).withShape .vec2).withCast 4]

/-- A locked node that brings along another shape than it declares, and casts. -/
def stubborn : Node where
  id := ⟨.ofNat 12⟩
  kind := "stubborn"
  name := "Stubborn"
  inference := .arithmetic true
  inputs := [(Port.declare .input ⟨.ofNat 131⟩ "In" .pending).withCast 3]
  outputs := [((Port.declare .output ⟨.ofNat 132⟩ "Out" .scalar).withShape .vec4).withCast 2]

/-- A node with two outputs, which brings along other shapes than it declares. -/
def forked : Node where
  id := ⟨.ofNat 13⟩
  kind := "forked"
  name := "Forked"
  inference := .arithmetic false
  inputs := [.declare .input ⟨.ofNat 133⟩ "In" .pending]
  outputs :=
    [ (Port.declare .output ⟨.ofNat 134⟩ "Main" .pending).withShape .vec3,
      ((Port.declare .output ⟨.ofNat 135⟩ "Side" .scalar).withShape .vec3).withCast 3 ]

/-- Edits that wire the three nodes, cut the wires, and remove and add one of the nodes again. -/
def reshaping : List Edit :=
  let toStubborn (id : Nat) : Link :=
    ⟨⟨.ofNat id⟩, ⟨⟨.ofNat 11⟩, ⟨.ofNat 130⟩⟩, ⟨⟨.ofNat 12⟩, ⟨.ofNat 131⟩⟩⟩
  let toForked (id : Nat) : Link :=
    ⟨⟨.ofNat id⟩, ⟨⟨.ofNat 11⟩, ⟨.ofNat 130⟩⟩, ⟨⟨.ofNat 13⟩, ⟨.ofNat 133⟩⟩⟩
  [ .add tinted, .add stubborn, .add forked, .connect (toStubborn 1), .connect (toForked 2),
    .disconnect ⟨.ofNat 1⟩, .remove ⟨.ofNat 13⟩, .connect (toStubborn 3), .add forked,
    .connect (toForked 4), .refreshAll ]

/-- Of the shapes and casts that the nodes brought along only those of the fixed node are left. -/
theorem ports_of_reshaping :
    let graph := ((Graph.blank "Reshaping" {}).run reshaping).value.1
    (Graph.blank "Reshaping" {}).NovelRun reshaping ∧
      (∃ node ∈ graph.nodes.toList, node.inference = .fixed ∧ node = tinted) ∧
      (∃ node ∈ graph.nodes.toList, node.inference = .arithmetic true ∧
        node.inputs.map Port.shape = [.vec2] ∧
        (∀ port ∈ node.outputs, port.shape = port.declared ∧ port.cast = 0) ∧
          ∀ port ∈ node.inputs, port.cast = 0) ∧
      ∃ node ∈ graph.nodes.toList, node.inference = .arithmetic false ∧
        node.outputs.map Port.shape = [.vec2, .scalar] ∧
        ∀ port ∈ node.outputs.tail, port.shape = port.declared ∧ port.cast = 0 := by
  intro graph
  have novel : (Graph.blank "Reshaping" {}).NovelRun reshaping := by decide +kernel
  have ports := Graph.fixed_and_locked_ports_of_run "Reshaping" {} reshaping novel
  refine ⟨novel, ?_, ?_, ?_⟩
  · have present : ∃ node ∈ graph.nodes.toList, node.inference = .fixed ∧
        Graph.lastAdded? reshaping node.id = some tinted := by
      decide +kernel
    obtain ⟨node, member, isFixed, isLast⟩ := present
    obtain ⟨added, wasLast, -, fixed, -⟩ := ports node member
    have isTinted : added = tinted := Option.some.inj (wasLast.symm.trans isLast)
    exact ⟨node, member, isFixed, (fixed isFixed).trans isTinted⟩
  · have present : ∃ node ∈ graph.nodes.toList, node.inference = .arithmetic true ∧
        node.inputs.map Port.shape = [.vec2] := by
      decide +kernel
    obtain ⟨node, member, isLocked, carried⟩ := present
    obtain ⟨added, -, -, -, locked, -⟩ := ports node member
    exact ⟨node, member, isLocked, carried, locked isLocked⟩
  · have present : ∃ node ∈ graph.nodes.toList, node.inference = .arithmetic false ∧
        node.outputs.map Port.shape = [.vec2, .scalar] := by
      decide +kernel
    obtain ⟨node, member, isUnlocked, given⟩ := present
    obtain ⟨added, -, -, -, -, unlocked⟩ := ports node member
    exact ⟨node, member, isUnlocked, given, unlocked isUnlocked⟩

end Sample

end DataflowTyping
