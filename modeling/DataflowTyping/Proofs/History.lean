import DataflowTyping.Proofs.FreshRun

/-!
# Graphs do not remember how they were made

Graphs are alike if they have the same nodes, up to the shapes and casts of
their ports, and links between the same ports.  The shapes and casts of a
settled graph are a function of the rest: along an order of the nodes, what
comes into a node follows from what its producers give, and the ports of the
node follow from what comes in.  Only fixed nodes are never refreshed, but these
still are as they were added.
-/

namespace DataflowTyping

/-- What a refresh may write to a port. -/
def Port.reading (port : Port) : Shape × UInt8 :=
  (port.shape, port.cast)

theorem Port.eq_of_reading_eq {first second : Port} (sameBlank : first.blank = second.blank)
    (sameReading : first.reading = second.reading) : first = second := by
  have restore (port : Port) : port =
      { port.blank with shape := port.reading.1, cast := port.reading.2 } := rfl
  rw [restore first, restore second, sameBlank, sameReading]

theorem Port.list_eq_of_reading_eq {first second : List Port}
    (sameBlank : first.map Port.blank = second.map Port.blank)
    (sameReading : first.map Port.reading = second.map Port.reading) : first = second := by
  induction first generalizing second with
  | nil => exact (List.map_eq_nil_iff.mp sameBlank.symm).symm
  | cons port ports ih =>
      cases second with
      | nil => exact absurd sameBlank (List.cons_ne_nil _ _)
      | cons other others =>
          obtain ⟨headBlank, tailBlank⟩ := List.cons.inj sameBlank
          obtain ⟨headReading, tailReading⟩ := List.cons.inj sameReading
          rw [Port.eq_of_reading_eq headBlank headReading, ih tailBlank tailReading]

def Link.ends (link : Link) : Endpoint × Endpoint :=
  (link.source, link.target)

namespace Node

/-- What a refresh may write to the ports of a node. -/
def readings (node : Node) : List (Shape × UInt8) × List (Shape × UInt8) :=
  (node.inputs.map Port.reading, node.outputs.map Port.reading)

/-- Nodes that infer in the same way and have the same ports up to shapes and casts. -/
structure Alike (first second : Node) : Prop where
  inference : first.inference = second.inference
  inputs : first.inputs.map Port.blank = second.inputs.map Port.blank
  outputs : first.outputs.map Port.blank = second.outputs.map Port.blank

instance (first second : Node) : Decidable (first.Alike second) :=
  decidable_of_iff (first.inference = second.inference ∧
    first.inputs.map Port.blank = second.inputs.map Port.blank ∧
    first.outputs.map Port.blank = second.outputs.map Port.blank)
    ⟨fun ⟨inference, inputs, outputs⟩ => ⟨inference, inputs, outputs⟩,
      fun ⟨inference, inputs, outputs⟩ => ⟨inference, inputs, outputs⟩⟩

variable {first second : Node} {locked : Bool} {incoming : List (Option Shape)}

theorem alike_of_blank_eq (sameBlank : first.blank = second.blank) : first.Alike second :=
  ⟨inference_eq_of_blank_eq sameBlank, congrArg inputs sameBlank, congrArg outputs sameBlank⟩

theorem Alike.ports_eq_of_readings (alike : first.Alike second)
    (sameReadings : first.readings = second.readings) :
    first.inputs = second.inputs ∧ first.outputs = second.outputs :=
  ⟨Port.list_eq_of_reading_eq alike.inputs (congrArg Prod.fst sameReadings),
    Port.list_eq_of_reading_eq alike.outputs (congrArg Prod.snd sameReadings)⟩

/-- Anchored nodes that a refresh with the same incoming shapes does not change have equal ports. -/
theorem Alike.ports_eq (alike : first.Alike second)
    (sameLength : incoming.length = first.inputs.length) (firstAnchored : first.Anchored locked)
    (secondAnchored : second.Anchored locked)
    (firstSettled : first.refreshed locked incoming = first)
    (secondSettled : second.refreshed locked incoming = second) :
    first.inputs = second.inputs ∧ first.outputs = second.outputs := by
  have secondLength : incoming.length = second.inputs.length := by
    rw [sameLength]
    simpa using congrArg List.length alike.inputs
  rw [inputs_of_refreshed_eq sameLength firstAnchored firstSettled,
    inputs_of_refreshed_eq secondLength secondAnchored secondSettled,
    outputs_of_refreshed_eq sameLength firstAnchored firstSettled,
    outputs_of_refreshed_eq secondLength secondAnchored secondSettled, alike.inputs, alike.outputs]
  exact ⟨rfl, rfl⟩

end Node

/-- No input of an added node takes many links. -/
def Edit.TakesSingleLinks (edit : Edit) : Prop :=
  edit.Adds fun node => ∀ port ∈ node.inputs, port.manyLinks = false

instance (edit : Edit) : Decidable edit.TakesSingleLinks :=
  inferInstanceAs (Decidable (edit.Adds _))

namespace Graph

variable {graph first second : Graph} {id : NodeId} {node counterpart : Node} {edit : Edit}
  {history edits : List Edit}

/-- Graphs with the same nodes up to shapes and casts, and with links between the same ports. -/
structure Alike (first second : Graph) : Prop where
  keys : ∀ id, id ∈ first.nodes.keys ↔ id ∈ second.nodes.keys
  nodes : ∀ node ∈ first.nodes.toList, ∀ counterpart ∈ second.nodes.toList,
    node.id = counterpart.id → node.Alike counterpart
  links : ∀ ends, ends ∈ first.links.toList.map Link.ends ↔
    ends ∈ second.links.toList.map Link.ends

/-- If both graphs have a node, then with equal ports. -/
def AgreeAt (first second : Graph) (id : NodeId) : Prop :=
  ∀ node counterpart, first.node? id = some node → second.node? id = some counterpart →
    node.inputs = counterpart.inputs ∧ node.outputs = counterpart.outputs

/-- The shape that an output gives. -/
def offered? (graph : Graph) (source : Endpoint) : Option Shape :=
  (graph.node? source.node).bind fun producer => (producer.port? source.port).map Port.shape

theorem carried?_eq (graph : Graph) (port : PortId) :
    graph.carried? port = (graph.producerOf? port).bind fun link => graph.offered? link.source := by
  rw [carried?]
  cases graph.producerOf? port with
  | none => rfl
  | some link =>
      simp only [offered?, Option.bind_eq_bind, Option.bind_some]
      congr 1
      funext producer
      exact (Option.map_eq_bind ..).symm

/-- Only one link leads into an input that does not take many, so that it gives what is carried. -/
theorem Wired.carried?_of_link (wired : graph.Wired) (member : node ∈ graph.nodes.toList)
    {port : Port} (isInput : port ∈ node.inputs) (one : port.manyLinks = false)
    {source : Endpoint}
    (linked : (source, ⟨node.id, port.id⟩) ∈ graph.links.toList.map Link.ends) :
    graph.carried? port.id = graph.offered? source := by
  obtain ⟨link, linkMember, ends⟩ := List.mem_map.mp linked
  obtain ⟨rfl, target⟩ := Prod.mk.inj ends
  rw [carried?_eq, wired.plugged.producerOf?_eq member isInput]
  cases found : graph.links.toList.find? fun link => link.target = ⟨node.id, port.id⟩ with
  | none =>
      have notInto := List.find?_eq_none.mp found link linkMember
      exact absurd (decide_eq_true target) notInto
  | some other =>
      have otherTarget : other.target = ⟨node.id, port.id⟩ := by simpa using List.find?_some found
      rw [Option.bind_some, wired.single node member port isInput one other
        (List.mem_of_find?_eq_some found) link linkMember otherTarget target]

theorem Wired.carried?_of_no_link (wired : graph.Wired) (member : node ∈ graph.nodes.toList)
    {port : Port} (isInput : port ∈ node.inputs)
    (unlinked : ∀ source, (source, ⟨node.id, port.id⟩) ∉ graph.links.toList.map Link.ends) :
    graph.carried? port.id = none := by
  have unfed : graph.producerOf? port.id = none := by
    rw [wired.plugged.producerOf?_eq member isInput, List.find?_eq_none]
    intro link linkMember target
    have ends : link.ends = (link.source, ⟨node.id, port.id⟩) :=
      congrArg (Prod.mk link.source) (by simpa using target)
    exact unlinked link.source (ends ▸ List.mem_map_of_mem linkMember)
  rw [carried?_eq, unfed, Option.bind_none]

/-- What a settled node is follows from its declaration and from what comes in. -/
theorem ports_eq_of_renewed_eq {locked : Bool} (alike : node.Alike counterpart)
    (inference : node.inference = .arithmetic locked)
    (sameIncoming : first.incoming node = second.incoming counterpart)
    (declared : AsDeclared node) (otherDeclared : AsDeclared counterpart)
    (unchanged : first.renewed node = node)
    (otherUnchanged : second.renewed counterpart = counterpart) :
    node.inputs = counterpart.inputs ∧ node.outputs = counterpart.outputs := by
  have sameInference : counterpart.inference = .arithmetic locked :=
    alike.inference.symm.trans inference
  rw [renewed_of_arithmetic inference] at unchanged
  rw [renewed_of_arithmetic sameInference, ← sameIncoming] at otherUnchanged
  exact alike.ports_eq (length_incoming first node) (declared locked inference)
    (otherDeclared locked sameInference) unchanged otherUnchanged

namespace Alike

theorem incoming_eq (alike : first.Alike second) (firstWired : first.Wired)
    (secondWired : second.Wired) (firstMember : node ∈ first.nodes.toList)
    (secondMember : counterpart ∈ second.nodes.toList) (sameId : node.id = counterpart.id)
    (single : ∀ port ∈ node.inputs, port.manyLinks = false)
    (sameOffers : ∀ source, first.Feeds source.node node.id →
      first.offered? source = second.offered? source) :
    first.incoming node = second.incoming counterpart := by
  have sameInputs := (alike.nodes node firstMember counterpart secondMember sameId).inputs
  have throughBlank (graph : Graph) (node : Node) :
      graph.incoming node =
        (node.inputs.map Port.blank).map fun port => graph.carried? port.id := by
    rw [List.map_map]
    rfl
  rw [throughBlank, throughBlank, ← sameInputs]
  apply List.map_congr_left
  intro blank isBlank
  obtain ⟨port, isInput, rfl⟩ := List.mem_map.mp isBlank
  obtain ⟨input, isCounterpart, sameBlank⟩ := List.mem_map.mp (sameInputs ▸ isBlank)
  have samePort : input.id = port.id := Port.view_congr Port.id sameBlank fun _ => rfl
  have one : input.manyLinks = false := by
    rw [Port.view_congr Port.manyLinks sameBlank fun _ => rfl, single port isInput]
  rw [Port.id_blank]
  by_cases linked : ∃ source, (source, ⟨node.id, port.id⟩) ∈ first.links.toList.map Link.ends
  · obtain ⟨source, firstLinked⟩ := linked
    have secondLinked := (alike.links _).mp firstLinked
    rw [firstWired.carried?_of_link firstMember isInput (single port isInput) firstLinked]
    rw [sameId, ← samePort] at secondLinked
    rw [← samePort, secondWired.carried?_of_link secondMember isCounterpart one secondLinked]
    apply sameOffers
    obtain ⟨link, linkMember, ends⟩ := List.mem_map.mp firstLinked
    obtain ⟨rfl, target⟩ := Prod.mk.inj ends
    exact ⟨link, linkMember, rfl, congrArg Endpoint.node target⟩
  · have firstUnlinked := not_exists.mp linked
    have secondUnlinked : ∀ source,
        (source, ⟨counterpart.id, input.id⟩) ∉ second.links.toList.map Link.ends := by
      intro source
      rw [← alike.links, ← sameId, samePort]
      exact firstUnlinked source
    rw [firstWired.carried?_of_no_link firstMember isInput firstUnlinked, ← samePort,
      secondWired.carried?_of_no_link secondMember isCounterpart secondUnlinked]

theorem offered?_eq (alike : first.Alike second) {source : Endpoint}
    (present : source.node ∈ first.nodes.keys) (agree : first.AgreeAt second source.node) :
    first.offered? source = second.offered? source := by
  obtain ⟨producer, firstFound⟩ := Keyed.mem_keys_iff_find?.mp present
  obtain ⟨counterpart, secondFound⟩ := Keyed.mem_keys_iff_find?.mp ((alike.keys _).mp present)
  obtain ⟨sameInputs, sameOutputs⟩ := agree producer counterpart firstFound secondFound
  have samePorts : producer.ports = counterpart.ports := by
    rw [Node.ports, Node.ports, sameInputs, sameOutputs]
  rw [offered?, offered?, node?, node?, firstFound, secondFound, Option.bind_some,
    Option.bind_some, Node.port?, Node.port?, samePorts]

/-- Settled graphs that are alike agree at a node if they agree at its producers. -/
theorem agreeAt_of_producers (alike : first.Alike second) (firstSettled : first.Settled)
    (secondSettled : second.Settled)
    (single : ∀ node ∈ first.nodes.toList, ∀ port ∈ node.inputs, port.manyLinks = false)
    (firstMember : node ∈ first.nodes.toList)
    (producers : ∀ producer ∈ first.nodes.toList, first.Feeds producer.id node.id →
      first.AgreeAt second producer.id)
    {locked : Bool} (inference : node.inference = .arithmetic locked) :
    first.AgreeAt second node.id := by
  intro found counterpart firstFound secondFound
  obtain rfl : node = found := Option.some.inj ((node?_of_mem firstMember).symm.trans firstFound)
  have secondMember := mem_of_node? secondFound
  have sameId : node.id = counterpart.id := (id_of_node? secondFound).symm
  have nodesAlike := alike.nodes node firstMember counterpart secondMember sameId
  have sameIncoming : first.incoming node = second.incoming counterpart := by
    refine alike.incoming_eq firstSettled.wired secondSettled.wired firstMember secondMember sameId
      (single node firstMember) ?_
    intro source feeds
    have present : source.node ∈ first.nodes.keys := by
      obtain ⟨link, linkMember, isSource, -⟩ := feeds
      exact isSource ▸ (firstSettled.wired.layered.joined link linkMember).1
    refine alike.offered?_eq present ?_
    obtain ⟨producer, producerMember, producerId⟩ := Keyed.mem_keys.mp present
    rw [← producerId] at feeds ⊢
    exact producers producer producerMember feeds
  exact ports_eq_of_renewed_eq nodesAlike inference sameIncoming
    (firstSettled.declared node firstMember) (secondSettled.declared counterpart secondMember)
    (settledAt_iff.mp (firstSettled.settledAt node.id) node firstFound)
    (settledAt_iff.mp (secondSettled.settledAt node.id) counterpart secondFound)

/-- Settled graphs that are alike agree everywhere if they agree at fixed nodes. -/
theorem agreeAt (alike : first.Alike second) (firstSettled : first.Settled)
    (secondSettled : second.Settled)
    (single : ∀ node ∈ first.nodes.toList, ∀ port ∈ node.inputs, port.manyLinks = false)
    (fixed : ∀ node ∈ first.nodes.toList, node.inference = .fixed →
      first.AgreeAt second node.id) (id : NodeId) : first.AgreeAt second id := by
  -- Only the first graph is followed; that the second has the same producers is in `alike`.
  have atNodes : ∀ node ∈ first.nodes.toList, first.AgreeAt second node.id := by
    refine firstSettled.wired.layered.forall_node fun node member earlier => ?_
    cases inference : node.inference with
    | fixed => exact fixed node member inference
    | arithmetic locked =>
        exact alike.agreeAt_of_producers firstSettled secondSettled single member earlier inference
  intro node counterpart firstFound
  have agree := atNodes node (mem_of_node? firstFound)
  rw [id_of_node? firstFound] at agree
  exact agree node counterpart firstFound

end Alike

/-- The node that was added last under an identifier. -/
def lastAdded? (edits : List Edit) (id : NodeId) : Option Node :=
  edits.reverse.findSome? fun
    | .add node => if node.id = id then some node else none
    | _ => none

theorem lastAdded?_concat_self (history : List Edit) (node : Node) :
    lastAdded? (history ++ [.add node]) node.id = some node := by
  simp [lastAdded?]

theorem lastAdded?_concat (unrelated : ∀ node, edit = .add node → node.id ≠ id) :
    lastAdded? (history ++ [edit]) id = lastAdded? history id := by
  cases edit with
  | add node => simp [lastAdded?, unrelated node rfl]
  | _ => simp [lastAdded?]

theorem add_mem_of_lastAdded? (found : lastAdded? edits id = some node) : .add node ∈ edits := by
  obtain ⟨edit, member, isAdd⟩ := List.exists_of_findSome?_eq_some found
  cases edit with
  | add added =>
      simp only [Option.ite_none_right_eq_some, Option.some.injEq] at isAdd
      rw [← isAdd.2]
      exact List.mem_reverse.mp member
  | _ => contradiction

/-- The node is as it was last added, but for what refreshes write. -/
structure StemsFrom (history : List Edit) (added node : Node) : Prop where
  isLast : lastAdded? history node.id = some added
  blank : node.blank = added.blank
  fixed : node.inference = .fixed → node = added

theorem StemsFrom.renewed {added : Node} (stems : StemsFrom history added node) (graph : Graph) :
    StemsFrom history added (graph.renewed node) where
  isLast := by
    rw [id_renewed]
    exact stems.isLast
  blank := (blank_renewed graph node).trans stems.blank
  fixed := by
    intro isFixed
    rw [Node.inference_eq_of_blank_eq (blank_renewed graph node)] at isFixed
    rw [Graph.renewed, isFixed]
    exact stems.fixed isFixed

theorem StemsFrom.readings_eq {otherEdits : List Edit} {added otherAdded : Node}
    (stems : StemsFrom edits added node) (otherStems : StemsFrom otherEdits otherAdded counterpart)
    (sameId : counterpart.id = node.id) (fixed : node.inference = .fixed)
    (otherFixed : counterpart.inference = .fixed)
    (sameAdded : (lastAdded? edits node.id).map Node.readings =
      (lastAdded? otherEdits node.id).map Node.readings) :
    node.readings = counterpart.readings := by
  rw [stems.isLast, ← sameId, otherStems.isLast, ← stems.fixed fixed,
    ← otherStems.fixed otherFixed] at sameAdded
  exact Option.some.inj sameAdded

theorem StemsFrom.manyLinks_eq_false {added : Node} (stems : StemsFrom edits added node)
    (single : ∀ edit ∈ edits, edit.TakesSingleLinks) :
    ∀ port ∈ node.inputs, port.manyLinks = false := by
  intro port isInput
  obtain ⟨input, inputMember, sameInput⟩ := Node.exists_input stems.blank isInput
  rw [Port.view_congr Port.manyLinks sameInput.symm fun _ => rfl]
  exact single (.add added) (add_mem_of_lastAdded? stems.isLast) input inputMember

/-- Every node of a graph stems from where it was added. -/
theorem Along.stemsFrom (along : graph.Along (fun graph edit => edit.AddsNew graph) edits)
    (empty : graph.nodes.toList = []) :
    (graph.run edits).value.1.Everywhere fun node => ∃ added, StemsFrom edits added node := by
  refine along.induction
    (fun history graph => graph.Everywhere fun node => ∃ added, StemsFrom history added node)
    ?_ [] ?_
  · intro history graph edit everywhere addsNew
    refine Everywhere.perform ?_ ?_ ?_
    · exact fun graph node ⟨added, stems⟩ => ⟨added, stems.renewed graph⟩
    · rintro node rfl
      have stems : StemsFrom (history ++ [.add node]) node node :=
        ⟨lastAdded?_concat_self history node, rfl, fun _ => rfl⟩
      exact ⟨node, stems.renewed _⟩
    · intro node member
      obtain ⟨added, isLast, blank, fixed⟩ := everywhere node member
      refine ⟨added, ?_, blank, fixed⟩
      rw [lastAdded?_concat, isLast]
      rintro new rfl sameId
      exact addsNew (sameId ▸ List.mem_map_of_mem member)
  · rw [Everywhere, empty]
    exact fun node member => absurd member List.not_mem_nil

theorem FreshRun.stemsFrom (fresh : graph.FreshRun edits) (empty : graph.nodes.toList = []) :
    (graph.run edits).value.1.Everywhere fun node => ∃ added, StemsFrom edits added node :=
  (fresh.mono fun _ _ fresh => fresh.novel.addsNew).stemsFrom empty

theorem Alike.agreeAt_of_stemsFrom {otherEdits : List Edit} (alike : first.Alike second)
    (settled : first.Settled) (otherSettled : second.Settled)
    (stems : first.Everywhere fun node => ∃ added, StemsFrom edits added node)
    (otherStems : second.Everywhere fun node => ∃ added, StemsFrom otherEdits added node)
    (single : ∀ edit ∈ edits, edit.TakesSingleLinks)
    (sameFixed : ∀ node ∈ first.nodes.toList, node.inference = .fixed →
      (lastAdded? edits node.id).map Node.readings =
        (lastAdded? otherEdits node.id).map Node.readings) (id : NodeId) :
    first.AgreeAt second id := by
  refine alike.agreeAt settled otherSettled ?_ ?_ id
  · intro node member
    obtain ⟨added, stems⟩ := stems node member
    exact stems.manyLinks_eq_false single
  · intro node member fixed found counterpart firstFound secondFound
    obtain rfl : node = found := Option.some.inj ((node?_of_mem member).symm.trans firstFound)
    have otherMember := mem_of_node? secondFound
    have sameId : counterpart.id = node.id := id_of_node? secondFound
    have nodesAlike := alike.nodes node member counterpart otherMember sameId.symm
    have otherFixed : counterpart.inference = .fixed := nodesAlike.inference.symm.trans fixed
    obtain ⟨added, stems⟩ := stems node member
    obtain ⟨otherAdded, otherStems⟩ := otherStems counterpart otherMember
    apply nodesAlike.ports_eq_of_readings
    exact stems.readings_eq otherStems sameId fixed otherFixed (sameFixed node member fixed)

/--
The graphs after two fresh runs have equal ports if they are alike, if no input
takes many links, and if fixed nodes were added with the same shapes and casts.
Names and settings, the order of the edits and what was undone do not matter.
-/
theorem ports_eq_of_alike_runs (name otherName : String) (settings otherSettings : Settings)
    (edits otherEdits : List Edit) (fresh : (blank name settings).FreshRun edits)
    (otherFresh : (blank otherName otherSettings).FreshRun otherEdits)
    (single : ∀ edit ∈ edits ++ otherEdits, edit.TakesSingleLinks)
    (alike : ((blank name settings).run edits).value.1.Alike
      ((blank otherName otherSettings).run otherEdits).value.1)
    (sameFixed : ∀ node ∈ ((blank name settings).run edits).value.1.nodes.toList,
      node.inference = .fixed →
        (lastAdded? edits node.id).map Node.readings =
          (lastAdded? otherEdits node.id).map Node.readings) :
    ∀ node ∈ ((blank name settings).run edits).value.1.nodes.toList,
      ∃ counterpart ∈ ((blank otherName otherSettings).run otherEdits).value.1.nodes.toList,
        counterpart.id = node.id ∧ counterpart.inputs = node.inputs ∧
          counterpart.outputs = node.outputs := by
  have settled := (settled_blank name settings).run fresh
  have otherSettled := (settled_blank otherName otherSettings).run otherFresh
  intro node member
  have isKey : node.id ∈ ((blank otherName otherSettings).run otherEdits).value.1.nodes.keys :=
    (alike.keys node.id).mp (List.mem_map_of_mem member)
  obtain ⟨counterpart, otherMember, sameId⟩ := List.mem_map.mp isKey
  obtain ⟨sameInputs, sameOutputs⟩ :=
    alike.agreeAt_of_stemsFrom settled otherSettled (fresh.stemsFrom rfl)
      (otherFresh.stemsFrom rfl) (fun edit isEdit => single edit (List.mem_append_left _ isEdit))
      sameFixed node.id node counterpart (node?_of_mem member) (sameId ▸ node?_of_mem otherMember)
  exact ⟨counterpart, otherMember, sameId, sameInputs.symm, sameOutputs.symm⟩

end Graph

namespace Sample

/-- Edits that end with a vector wired into a sum, but not in a straight line. -/
def detour : List Edit :=
  [.add sum, .add vector, .connect (wire 3), .remove vector.id, .add vector, .connect (wire 5),
    .connect (wire 7), .disconnect ⟨.ofNat 5⟩, .connect (wire 9), .refreshAll]

/-- A detour does not show in the ports. -/
theorem ports_of_detour :
    (Graph.blank "Sum" {}).FreshRun wiring ∧ (Graph.blank "Detour" {}).FreshRun detour ∧
      ((Graph.blank "Sum" {}).run wiring).value.1.links ≠
        ((Graph.blank "Detour" {}).run detour).value.1.links ∧
      ∀ node ∈ ((Graph.blank "Sum" {}).run wiring).value.1.nodes.toList,
        ∃ counterpart ∈ ((Graph.blank "Detour" {}).run detour).value.1.nodes.toList,
          counterpart.id = node.id ∧ counterpart.inputs = node.inputs ∧
            counterpart.outputs = node.outputs := by
  have fresh : (Graph.blank "Sum" {}).FreshRun wiring := by decide +kernel
  have otherFresh : (Graph.blank "Detour" {}).FreshRun detour := by decide +kernel
  have keysPermuted : ((Graph.blank "Sum" {}).run wiring).value.1.nodes.keys.Perm
      ((Graph.blank "Detour" {}).run detour).value.1.nodes.keys := by
    decide +kernel
  have sameEnds : ((Graph.blank "Sum" {}).run wiring).value.1.links.toList.map Link.ends =
      ((Graph.blank "Detour" {}).run detour).value.1.links.toList.map Link.ends := by
    decide +kernel
  have alike : ((Graph.blank "Sum" {}).run wiring).value.1.Alike
      ((Graph.blank "Detour" {}).run detour).value.1 :=
    ⟨fun _ => keysPermuted.mem_iff, by decide +kernel, fun _ => by rw [sameEnds]⟩
  refine ⟨fresh, otherFresh, by decide +kernel, ?_⟩
  exact Graph.ports_eq_of_alike_runs "Sum" "Detour" {} {} wiring detour fresh otherFresh
    (by decide +kernel) alike (by decide +kernel)

end Sample

end DataflowTyping
