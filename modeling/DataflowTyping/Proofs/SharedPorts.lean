import DataflowTyping.Proofs.ArithmeticRun
import DataflowTyping.Proofs.Replacement

/-!
# Inputs are known by their ports

A link is stored with both nodes, but the links into an input are looked up by the
identifier of the port alone.  Hence a refresh takes an input to be wired just if
some link leads to a port with its identifier, whichever node the port is on, and
the first of these links gives the shape.  While no other node has such a port, these
are the links into the input itself.  A copy of a node under another identifier has
the ports of the original, and so it is fed by links into the original.
-/

namespace DataflowTyping

namespace Graph

variable {graph : Graph} {node : Node} {link : Link} {operand : Operand} {edits : List Edit}
  {into otherInto : Link → Prop} [DecidablePred into] [DecidablePred otherInto]

instance (graph : Graph) (target : Endpoint) : Decidable (graph.Linked target) :=
  inferInstanceAs (Decidable (∃ link ∈ graph.links.toList, link.target = target))

/-- No other node has a port with this identifier. -/
def Sole (graph : Graph) (endpoint : Endpoint) : Prop :=
  ∀ node ∈ graph.nodes.toList, endpoint.port ∈ node.ports.map Port.id → node.id = endpoint.node

instance (graph : Graph) (endpoint : Endpoint) : Decidable (graph.Sole endpoint) :=
  inferInstanceAs (Decidable (∀ node ∈ graph.nodes.toList, _ → _))

/-- An operand is wired if there are links of some sort, and the first of them gives its shape. -/
structure FedBy (graph : Graph) (into : Link → Prop) [DecidablePred into] (operand : Operand) :
    Prop where
  wired : operand.wired = true ↔ ∃ link ∈ graph.links.toList, into link
  shape : ∀ link, graph.links.toList.find? (fun link => into link) = some link →
    graph.offered? link.source = some operand.shape

theorem FedBy.congr (fed : graph.FedBy into operand)
    (same : ∀ link ∈ graph.links.toList, into link ↔ otherInto link) :
    graph.FedBy otherInto operand where
  wired := by
    rw [fed.wired]
    exact exists_congr fun link => and_congr_right fun member => same link member
  shape := by
    intro link found
    apply fed.shape link
    rw [← found]
    exact List.find?_congr fun link member => decide_eq_decide.mpr (same link member)

/-- What a refresh takes an input for. -/
def operandAt (graph : Graph) (port : Port) : Operand :=
  ⟨(graph.carried? port.id).getD port.shape, (graph.carried? port.id).isSome⟩

theorem operands_seen (graph : Graph) (node : Node) (locked : Bool) :
    (node.seen locked (graph.incoming node)).operands = node.inputs.map graph.operandAt := by
  simp only [Node.seen, Node.snapshot, Node.receive]
  rw [overlay_eq_zipWith _ (length_incoming graph node)]
  apply List.ext_getElem
  · simp
  · intro index _ _
    simp [incoming, operandAt, Port.withShape]

/-- After a refresh a wired input has the shape for which it was taken. -/
theorem shape_renewed {locked : Bool} (inference : node.inference = .arithmetic locked) :
    List.Forall₂ (fun operand port => operand.wired = true → port.shape = operand.shape)
      (node.inputs.map graph.operandAt) (graph.renewed node).inputs := by
  rw [inputs_renewed graph inference, List.forall₂_map_left_iff, List.forall₂_map_right_iff,
    List.forall₂_same]
  intro port isInput wired
  rw [Port.shape_informed]
  obtain ⟨shape, carried⟩ := Option.isSome_iff_exists.mp wired
  simp only [operandAt, carried, Option.getD_some]

theorem value_refresh_of_arithmetic (member : node ∈ graph.nodes.toList) {locked : Bool}
    (inference : node.inference = .arithmetic locked) :
    (graph.refresh node.id).value.2 = some (node.seen locked (graph.incoming node)).resolution := by
  rw [refresh, node?_of_mem member]
  simp only [inference]

theorem occupied_of_refusal? {port : PortId}
    (refused : graph.refusal? link = some (.occupied port)) :
    ∃ other ∈ graph.links.toList, other.target.port = link.target.port := by
  unfold refusal? at refused
  split at refused
  · simp at refused
  · simp at refused
  · split at refused
    · simp at refused
    · simp at refused
    · split_ifs at refused with misdirected misfits occupied
      all_goals simp only [Option.some.injEq, reduceCtorEq] at refused
      have found := (Bool.and_eq_true_iff.mp occupied).2
      simpa [producerOf?, List.find?_isSome] using found

section Joined

variable (joins : ∀ link ∈ graph.links.toList, ∃ producer consumer output input,
  graph.Joins link producer consumer output input)

include joins

theorem isSome_offered?_of_joins (member : link ∈ graph.links.toList) :
    (graph.offered? link.source).isSome = true := by
  obtain ⟨producer, _, output, _, joins⟩ := joins link member
  exact isSome_offered?.mpr ⟨producer, joins.producerId ▸ node?_of_mem joins.producerMember,
    joins.outputId ▸ List.mem_map_of_mem joins.outputMember⟩

theorem fedBy_operandAt (port : Port) :
    graph.FedBy (fun link => link.target.port = port.id) (graph.operandAt port) := by
  have carried := carried?_eq graph port.id
  cases found : graph.producerOf? port.id with
  | none =>
      rw [found, Option.bind_none] at carried
      have unfed : ∀ link ∈ graph.links.toList, link.target.port ≠ port.id := by
        simpa [producerOf?] using found
      refine ⟨?_, fun link first => ?_⟩
      · simpa [operandAt, carried] using unfed
      · exact absurd (found.symm.trans first) (Option.some_ne_none link).symm
  | some first =>
      -- The link that is found starts at a port that is there, so there is a shape to take over.
      have member : first ∈ graph.links.toList := List.mem_of_find?_eq_some found
      have samePort : first.target.port = port.id := by simpa using List.find?_some found
      obtain ⟨shape, offered⟩ :=
        Option.isSome_iff_exists.mp (isSome_offered?_of_joins joins member)
      rw [found, Option.bind_some, offered] at carried
      refine ⟨?_, fun link isFirst => ?_⟩
      · simpa [operandAt, carried] using ⟨first, member, samePort⟩
      · obtain rfl : first = link := Option.some.inj (found.symm.trans isFirst)
        simp only [operandAt, carried, offered, Option.getD_some]

theorem Sole.target_eq_iff {endpoint : Endpoint} (sole : graph.Sole endpoint)
    (member : link ∈ graph.links.toList) :
    link.target.port = endpoint.port ↔ link.target = endpoint := by
  refine ⟨fun samePort => ?_, congrArg Endpoint.port⟩
  obtain ⟨_, consumer, _, input, joins⟩ := joins link member
  have isPort : endpoint.port ∈ consumer.ports.map Port.id := by
    rw [← samePort, ← joins.inputId]
    exact List.mem_map_of_mem joins.inputMember
  have sameNode : link.target.node = endpoint.node :=
    joins.consumerId.symm.trans (sole consumer joins.consumerMember isPort)
  calc
    link.target = ⟨link.target.node, link.target.port⟩ := rfl
    _ = endpoint := by rw [sameNode, samePort]

end Joined

theorem Along.exists_joins (along : graph.Along (fun graph edit => edit.AddsNew graph) edits)
    (noLinks : graph.links.toList = []) :
    ∀ link ∈ (graph.run edits).value.1.links.toList, ∃ producer consumer output input,
      (graph.run edits).value.1.Joins link producer consumer output input := by
  refine along.induction (fun _ graph => ∀ link ∈ graph.links.toList,
    ∃ producer consumer output input, graph.Joins link producer consumer output input) ?_ [] ?_
  · exact fun _ _ _ joins addsNew => exists_joins_perform addsNew joins
  · rw [noLinks]
    exact fun link member => absurd member List.not_mem_nil

/--
Let nodes be added under identifiers that no other node has, with whatever ports.
Then a refresh of an arithmetic node takes an input to be wired exactly if there is a
link to a port with its identifier; the first such link gives the shape, which the
input then takes over.  A link is refused because its input is occupied only if there
is such a link.  Where no other node has a port with the identifier of the input, all
of this holds with the links into the very input.
-/
theorem fedBy_of_run (name : String) (settings : Settings) (edits : List Edit)
    (addsNew : (blank name settings).Along (fun graph edit => edit.AddsNew graph) edits) :
    let graph := ((blank name settings).run edits).value.1
    (∀ node ∈ graph.nodes.toList, ∀ locked, node.inference = .arithmetic locked →
      let seen := node.seen locked (graph.incoming node)
      (graph.refresh node.id).value.2 = some seen.resolution ∧
      List.Forall₂ (fun port operand =>
        graph.FedBy (fun link => link.target.port = port.id) operand ∧
          (graph.Sole ⟨node.id, port.id⟩ →
            graph.FedBy (fun link => link.target = ⟨node.id, port.id⟩) operand))
        node.inputs seen.operands ∧
      ∃ later, (graph.refresh node.id).value.1.node? node.id = some later ∧
        List.Forall₂ (fun operand port => operand.wired = true → port.shape = operand.shape)
          seen.operands later.inputs) ∧
    ∀ link port, (graph.perform (.connect link)).value.2 = .refused (.occupied port) →
      (∃ other ∈ graph.links.toList, other.target.port = link.target.port) ∧
        (graph.Sole link.target → graph.Linked link.target) := by
  intro graph
  have joins : ∀ link ∈ graph.links.toList, ∃ producer consumer output input,
      graph.Joins link producer consumer output input := addsNew.exists_joins rfl
  refine ⟨fun node member locked inference => ⟨?_, ?_, graph.renewed node, ?_, ?_⟩, ?_⟩
  · exact value_refresh_of_arithmetic member inference
  · rw [operands_seen, List.forall₂_map_right_iff, List.forall₂_same]
    intro port isInput
    have fed := fedBy_operandAt joins port
    refine ⟨fed, fun sole => fed.congr fun link isLink => ?_⟩
    exact sole.target_eq_iff joins isLink
  · have renewed := node?_renew graph node.id node.id
    rw [if_pos rfl, node?_of_mem member] at renewed
    exact renewed
  · rw [operands_seen]
    exact shape_renewed inference
  · intro link port refused
    obtain ⟨made, isMade, refusal⟩ := exists_connect_of_refused refused
    cases isMade
    obtain ⟨other, isOther, samePort⟩ := occupied_of_refusal? refusal
    exact ⟨⟨other, isOther, samePort⟩, fun sole =>
      ⟨other, isOther, (sole.target_eq_iff joins isOther).mp samePort⟩⟩

end Graph

namespace Sample

/-- A copy of the sum, with the ports of the sum. -/
def twin : Node :=
  { sum with id := ⟨.ofNat 14⟩ }

/-- Edits that wire a vector into a sum and into an absolute value, beside a copy of the sum. -/
def twinning : List Edit :=
  [ .add vector, .add sum, .add twin, .add absolute, .connect (wire 1),
    .connect ⟨⟨.ofNat 2⟩, ⟨⟨.ofNat 1⟩, ⟨.ofNat 10⟩⟩, ⟨⟨.ofNat 4⟩, ⟨.ofNat 50⟩⟩⟩ ]

def twinWire : Link :=
  { wire 3 with target := ⟨twin.id, ⟨.ofNat 20⟩⟩ }

/-- Without a link of its own the copy takes over the shape of the vector, and refuses a link. -/
theorem fed_twin_without_link :
    let graph := ((Graph.blank "Twins" {}).run twinning).value.1
    (Graph.blank "Twins" {}).Along (fun graph edit => edit.AddsNew graph) twinning ∧
      (∃ node ∈ graph.nodes.toList, node.id = twin.id ∧ node.inference = .arithmetic false ∧
        (node.seen false (graph.incoming node)).operands.head? = some (.carrying .vec3) ∧
        ¬ List.Forall₂ (fun port operand =>
            operand.wired = true ↔ graph.Linked ⟨node.id, port.id⟩)
          node.inputs (node.seen false (graph.incoming node)).operands) ∧
      (graph.perform (.connect twinWire)).value.2 = .refused (.occupied twinWire.target.port) ∧
      ¬ graph.Linked twinWire.target := by
  decide +kernel

/-- The copy is fed by links to ports like its own, and the absolute value by its own link. -/
theorem fedBy_twinning :
    let graph := ((Graph.blank "Twins" {}).run twinning).value.1
    let link : Link := { wire 4 with target := ⟨absolute.id, ⟨.ofNat 50⟩⟩ }
    (Graph.blank "Twins" {}).Along (fun graph edit => edit.AddsNew graph) twinning ∧
      (∃ node ∈ graph.nodes.toList, node.id = twin.id ∧ node.inference = .arithmetic false ∧
        List.Forall₂ (fun port operand =>
            graph.FedBy (fun link => link.target.port = port.id) operand)
          node.inputs (node.seen false (graph.incoming node)).operands) ∧
      (graph.perform (.connect link)).value.2 = .refused (.occupied link.target.port) ∧
      graph.Sole link.target ∧ graph.Linked link.target := by
  intro graph link
  have addsNew :
      (Graph.blank "Twins" {}).Along (fun graph edit => edit.AddsNew graph) twinning := by
    decide +kernel
  obtain ⟨inputs, occupied⟩ := Graph.fedBy_of_run "Twins" {} twinning addsNew
  have present : ∃ node ∈ graph.nodes.toList, node.id = twin.id ∧
      node.inference = .arithmetic false := by
    decide +kernel
  obtain ⟨node, member, isTwin, unlocked⟩ := present
  have refused : (graph.perform (.connect link)).value.2 =
      .refused (.occupied link.target.port) := by
    decide +kernel
  have sole : graph.Sole link.target := by decide +kernel
  refine ⟨addsNew, ⟨node, member, isTwin, unlocked, ?_⟩, refused, sole, ?_⟩
  · exact (inputs node member false unlocked).2.1.imp fun _ _ fed => fed.1
  · exact (occupied link link.target.port refused).2 sole

end Sample

end DataflowTyping
