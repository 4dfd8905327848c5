import DataflowTyping.Proofs.Acyclicity
import Mathlib.Data.List.Flatten

/-!
# Links and the ports at their ends

If the identifiers that edits bring along are not in use, then every link runs
from an output of a node to an input of another one, no two ports of the graph
have the same identifier, and an input that does not take many links has at most
one.  None of this concerns shapes or casts.
-/

namespace DataflowTyping

namespace Node

/-- Inputs are inputs and outputs are outputs. -/
structure Directed (node : Node) : Prop where
  inputs : ∀ port ∈ node.inputs, port.direction = .input
  outputs : ∀ port ∈ node.outputs, port.direction = .output

instance (node : Node) : Decidable node.Directed :=
  decidable_of_iff ((∀ port ∈ node.inputs, port.direction = .input) ∧
    ∀ port ∈ node.outputs, port.direction = .output)
    ⟨fun ⟨inputs, outputs⟩ => ⟨inputs, outputs⟩, fun ⟨inputs, outputs⟩ => ⟨inputs, outputs⟩⟩

variable {node first second : Node} {wanted : PortId} {port : Port}

theorem exists_input (sameBlank : first.blank = second.blank) (member : port ∈ first.inputs) :
    ∃ counterpart ∈ second.inputs, counterpart.blank = port.blank := by
  have sameInputs : first.inputs.map Port.blank = second.inputs.map Port.blank :=
    congrArg Node.inputs sameBlank
  exact List.mem_map.mp (sameInputs ▸ List.mem_map_of_mem member)

theorem Directed.of_blank_eq (directed : first.Directed) (sameBlank : first.blank = second.blank) :
    second.Directed := by
  have same := map_ports_congr Port.direction sameBlank fun _ => rfl
  have inputs : ∀ direction ∈ first.inputs.map Port.direction, direction = .input := by
    simpa using directed.inputs
  have outputs : ∀ direction ∈ first.outputs.map Port.direction, direction = .output := by
    simpa using directed.outputs
  rw [same.1] at inputs
  rw [same.2] at outputs
  exact ⟨by simpa using inputs, by simpa using outputs⟩

theorem Directed.mem_outputs (directed : node.Directed) (found : node.port? wanted = some port)
    (leaves : port.direction = .output) : port ∈ node.outputs := by
  obtain ⟨member, -⟩ := of_port?_eq_some found
  rcases List.mem_append.mp member with isInput | isOutput
  · rw [directed.inputs port isInput] at leaves
    contradiction
  · exact isOutput

theorem Directed.mem_inputs (directed : node.Directed) (found : node.port? wanted = some port)
    (enters : port.direction = .input) : port ∈ node.inputs := by
  obtain ⟨member, -⟩ := of_port?_eq_some found
  rcases List.mem_append.mp member with isInput | isOutput
  · exact isInput
  · rw [directed.outputs port isOutput] at enters
    contradiction

end Node

/-- If the edit adds a node, then one of which this holds. -/
def Edit.Adds (holds : Node → Prop) : Edit → Prop
  | .add node => holds node
  | .remove _ | .connect _ | .disconnect _ | .refresh _ | .refreshAll | .propagate _ => True

instance (holds : Node → Prop) [DecidablePred holds] (edit : Edit) : Decidable (edit.Adds holds) :=
  match edit with
  | .add node => inferInstanceAs (Decidable (holds node))
  | .remove _ | .connect _ | .disconnect _ | .refresh _ | .refreshAll | .propagate _ =>
      inferInstanceAs (Decidable True)

theorem Edit.Adds.mono {holds weaker : Node → Prop} {edit : Edit} (adds : edit.Adds holds)
    (weaken : ∀ node, holds node → weaker node) : edit.Adds weaker := by
  cases edit with
  | add node => exact weaken node adds
  | remove | connect | disconnect | refresh | refreshAll | propagate => trivial

/-- The identifier under which an edit adds a node is not that of another node. -/
def Edit.AddsNew (graph : Graph) (edit : Edit) : Prop :=
  edit.Adds fun node => node.id ∉ graph.nodes.keys

instance (graph : Graph) (edit : Edit) : Decidable (edit.AddsNew graph) :=
  inferInstanceAs (Decidable (edit.Adds _))

/-- The identifiers that an edit brings along are not in use. -/
def Edit.Novel (graph : Graph) : Edit → Prop
  | .add node => node.id ∉ graph.nodes.keys ∧ (node.ports.map Port.id ++ graph.portIds).Nodup
  | .connect link => link.id ∉ graph.links.keys
  | .remove _ | .disconnect _ | .refresh _ | .refreshAll | .propagate _ => True

instance (graph : Graph) (edit : Edit) : Decidable (edit.Novel graph) :=
  match edit with
  | .add _ => inferInstanceAs (Decidable (_ ∧ _))
  | .connect _ => inferInstanceAs (Decidable (¬ _))
  | .remove _ | .disconnect _ | .refresh _ | .refreshAll | .propagate _ =>
      inferInstanceAs (Decidable True)

/--
The identifiers that an edit brings along are not in use, as if they had just
been drawn, and a node has its inputs and outputs in their places.
-/
structure Edit.Fresh (graph : Graph) (edit : Edit) : Prop where
  novel : edit.Novel graph
  directed : edit.Adds Node.Directed

instance (graph : Graph) (edit : Edit) : Decidable (edit.Fresh graph) :=
  decidable_of_iff (edit.Novel graph ∧ edit.Adds Node.Directed)
    ⟨fun ⟨novel, directed⟩ => ⟨novel, directed⟩, fun ⟨novel, directed⟩ => ⟨novel, directed⟩⟩

theorem Edit.Novel.addsNew {graph : Graph} {edit : Edit} (novel : edit.Novel graph) :
    edit.AddsNew graph := by
  cases edit with
  | add node => exact novel.1
  | remove | connect | disconnect | refresh | refreshAll | propagate => trivial

namespace Graph

variable {graph first second : Graph} {id : NodeId} {node : Node}

/-- Links run from outputs to inputs, without circles and without sharing more than is allowed. -/
structure Wired (graph : Graph) : Prop where
  acyclic : graph.Acyclic
  directed : ∀ node ∈ graph.nodes.toList, node.Directed
  distinct : graph.portIds.Nodup
  source : ∀ link ∈ graph.links.toList, ∃ producer, graph.node? link.source.node = some producer ∧
    link.source.port ∈ producer.outputs.map Port.id
  target : ∀ link ∈ graph.links.toList, ∃ consumer, graph.node? link.target.node = some consumer ∧
    link.target.port ∈ consumer.inputs.map Port.id
  single : ∀ node ∈ graph.nodes.toList, ∀ port ∈ node.inputs, port.manyLinks = false →
    ∀ link ∈ graph.links.toList, ∀ other ∈ graph.links.toList,
      link.target = ⟨node.id, port.id⟩ → other.target = ⟨node.id, port.id⟩ → link = other

namespace Wired

theorem plugged (wired : graph.Wired) : graph.Plugged where
  source := by
    intro link member
    obtain ⟨producer, found, isOutput⟩ := wired.source link member
    exact ⟨producer, found, List.map_subset _ (List.subset_append_right _ _) isOutput⟩
  target := by
    intro link member
    obtain ⟨consumer, found, isInput⟩ := wired.target link member
    exact ⟨consumer, found, List.map_subset _ (List.subset_append_left _ _) isInput⟩
  distinct := wired.distinct

theorem layered (wired : graph.Wired) : graph.Layered :=
  ⟨wired.plugged.joined, wired.acyclic⟩

end Wired

theorem wired_blank (name : String) (settings : Settings) : (blank name settings).Wired where
  acyclic := (layered_blank name settings).acyclic
  directed := fun _ member => absurd member List.not_mem_nil
  distinct := List.nodup_nil
  source := fun _ member => absurd member List.not_mem_nil
  target := fun _ member => absurd member List.not_mem_nil
  single := fun _ member => absurd member List.not_mem_nil

/-- How links are made does not concern shapes and casts. -/
theorem SameFrame.wired (frame : first.SameFrame second) (wired : first.Wired) : second.Wired := by
  constructor
  case acyclic => exact frame.acyclic wired.acyclic
  case directed =>
    intro node member
    obtain ⟨counterpart, counterpartMember, sameBlank⟩ := frame.symm.exists_node member
    exact (wired.directed counterpart counterpartMember).of_blank_eq sameBlank
  case distinct => exact frame.portIds ▸ wired.distinct
  case source =>
    intro link member
    obtain ⟨producer, found, isOutput⟩ := wired.source link (frame.links ▸ member)
    obtain ⟨counterpart, counterpartFound, sameBlank⟩ := frame.exists_node? found
    have samePorts := Node.map_ports_congr Port.id sameBlank fun _ => rfl
    exact ⟨counterpart, counterpartFound, samePorts.2 ▸ isOutput⟩
  case target =>
    intro link member
    obtain ⟨consumer, found, isInput⟩ := wired.target link (frame.links ▸ member)
    obtain ⟨counterpart, counterpartFound, sameBlank⟩ := frame.exists_node? found
    have samePorts := Node.map_ports_congr Port.id sameBlank fun _ => rfl
    exact ⟨counterpart, counterpartFound, samePorts.1 ▸ isInput⟩
  case single =>
    intro node member port isInput one
    obtain ⟨counterpart, counterpartMember, sameBlank⟩ := frame.symm.exists_node member
    obtain ⟨input, inputMember, sameInput⟩ := Node.exists_input sameBlank.symm isInput
    have sameId : input.id = port.id := Port.view_congr Port.id sameInput fun _ => rfl
    have stillOne : input.manyLinks = false := by
      rw [Port.view_congr Port.manyLinks sameInput fun _ => rfl, one]
    rw [← frame.links, ← Node.id_eq_of_blank_eq sameBlank, ← sameId]
    exact wired.single counterpart counterpartMember input inputMember stillOne

theorem port_eq_of_id {port other : Port} (distinct : graph.portIds.Nodup)
    (member : node ∈ graph.nodes.toList) (isPort : port ∈ node.ports) (isOther : other ∈ node.ports)
    (sameId : port.id = other.id) : port = other := by
  have ownDistinct : (node.ports.map Port.id).Nodup :=
    (List.nodup_flatMap.mp distinct).1 node member
  exact List.inj_on_of_nodup_map ownDistinct isPort isOther sameId

theorem port?_of_mem {port : Port} (distinct : graph.portIds.Nodup)
    (member : node ∈ graph.nodes.toList) (isPort : port ∈ node.ports) :
    node.port? port.id = some port := by
  cases found : node.port? port.id with
  | none =>
      have absent := List.find?_eq_none.mp found port isPort
      exact absurd (decide_eq_true rfl) absent
  | some other =>
      obtain ⟨isOther, sameId⟩ := Node.of_port?_eq_some found
      rw [port_eq_of_id distinct member isOther isPort sameId]

namespace Wired

/-- A new node without links does no harm. -/
theorem add (wired : graph.Wired) (fresh : (Edit.add node).Fresh graph) :
    (graph.altered (.add node)).Wired := by
  obtain ⟨⟨unused, distinct⟩, directed⟩ := fresh
  have appended : (graph.altered (.add node)).nodes.toList = graph.nodes.toList ++ [node] :=
    Keyed.toList_insert_of_not_mem unused
  -- Old identifiers lead to the same nodes as before.
  have kept {id : NodeId} {old : Node} (found : graph.node? id = some old) :
      (graph.altered (.add node)).node? id = some old := by
    have isOld : id ≠ node.id := by
      rintro rfl
      exact unused (Keyed.mem_keys_iff_find?.mpr ⟨old, found⟩)
    rw [node?, altered, Keyed.find?_insert, if_neg isOld]
    exact found
  constructor
  case acyclic => exact (wired.layered.altered (.add node)).acyclic
  case directed =>
    rw [appended]
    intro other member
    rcases List.mem_append.mp member with old | new
    · exact wired.directed other old
    · exact List.mem_singleton.mp new ▸ directed
  case distinct =>
    rw [portIds, appended, List.flatMap_append, List.flatMap_singleton]
    exact List.nodup_append_comm.mp distinct
  case source =>
    intro link member
    obtain ⟨producer, found, isOutput⟩ := wired.source link member
    exact ⟨producer, kept found, isOutput⟩
  case target =>
    intro link member
    obtain ⟨consumer, found, isInput⟩ := wired.target link member
    exact ⟨consumer, kept found, isInput⟩
  case single =>
    rw [appended]
    intro other member port isInput one link linkMember
    rcases List.mem_append.mp member with old | new
    · exact wired.single other old port isInput one link linkMember
    · intro _ _ target
      refine absurd ((wired.layered.joined link linkMember).2) ?_
      rw [target, List.mem_singleton.mp new]
      exact unused

theorem of_links_sublist (wired : graph.Wired) (links : Keyed Link.id)
    (sublist : links.toList.Sublist graph.links.toList) : Wired { graph with links := links } where
  acyclic := wired.acyclic.of_subset sublist.subset
  directed := wired.directed
  distinct := wired.distinct
  source := fun link member => wired.source link (sublist.subset member)
  target := fun link member => wired.target link (sublist.subset member)
  single := fun node member port isInput one link linkMember other otherMember =>
    wired.single node member port isInput one link (sublist.subset linkMember) other
      (sublist.subset otherMember)

theorem erase (wired : graph.Wired)
    (unlinked : ∀ link ∈ graph.links.toList, link.source.node ≠ id ∧ link.target.node ≠ id) :
    Wired { graph with nodes := graph.nodes.erase id } := by
  have kept {other : NodeId} (differ : other ≠ id) :
      Graph.node? { graph with nodes := graph.nodes.erase id } other = graph.node? other := by
    rw [node?, Keyed.find?_erase, if_neg differ]
    rfl
  constructor
  case acyclic => exact wired.acyclic
  case directed => exact fun node member => wired.directed node (List.mem_of_mem_filter member)
  case distinct =>
    exact wired.distinct.sublist (List.filter_sublist.flatMap _)
  case source =>
    intro link member
    rw [kept (unlinked link member).1]
    exact wired.source link member
  case target =>
    intro link member
    rw [kept (unlinked link member).2]
    exact wired.target link member
  case single => exact fun node member => wired.single node (List.mem_of_mem_filter member)

theorem output_mem (wired : graph.Wired) {link : Link} {producer consumer : Node}
    {output input : Port} (admits : graph.Admits link producer consumer output input) :
    output ∈ producer.outputs ∧ output.id = link.source.port :=
  ⟨(wired.directed producer (mem_of_node? admits.producerFound)).mem_outputs admits.outputFound
    admits.leaves, (Node.of_port?_eq_some admits.outputFound).2⟩

theorem input_mem (wired : graph.Wired) {link : Link} {producer consumer : Node}
    {output input : Port} (admits : graph.Admits link producer consumer output input) :
    input ∈ consumer.inputs ∧ input.id = link.target.port :=
  ⟨(wired.directed consumer (mem_of_node? admits.consumerFound)).mem_inputs admits.inputFound
    admits.enters, (Node.of_port?_eq_some admits.inputFound).2⟩

/-- An input that takes one link has none when a link into it is admitted. -/
theorem target_ne (wired : graph.Wired) {link : Link} {producer consumer : Node}
    {output input : Port} (admits : graph.Admits link producer consumer output input)
    (member : node ∈ graph.nodes.toList) {port : Port} (isInput : port ∈ node.inputs)
    (one : port.manyLinks = false) (target : link.target = ⟨node.id, port.id⟩) {old : Link}
    (oldMember : old ∈ graph.links.toList) : old.target ≠ ⟨node.id, port.id⟩ := by
  intro oldTarget
  obtain ⟨inputMember, inputId⟩ := wired.input_mem admits
  have isConsumer : node = consumer := by
    have found := admits.consumerFound
    rw [target, node?_of_mem member] at found
    exact Option.some.inj found
  subst isConsumer
  have samePort : port = input :=
    port_eq_of_id wired.distinct member (List.mem_append_left _ isInput)
      (List.mem_append_left _ inputMember) (by rw [inputId, target])
  rcases admits.vacant with many | unoccupied
  · rw [← samePort, one] at many
    contradiction
  · have notInto := List.find?_eq_none.mp unoccupied old oldMember
    rw [oldTarget, target] at notInto
    exact notInto (decide_eq_true rfl)

/-- A link that is not refused does no harm. -/
theorem connect (wired : graph.Wired) {link : Link} {producer consumer : Node}
    {output input : Port}
    (admits : graph.Admits link producer consumer output input) :
    Wired { graph with links := graph.links.insert link } := by
  obtain ⟨isOutput, outputId⟩ := wired.output_mem admits
  obtain ⟨isInput, inputId⟩ := wired.input_mem admits
  constructor
  case acyclic => exact wired.acyclic.insert admits.noCircle
  case directed => exact wired.directed
  case distinct => exact wired.distinct
  case source =>
    intro other member
    rcases Keyed.mem_toList_insert.mp member with rfl | ⟨old, -⟩
    · exact ⟨producer, admits.producerFound, outputId ▸ List.mem_map_of_mem isOutput⟩
    · exact wired.source other old
  case target =>
    intro other member
    rcases Keyed.mem_toList_insert.mp member with rfl | ⟨old, -⟩
    · exact ⟨consumer, admits.consumerFound, inputId ▸ List.mem_map_of_mem isInput⟩
    · exact wired.target other old
  case single =>
    intro node member port portMember one first firstMember second secondMember firstTarget
      secondTarget
    rcases Keyed.mem_toList_insert.mp firstMember with rfl | ⟨firstOld, -⟩ <;>
      rcases Keyed.mem_toList_insert.mp secondMember with rfl | ⟨secondOld, -⟩
    · rfl
    · exact absurd secondTarget
        (wired.target_ne admits member portMember one firstTarget secondOld)
    · exact absurd firstTarget
        (wired.target_ne admits member portMember one secondTarget firstOld)
    · exact wired.single node member port portMember one first firstOld second secondOld
        firstTarget secondTarget

theorem altered (wired : graph.Wired) {edit : Edit} (fresh : edit.Fresh graph) :
    (graph.altered edit).Wired := by
  cases edit with
  | add node => exact wired.add fresh
  | remove id =>
      have unlinked := wired.of_links_sublist (graph.links.filter fun link => !link.involves id)
        List.filter_sublist
      refine unlinked.erase fun link member => ?_
      simpa [Link.involves] using (List.mem_filter.mp member).2
  | connect link =>
      rw [Graph.altered]
      split_ifs with accepted
      · obtain ⟨producer, consumer, output, input, admits⟩ := refusal?_eq_none_iff.mp accepted
        exact wired.connect admits
      · exact wired
  | disconnect id => exact wired.of_links_sublist (graph.links.erase id) List.filter_sublist
  | refresh id => exact wired
  | refreshAll => exact wired
  | propagate start => exact wired

theorem perform (wired : graph.Wired) {edit : Edit} (fresh : edit.Fresh graph) :
    (graph.perform edit).value.1.Wired :=
  (sameFrame_perform graph edit).symm.wired (wired.altered fresh)

end Wired

end Graph

end DataflowTyping
