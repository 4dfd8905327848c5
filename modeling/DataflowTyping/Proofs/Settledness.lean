import DataflowTyping.Graph.Refresh
import DataflowTyping.Proofs.Collection
import DataflowTyping.Proofs.NodeDeclaration
import DataflowTyping.Proofs.Ordering
import Mathlib.Data.List.Find
import Mathlib.Data.List.Pairwise

/-!
# Settled nodes

A node is settled while a refresh of it leaves the graph as it is.  Refreshes
keep the `SameFrame`: the links, and of the nodes all but the shapes and casts
of their ports.  Whether a node is settled depends only on the node itself and
on those that feed it, provided that the links are `Plugged` into ports that no
other node has.  In such a graph without circles a refresh settles a node, and
leaves settled whatever the node does not feed.
-/

namespace DataflowTyping

/-- The identifier of a node and those of its ports. -/
def Node.sockets (node : Node) : NodeId × List PortId :=
  (node.id, node.ports.map Port.id)

namespace Graph

variable {graph first second third : Graph} {node : Node} {id other : NodeId}

theorem mem_of_node? (found : graph.node? id = some node) : node ∈ graph.nodes.toList :=
  Keyed.mem_of_find? found

theorem id_of_node? (found : graph.node? id = some node) : node.id = id :=
  Keyed.key_of_find? found

theorem node?_of_mem (member : node ∈ graph.nodes.toList) : graph.node? node.id = some node :=
  Keyed.find?_eq_some_of_mem member

/-- The same graph up to the shapes and casts of ports. -/
structure SameFrame (first second : Graph) : Prop where
  name : first.name = second.name
  settings : first.settings = second.settings
  links : first.links = second.links
  blanks : first.nodes.toList.map Node.blank = second.nodes.toList.map Node.blank

namespace SameFrame

theorem refl (graph : Graph) : graph.SameFrame graph :=
  ⟨rfl, rfl, rfl, rfl⟩

theorem symm (frame : first.SameFrame second) : second.SameFrame first :=
  ⟨frame.name.symm, frame.settings.symm, frame.links.symm, frame.blanks.symm⟩

theorem trans (frame : first.SameFrame second) (further : second.SameFrame third) :
    first.SameFrame third :=
  ⟨frame.name.trans further.name, frame.settings.trans further.settings,
    frame.links.trans further.links, frame.blanks.trans further.blanks⟩

theorem keys (frame : first.SameFrame second) : first.nodes.keys = second.nodes.keys := by
  have throughBlank (graph : Graph) :
      graph.nodes.keys = (graph.nodes.toList.map Node.blank).map Node.id := by
    rw [List.map_map]
    rfl
  rw [throughBlank first, throughBlank second, frame.blanks]

theorem exists_node (frame : first.SameFrame second) (member : node ∈ first.nodes.toList) :
    ∃ counterpart ∈ second.nodes.toList, counterpart.blank = node.blank := by
  have isBlank : node.blank ∈ second.nodes.toList.map Node.blank :=
    frame.blanks ▸ List.mem_map_of_mem member
  exact List.mem_map.mp isBlank

theorem exists_node? (frame : first.SameFrame second) (found : first.node? id = some node) :
    ∃ counterpart, second.node? id = some counterpart ∧ counterpart.blank = node.blank := by
  obtain ⟨counterpart, member, sameBlank⟩ := frame.exists_node (mem_of_node? found)
  have sameId : counterpart.id = id := calc
    counterpart.id = node.id := Node.id_eq_of_blank_eq sameBlank
    _ = id := id_of_node? found
  exact ⟨counterpart, sameId ▸ node?_of_mem member, sameBlank⟩

theorem feeds (frame : first.SameFrame second) : first.Feeds = second.Feeds := by
  funext producer consumer
  rw [Feeds, Feeds, frame.links]

theorem acyclic (frame : first.SameFrame second) (acyclic : first.Acyclic) : second.Acyclic := by
  rw [Acyclic, ← frame.feeds]
  exact acyclic

theorem joined (frame : first.SameFrame second) (joined : first.Joined) : second.Joined := by
  rw [Joined, ← frame.links, ← frame.keys]
  exact joined

theorem orders (frame : first.SameFrame second) {order : List NodeId}
    (orders : first.Orders order) : second.Orders order := by
  have sameProducers : first.producersOf = second.producersOf := by
    funext consumer
    rw [producersOf, producersOf, frame.links]
  exact ⟨sameProducers ▸ orders.sorted, frame.keys ▸ orders.mem_iff⟩

end SameFrame

def portIds (graph : Graph) : List PortId :=
  graph.nodes.toList.flatMap fun node => node.ports.map Port.id

/-- Every link runs between ports of nodes, and no two ports have the same identifier. -/
structure Plugged (graph : Graph) : Prop where
  source : ∀ link ∈ graph.links.toList, ∃ producer, graph.node? link.source.node = some producer ∧
    link.source.port ∈ producer.ports.map Port.id
  target : ∀ link ∈ graph.links.toList, ∃ consumer, graph.node? link.target.node = some consumer ∧
    link.target.port ∈ consumer.ports.map Port.id
  distinct : graph.portIds.Nodup

/-- Graphs with the same links, and with nodes of which just the identifiers are the same. -/
structure SameSockets (first second : Graph) : Prop where
  links : first.links = second.links
  sockets : first.nodes.toList.map Node.sockets = second.nodes.toList.map Node.sockets

namespace SameSockets

theorem symm (same : first.SameSockets second) : second.SameSockets first :=
  ⟨same.links.symm, same.sockets.symm⟩

theorem trans (same : first.SameSockets second) (further : second.SameSockets third) :
    first.SameSockets third :=
  ⟨same.links.trans further.links, same.sockets.trans further.sockets⟩

theorem portIds (same : first.SameSockets second) : first.portIds = second.portIds := by
  have throughSockets (graph : Graph) :
      graph.portIds = (graph.nodes.toList.map Node.sockets).flatMap Prod.snd := by
    rw [List.flatMap_map]
    rfl
  rw [throughSockets first, throughSockets second, same.sockets]

theorem exists_node? (same : first.SameSockets second) (found : first.node? id = some node) :
    ∃ counterpart, second.node? id = some counterpart ∧
      counterpart.ports.map Port.id = node.ports.map Port.id := by
  have isSocket : Node.sockets node ∈ second.nodes.toList.map Node.sockets :=
    same.sockets ▸ List.mem_map_of_mem (mem_of_node? found)
  obtain ⟨counterpart, member, sameSockets⟩ := List.mem_map.mp isSocket
  have sameId : counterpart.id = id :=
    (congrArg Prod.fst sameSockets).trans (id_of_node? found)
  exact ⟨counterpart, sameId ▸ node?_of_mem member, congrArg Prod.snd sameSockets⟩

theorem plugged (same : first.SameSockets second) (plugged : first.Plugged) : second.Plugged := by
  have transfer {id : NodeId} {port : PortId} : (∃ node, first.node? id = some node ∧
      port ∈ node.ports.map Port.id) → ∃ node, second.node? id = some node ∧
        port ∈ node.ports.map Port.id := by
    rintro ⟨node, found, isPort⟩
    obtain ⟨counterpart, counterpartFound, samePorts⟩ := same.exists_node? found
    exact ⟨counterpart, counterpartFound, samePorts ▸ isPort⟩
  constructor
  · rw [← same.links]
    exact fun link member => transfer (plugged.source link member)
  · rw [← same.links]
    exact fun link member => transfer (plugged.target link member)
  · rw [← same.portIds]
    exact plugged.distinct

end SameSockets

theorem SameFrame.sameSockets (frame : first.SameFrame second) : first.SameSockets second := by
  refine ⟨frame.links, ?_⟩
  have throughBlank (graph : Graph) :
      graph.nodes.toList.map Node.sockets =
        (graph.nodes.toList.map Node.blank).map Node.sockets := by
    rw [List.map_map]
    apply List.map_congr_left
    intro node _
    simp only [Function.comp_apply, Node.sockets, Node.ports, Node.blank, ← List.map_append,
      List.map_map]
    rfl
  rw [throughBlank first, throughBlank second, frame.blanks]

theorem SameFrame.portIds (frame : first.SameFrame second) : first.portIds = second.portIds :=
  frame.sameSockets.portIds

theorem node_eq_of_port {port : PortId} {owner : Node} (distinct : graph.portIds.Nodup)
    (nodeMember : node ∈ graph.nodes.toList) (ownerMember : owner ∈ graph.nodes.toList)
    (nodePort : port ∈ node.ports.map Port.id) (ownerPort : port ∈ owner.ports.map Port.id) :
    node = owner := by
  by_contra differ
  have symmetric : Std.Symm
      (Function.onFun List.Disjoint fun node : Node => node.ports.map Port.id) :=
    ⟨fun _ _ apart _ right left => apart left right⟩
  have apart := (List.nodup_flatMap.mp distinct).2.forall nodeMember ownerMember differ
  exact apart nodePort ownerPort

def linksInto (graph : Graph) (id : NodeId) : List Link :=
  graph.links.toList.filter fun link => link.target.node = id

theorem find?_linksInto (graph : Graph) (target : Endpoint) :
    (graph.linksInto target.node).find? (fun link => link.target = target) =
      graph.links.toList.find? fun link => link.target = target := by
  rw [linksInto, List.find?_filter]
  apply List.find?_congr
  intro link _
  by_cases sameTarget : link.target = target
  · simp [sameTarget]
  · simp [sameTarget]

theorem SameFrame.linksInto (frame : first.SameFrame second) :
    first.linksInto = second.linksInto := by
  funext id
  rw [Graph.linksInto, Graph.linksInto, frame.links]

namespace Plugged

theorem joined (plugged : graph.Plugged) : graph.Joined := by
  intro link member
  obtain ⟨producer, producerFound, -⟩ := plugged.source link member
  obtain ⟨consumer, consumerFound, -⟩ := plugged.target link member
  exact ⟨Keyed.mem_keys_iff_find?.mpr ⟨producer, producerFound⟩,
    Keyed.mem_keys_iff_find?.mpr ⟨consumer, consumerFound⟩⟩

theorem target_eq_of_mem_ports (plugged : graph.Plugged) (member : node ∈ graph.nodes.toList)
    {port : Port} (isPort : port ∈ node.ports) {link : Link}
    (linkMember : link ∈ graph.links.toList) (samePort : link.target.port = port.id) :
    link.target = ⟨node.id, port.id⟩ := by
  obtain ⟨consumer, consumerFound, consumerPort⟩ := plugged.target link linkMember
  have isConsumer : node = consumer :=
    node_eq_of_port plugged.distinct member (mem_of_node? consumerFound)
      (List.mem_map_of_mem isPort) (samePort ▸ consumerPort)
  have sameNode : link.target.node = node.id := by
    rw [isConsumer, id_of_node? consumerFound]
  rw [← sameNode, ← samePort]

theorem target_eq (plugged : graph.Plugged) (member : node ∈ graph.nodes.toList) {port : Port}
    (isInput : port ∈ node.inputs) {link : Link} (linkMember : link ∈ graph.links.toList)
    (samePort : link.target.port = port.id) : link.target = ⟨node.id, port.id⟩ :=
  plugged.target_eq_of_mem_ports member (List.mem_append_left _ isInput) linkMember samePort

/-- Looking for an input by its identifier alone finds the first link into it. -/
theorem producerOf?_eq (plugged : graph.Plugged) (member : node ∈ graph.nodes.toList) {port : Port}
    (isInput : port ∈ node.inputs) :
    graph.producerOf? port.id =
      graph.links.toList.find? fun link => link.target = ⟨node.id, port.id⟩ := by
  apply List.find?_congr
  intro link linkMember
  rw [decide_eq_decide]
  exact ⟨plugged.target_eq member isInput linkMember, congrArg Endpoint.port⟩

end Plugged

@[simp]
theorem length_incoming (graph : Graph) (node : Node) :
    (graph.incoming node).length = node.inputs.length :=
  List.length_map _

theorem incoming_eq_map_id (graph : Graph) (node : Node) :
    graph.incoming node = (node.inputs.map Port.id).map graph.carried? := by
  rw [List.map_map]
  rfl

theorem incoming_eq_of_blank_eq {counterpart : Node} (sameBlank : node.blank = counterpart.blank) :
    graph.incoming node = graph.incoming counterpart := by
  rw [incoming_eq_map_id, incoming_eq_map_id,
    (Node.map_ports_congr Port.id sameBlank fun _ => rfl).1]

/-- A node as a refresh in this graph leaves it. -/
def renewed (graph : Graph) (node : Node) : Node :=
  match node.inference with
  | .fixed => node
  | .arithmetic locked => node.refreshed locked (graph.incoming node)

theorem renewed_of_arithmetic {locked : Bool} (arithmetic : node.inference = .arithmetic locked) :
    graph.renewed node = node.refreshed locked (graph.incoming node) := by
  rw [renewed, arithmetic]

@[simp]
theorem blank_renewed (graph : Graph) (node : Node) : (graph.renewed node).blank = node.blank := by
  unfold renewed
  split
  · rfl
  · exact Node.blank_refreshed (length_incoming graph node)

@[simp]
theorem id_renewed (graph : Graph) (node : Node) : (graph.renewed node).id = node.id :=
  Node.id_eq_of_blank_eq (blank_renewed graph node)

theorem renewed_congr (sameIncoming : first.incoming node = second.incoming node) :
    first.renewed node = second.renewed node := by
  rw [renewed, renewed, sameIncoming]

@[simp]
theorem renewed_renewed (graph : Graph) (node : Node) :
    graph.renewed (graph.renewed node) = graph.renewed node := by
  have sameIncoming : graph.incoming (graph.renewed node) = graph.incoming node :=
    incoming_eq_of_blank_eq (blank_renewed graph node)
  cases inference : node.inference with
  | fixed =>
      have unchanged : graph.renewed node = node := by rw [renewed, inference]
      rw [unchanged, unchanged]
  | arithmetic locked =>
      have stillArithmetic : (graph.renewed node).inference = .arithmetic locked :=
        (Node.inference_eq_of_blank_eq (blank_renewed graph node)).trans inference
      rw [renewed_of_arithmetic stillArithmetic, sameIncoming, renewed_of_arithmetic inference]
      exact Node.refreshed_refreshed (length_incoming graph node)

def renew (graph : Graph) (id : NodeId) : Graph :=
  (graph.refresh id).value.1

theorem renew_of_none (absent : graph.node? id = none) : graph.renew id = graph := by
  rw [renew, refresh, absent]
  rfl

theorem renew_of_some (found : graph.node? id = some node) :
    graph.renew id = { graph with nodes := graph.nodes.insert (graph.renewed node) } := by
  rw [renew, refresh, found]
  cases inference : node.inference with
  | fixed =>
      have unchanged : graph.renewed node = node := by rw [renewed, inference]
      have inPlace : graph.nodes.insert node = graph.nodes :=
        Keyed.insert_of_find? (id_of_node? found ▸ found)
      simp only [inference, Traced.value_pure, unchanged, inPlace]
  | arithmetic locked => simp only [inference, renewed]

theorem node?_renew (graph : Graph) (id other : NodeId) :
    (graph.renew id).node? other =
      if other = id then (graph.node? id).map graph.renewed else graph.node? other := by
  cases found : graph.node? id with
  | none =>
      rw [renew_of_none found]
      by_cases isId : other = id
      · rw [if_pos isId, isId, found]
        rfl
      · rw [if_neg isId]
  | some node =>
      rw [renew_of_some found, node?, Keyed.find?_insert, id_renewed, id_of_node? found]
      rfl

theorem sameFrame_renew (graph : Graph) (id : NodeId) : (graph.renew id).SameFrame graph := by
  cases found : graph.node? id with
  | none =>
      rw [renew_of_none found]
      exact .refl graph
  | some node =>
      rw [renew_of_some found]
      refine ⟨rfl, rfl, rfl, Keyed.map_toList_insert Node.blank ?_ (blank_renewed graph node)⟩
      rw [id_renewed, id_of_node? found]
      exact found

/-- A refresh of the node leaves the graph as it is. -/
def SettledAt (graph : Graph) (id : NodeId) : Prop :=
  graph.renew id = graph

theorem settledAt_iff :
    graph.SettledAt id ↔ ∀ node, graph.node? id = some node → graph.renewed node = node := by
  constructor
  · intro settled node found
    have renewed := node?_renew graph id id
    rw [settled, if_pos rfl, found] at renewed
    exact (Option.some.inj renewed).symm
  · intro unchanged
    cases found : graph.node? id with
    | none => exact renew_of_none found
    | some node =>
        have inPlace : graph.nodes.insert node = graph.nodes :=
          Keyed.insert_of_find? (id_of_node? found ▸ found)
        rw [SettledAt, renew_of_some found, unchanged node found, inPlace]

/-- A node that an order of all nodes does not list is not there, and so it is settled. -/
theorem Orders.settledAt_of_not_mem {order : List NodeId} (orders : graph.Orders order)
    (unlisted : id ∉ order) : graph.SettledAt id := by
  apply renew_of_none
  rw [node?, Keyed.find?_eq_none_iff, ← orders.mem_iff]
  exact unlisted

theorem inputs_renewed (graph : Graph) {locked : Bool}
    (inference : node.inference = .arithmetic locked) :
    (graph.renewed node).inputs = node.inputs.map fun port =>
      port.informed (.told locked (graph.incoming node)) (graph.carried? port.id) := by
  rw [renewed_of_arithmetic inference, Node.inputs_refreshed locked (length_incoming graph node)]
  apply List.ext_getElem
  · simp
  · intro index _ _
    simp [incoming]

/-- An input that a refresh leaves alone has the shape that comes in, or what it may take. -/
theorem shape_of_renewed_eq (unchanged : graph.renewed node = node) {locked : Bool}
    (arithmetic : node.inference = .arithmetic locked) {port : Port}
    (isInput : port ∈ node.inputs) :
    port.shape = (graph.carried? port.id).getD
      (Snapshot.told locked (graph.incoming node)).placeholder := by
  have sameInputs := inputs_renewed graph arithmetic
  rw [unchanged] at sameInputs
  have samePort :
      port.informed (.told locked (graph.incoming node)) (graph.carried? port.id) = port :=
    List.map_inj_left.mp (sameInputs.symm.trans (List.map_id _).symm) port isInput
  calc
    port.shape = (port.informed (.told locked (graph.incoming node))
        (graph.carried? port.id)).shape := by rw [samePort]
    _ = _ := Port.shape_informed _ _ _

theorem SettledAt.shape_eq (settled : graph.SettledAt node.id)
    (member : node ∈ graph.nodes.toList) {locked : Bool}
    (arithmetic : node.inference = .arithmetic locked) {port : Port}
    (isInput : port ∈ node.inputs) :
    port.shape = (graph.carried? port.id).getD
      (Snapshot.told locked (graph.incoming node)).placeholder :=
  shape_of_renewed_eq (settledAt_iff.mp settled node (node?_of_mem member)) arithmetic isInput

/-- What comes into a node is read off the links into it and the nodes that feed it. -/
theorem Plugged.incoming_congr (firstPlugged : first.Plugged) (secondPlugged : second.Plugged)
    (firstMember : node ∈ first.nodes.toList) {counterpart : Node}
    (secondMember : counterpart ∈ second.nodes.toList) (sameBlank : node.blank = counterpart.blank)
    (sameLinks : first.linksInto node.id = second.linksInto node.id)
    (sameProducers : ∀ producer, first.Feeds producer node.id →
      first.node? producer = second.node? producer) :
    first.incoming node = second.incoming counterpart := by
  have sameInputs := (Node.map_ports_congr Port.id sameBlank fun _ => rfl).1
  rw [incoming_eq_map_id, incoming_eq_map_id, ← sameInputs]
  apply List.map_congr_left
  intro portId isId
  obtain ⟨port, isInput, rfl⟩ := List.mem_map.mp isId
  rw [sameInputs] at isId
  obtain ⟨input, isCounterpart, sameId⟩ := List.mem_map.mp isId
  have sameLink : second.producerOf? port.id = first.producerOf? port.id := by
    rw [firstPlugged.producerOf?_eq firstMember isInput, ← find?_linksInto, sameLinks,
      find?_linksInto, Node.id_eq_of_blank_eq sameBlank, ← sameId,
      secondPlugged.producerOf?_eq secondMember isCounterpart]
  rw [carried?, carried?, sameLink]
  cases found : first.producerOf? port.id with
  | none => rfl
  | some link =>
      have linkMember : link ∈ first.links.toList := List.mem_of_find?_eq_some found
      have samePort : link.target.port = port.id := by simpa using List.find?_some found
      have target := firstPlugged.target_eq firstMember isInput linkMember samePort
      have feeds : first.Feeds link.source.node node.id :=
        ⟨link, linkMember, rfl, congrArg Endpoint.node target⟩
      simp only [Option.bind_eq_bind, Option.bind_some, sameProducers _ feeds]

/-- A node stays settled while it, the links into it and the nodes that feed it stay the same. -/
theorem SettledAt.congr (settled : first.SettledAt id) (firstPlugged : first.Plugged)
    (secondPlugged : second.Plugged) (sameNode : first.node? id = second.node? id)
    (sameLinks : first.linksInto id = second.linksInto id)
    (sameProducers : ∀ producer, first.Feeds producer id →
      first.node? producer = second.node? producer) : second.SettledAt id := by
  rw [settledAt_iff] at settled ⊢
  intro node secondFound
  have firstFound : first.node? id = some node := sameNode.trans secondFound
  have isId : node.id = id := id_of_node? firstFound
  subst isId
  have sameIncoming : first.incoming node = second.incoming node :=
    firstPlugged.incoming_congr secondPlugged (mem_of_node? firstFound)
      (mem_of_node? secondFound) rfl sameLinks sameProducers
  rw [← renewed_congr sameIncoming]
  exact settled node firstFound

theorem SameFrame.plugged (frame : first.SameFrame second) (plugged : first.Plugged) :
    second.Plugged :=
  frame.sameSockets.plugged plugged

/-- A refresh settles the node. -/
theorem Plugged.settledAt_renew (plugged : graph.Plugged) (acyclic : graph.Acyclic)
    (id : NodeId) : (graph.renew id).SettledAt id := by
  have frame := (sameFrame_renew graph id).symm
  rw [settledAt_iff]
  intro node found
  have member := mem_of_node? found
  rw [node?_renew, if_pos rfl] at found
  obtain ⟨old, oldFound, rfl⟩ := Option.map_eq_some_iff.mp found
  have sameIncoming : graph.incoming (graph.renewed old) =
      (graph.renew id).incoming (graph.renewed old) := by
    rw [incoming_eq_of_blank_eq (blank_renewed graph old)]
    refine plugged.incoming_congr (frame.plugged plugged) (mem_of_node? oldFound) member
      (blank_renewed graph old).symm (congrFun frame.linksInto _) ?_
    intro producer feeds
    have notItself : producer ≠ id := by
      rintro rfl
      rw [id_of_node? oldFound] at feeds
      exact acyclic producer (.single feeds)
    rw [node?_renew, if_neg notItself]
  rw [← renewed_congr sameIncoming, renewed_renewed]

/-- A refresh leaves settled what the node does not feed. -/
theorem SettledAt.renew (settled : graph.SettledAt other) (plugged : graph.Plugged)
    (differ : other ≠ id) (notFed : ¬ graph.Feeds id other) : (graph.renew id).SettledAt other := by
  have frame := (sameFrame_renew graph id).symm
  refine settled.congr plugged (frame.plugged plugged) ?_ (congrFun frame.linksInto _) ?_
  · rw [node?_renew, if_neg differ]
  · intro producer feeds
    have notId : producer ≠ id := fun isId => notFed (isId ▸ feeds)
    rw [node?_renew, if_neg notId]

end Graph

end DataflowTyping
