import DataflowTyping.Proofs.History

/-!
# Replacing a node

A node that is added under an identifier in use takes the place of the old one.
It is refreshed itself, but nothing that it feeds is.  So the graph stays settled
exactly if every input that the node feeds already has the shape that the node
now gives.  If links and ports are as they should be, then this says that the
node gives to arithmetic nodes what the old one gave; and in any case a
propagation from the node settles the graph.
-/

namespace DataflowTyping

/-- Nodes with ports of the same identifiers and directions, in the same places. -/
structure Node.SamePorts (first second : Node) : Prop where
  inputs : first.inputs.map (fun port => (port.id, port.direction)) =
    second.inputs.map fun port => (port.id, port.direction)
  outputs : first.outputs.map (fun port => (port.id, port.direction)) =
    second.outputs.map fun port => (port.id, port.direction)

theorem Node.SamePorts.map_id {first second : Node} (same : first.SamePorts second) :
    first.ports.map Port.id = second.ports.map Port.id := by
  have inputs := congrArg (List.map Prod.fst) same.inputs
  have outputs := congrArg (List.map Prod.fst) same.outputs
  rw [List.map_map, List.map_map] at inputs outputs
  rw [ports, ports, List.map_append, List.map_append]
  exact congrArg₂ (· ++ ·) inputs outputs

namespace Graph

variable {graph first second : Graph} {id other : NodeId} {ids : List NodeId} {old node : Node}
  {source : Endpoint}

/-- If each node is refreshed once and all is as before, then no refresh did anything. -/
theorem settledAt_of_renewEach_eq (distinct : ids.Nodup) (unchanged : graph.renewEach ids = graph) :
    ∀ id ∈ ids, graph.SettledAt id := by
  induction ids with
  | nil => simp
  | cons first rest ih =>
      obtain ⟨fresh, restDistinct⟩ := List.nodup_cons.mp distinct
      have later : (graph.renew first).renewEach rest = graph := unchanged
      -- The later refreshes do not touch the first node.
      have settled : graph.SettledAt first := by
        rw [settledAt_iff]
        intro node found
        have kept : ((graph.renew first).renewEach rest).node? first =
            (graph.renew first).node? first := node?_renewEach fresh
        rw [later, node?_renew, if_pos rfl, found] at kept
        exact (Option.some.inj kept).symm
      rw [settled] at later
      exact List.forall_mem_cons.mpr ⟨settled, ih restDistinct later⟩

/-- Refreshing all nodes does nothing exactly if no node has to be refreshed. -/
theorem Layered.refreshAll?_eq_self_iff (layered : graph.Layered) :
    graph.refreshAll?.value = some graph ↔ ∀ id, graph.SettledAt id := by
  obtain ⟨order, found, orders⟩ := layered.exists_order
  rw [value_refreshAll? found, Option.some_inj]
  constructor
  · intro unchanged id
    by_cases listed : id ∈ order
    · exact settledAt_of_renewEach_eq orders.sorted.nodup unchanged id listed
    · exact orders.settledAt_of_not_mem listed
  · exact fun settled => renewEach_of_settledAt settled order

theorem isSome_offered? : (graph.offered? source).isSome = true ↔
    ∃ node, graph.node? source.node = some node ∧ source.port ∈ node.ports.map Port.id := by
  cases found : graph.node? source.node with
  | none => simp [offered?, found]
  | some node => simp [offered?, found, Node.port?, List.find?_isSome]

namespace SameSockets

theorem feeds (same : first.SameSockets second) : first.Feeds = second.Feeds := by
  funext producer consumer
  rw [Feeds, Feeds, same.links]

theorem isSome_offered? (same : first.SameSockets second)
    (offered : (first.offered? source).isSome) : (second.offered? source).isSome := by
  obtain ⟨node, found, isPort⟩ := Graph.isSome_offered?.mp offered
  obtain ⟨counterpart, counterpartFound, samePorts⟩ := same.exists_node? found
  exact Graph.isSome_offered?.mpr ⟨counterpart, counterpartFound, samePorts ▸ isPort⟩

theorem producerOf? (same : first.SameSockets second) (port : PortId) :
    first.producerOf? port = second.producerOf? port := by
  rw [Graph.producerOf?, Graph.producerOf?, same.links]

theorem isSome_carried? (same : first.SameSockets second) {port : PortId}
    (carried : (first.carried? port).isSome) : (second.carried? port).isSome := by
  rw [carried?_eq, same.producerOf?] at carried
  rw [carried?_eq]
  cases found : second.producerOf? port with
  | none => simp [found] at carried
  | some link =>
      rw [found] at carried
      exact same.isSome_offered? carried

end SameSockets

/-- A node that a refresh left alone in one graph is left alone in another one with the same
sockets, if its inputs have the shapes that come in there. -/
theorem renewed_eq_of_carried (same : first.SameSockets second)
    (unchanged : first.renewed node = node)
    (current : node.isArithmetic = true → ∀ port ∈ node.inputs, ∀ shape,
      second.carried? port.id = some shape → port.shape = shape) : second.renewed node = node := by
  cases inference : node.inference with
  | fixed => rw [renewed, inference]
  | arithmetic locked =>
      have isArithmetic : node.isArithmetic = true := Node.isArithmetic_iff.mpr ⟨locked, inference⟩
      have sameIncoming : second.incoming node = first.incoming node := by
        apply List.map_congr_left
        intro port isInput
        cases carried : first.carried? port.id with
        | none =>
            by_contra incoming
            have carriedBack := same.symm.isSome_carried? (Option.isSome_iff_ne_none.mpr incoming)
            simp [carried] at carriedBack
        | some shape =>
            obtain ⟨later, laterCarried⟩ :=
              Option.isSome_iff_exists.mp (same.isSome_carried? (Option.isSome_of_eq_some carried))
            have before := shape_of_renewed_eq unchanged inference isInput
            rw [carried, Option.getD_some] at before
            rw [laterCarried, ← before, current isArithmetic port isInput later laterCarried]
      rw [renewed_congr sameIncoming, unchanged]

/-- The inputs that a node feeds have the shapes that it gives. -/
def UpToDate (graph : Graph) (producer : NodeId) : Prop :=
  ∀ consumer ∈ graph.nodes.toList, consumer.isArithmetic = true → ∀ input ∈ consumer.inputs,
    ∀ link, graph.producerOf? input.id = some link → link.source.node = producer →
      ∀ shape, graph.offered? link.source = some shape → input.shape = shape

theorem upToDate_of_settledAt (settled : ∀ id, graph.SettledAt id) (producer : NodeId) :
    graph.UpToDate producer := by
  intro consumer member isArithmetic input isInput link first _ shape offered
  obtain ⟨locked, inference⟩ := Node.isArithmetic_iff.mp isArithmetic
  have carried : graph.carried? input.id = some shape := by
    rw [carried?_eq, first, Option.bind_some, offered]
  rw [(settled consumer.id).shape_eq member inference isInput, carried, Option.getD_some]

theorem offered?_congr (sameNode : first.node? source.node = second.node? source.node) :
    first.offered? source = second.offered? source := by
  rw [offered?, offered?, sameNode]

/-- Where only one node is different, a refresh leaves alone what it left alone before, if the
inputs that this node feeds are up to date. -/
theorem renewed_eq_of_upToDate (same : first.SameSockets second)
    (elsewhere : ∀ other, other ≠ id → first.node? other = second.node? other)
    (upToDate : second.UpToDate id) (member : node ∈ second.nodes.toList)
    (unchanged : first.renewed node = node) : second.renewed node = node := by
  refine renewed_eq_of_carried same unchanged ?_
  intro isArithmetic port isInput shape carried
  rw [carried?_eq] at carried
  obtain ⟨link, found, offered⟩ := Option.bind_eq_some_iff.mp carried
  by_cases isFed : link.source.node = id
  · exact upToDate node member isArithmetic port isInput link found isFed shape offered
  · obtain ⟨locked, inference⟩ := Node.isArithmetic_iff.mp isArithmetic
    have before : first.carried? port.id = some shape := by
      rw [carried?_eq, same.producerOf?, found, Option.bind_some,
        offered?_congr (elsewhere _ isFed), offered]
    rw [shape_of_renewed_eq unchanged inference isInput, before, Option.getD_some]

theorem Plugged.id_ne_of_producerOf? (plugged : graph.Plugged) (acyclic : graph.Acyclic)
    (member : node ∈ graph.nodes.toList) {input : Port} (isInput : input ∈ node.inputs)
    {link : Link} (found : graph.producerOf? input.id = some link) :
    node.id ≠ link.source.node := by
  intro loop
  have linkMember : link ∈ graph.links.toList := List.mem_of_find?_eq_some found
  have samePort : link.target.port = input.id := by simpa using List.find?_some found
  have target := plugged.target_eq member isInput linkMember samePort
  exact acyclic node.id (.single ⟨link, linkMember, loop.symm, congrArg Endpoint.node target⟩)

theorem node?_replaced (graph : Graph) (node : Node) (other : NodeId) :
    (graph.perform (.add node)).value.1.node? other =
      if other = node.id then some ((graph.altered (.add node)).renewed node)
      else graph.node? other := by
  rw [value_add, node?_renew, altered]
  by_cases isNew : other = node.id
  · simp [isNew, node?, Keyed.find?_insert]
  · simp [isNew, node?, Keyed.find?_insert]

theorem mem_replaced_iff (differs : other ≠ node.id) (sameId : old.id = other) :
    old ∈ (graph.perform (.add node)).value.1.nodes.toList ↔ old ∈ graph.nodes.toList := by
  subst sameId
  have sameNode := node?_replaced graph node old.id
  rw [if_neg differs] at sameNode
  constructor
  · intro member
    exact mem_of_node? (sameNode ▸ node?_of_mem member)
  · intro member
    exact mem_of_node? (sameNode.trans (node?_of_mem member))

section Replaced

variable (found : graph.node? node.id = some old) (samePorts : node.SamePorts old)

include found samePorts

theorem sameSockets_altered : (graph.altered (.add node)).SameSockets graph := by
  refine ⟨rfl, Keyed.map_toList_insert Node.sockets found ?_⟩
  rw [Node.sockets, Node.sockets, samePorts.map_id, id_of_node? found]

theorem sameSockets_replaced : (graph.perform (.add node)).value.1.SameSockets graph :=
  (sameFrame_perform graph (.add node)).sameSockets.trans (sameSockets_altered found samePorts)

theorem settledAt_replaced (settled : ∀ id, graph.SettledAt id)
    (upToDate : (graph.perform (.add node)).value.1.UpToDate node.id) (id : NodeId) :
    (graph.perform (.add node)).value.1.SettledAt id := by
  rw [settledAt_iff]
  intro later laterFound
  have member := mem_of_node? laterFound
  by_cases isNew : id = node.id
  · -- The node itself has just been refreshed in the altered graph.
    have sockets := (sameFrame_perform graph (.add node)).sameSockets.symm
    refine renewed_eq_of_upToDate sockets (fun other differs => ?_) upToDate member ?_
    · rw [node?_replaced, if_neg differs, altered, node?, Keyed.find?_insert, if_neg differs]
      rfl
    · rw [node?_replaced, if_pos isNew] at laterFound
      rw [← Option.some.inj laterFound, renewed_renewed]
  · refine renewed_eq_of_upToDate (sameSockets_replaced found samePorts).symm
      (fun other differs => ?_) upToDate member ?_
    · rw [node?_replaced, if_neg differs]
    · rw [node?_replaced, if_neg isNew] at laterFound
      exact settledAt_iff.mp (settled id) later laterFound

/-- The inputs that the node feeds are up to date if it gives what the old node gave. -/
theorem upToDate_replaced_iff (plugged : graph.Plugged) (layered : graph.Layered)
    (settled : ∀ id, graph.SettledAt id) :
    (graph.perform (.add node)).value.1.UpToDate node.id ↔
      ∀ consumer ∈ graph.nodes.toList, consumer.isArithmetic = true → ∀ input ∈ consumer.inputs,
        ∀ link, graph.producerOf? input.id = some link → link.source.node = node.id →
          (graph.perform (.add node)).value.1.offered? link.source =
            graph.offered? link.source := by
  have sockets := sameSockets_replaced found samePorts
  have wasUpToDate := upToDate_of_settledAt settled node.id
  constructor
  · intro upToDate consumer member isArithmetic input isInput link fed isFed
    have differs := plugged.id_ne_of_producerOf? layered.acyclic member isInput fed
    obtain ⟨shape, offered⟩ := Option.isSome_iff_exists.mp
      (isSome_offered?.mpr (plugged.source link (List.mem_of_find?_eq_some fed)))
    obtain ⟨later, laterOffered⟩ := Option.isSome_iff_exists.mp
      (sockets.symm.isSome_offered? (Option.isSome_of_eq_some offered))
    have before := wasUpToDate consumer member isArithmetic input isInput link fed isFed shape
      offered
    have after := upToDate consumer ((mem_replaced_iff (isFed ▸ differs) rfl).mpr member)
      isArithmetic input isInput link ((sockets.producerOf? input.id).trans fed) isFed later
      laterOffered
    rw [offered, laterOffered, ← before, ← after]
  · intro sameOffers consumer member isArithmetic input isInput link fed isFed shape offered
    have differs := (sockets.symm.plugged plugged).id_ne_of_producerOf?
      (layered.perform (.add node)).acyclic member isInput fed
    have wasMember := (mem_replaced_iff (isFed ▸ differs) rfl).mp member
    have wasFed := (sockets.producerOf? input.id).symm.trans fed
    refine wasUpToDate consumer wasMember isArithmetic input isInput link wasFed isFed shape ?_
    rw [← sameOffers consumer wasMember isArithmetic input isInput link wasFed isFed, offered]

/-- What the missing propagation would do. -/
theorem settledAt_propagate_replaced (plugged : graph.Plugged) (layered : graph.Layered)
    (settled : ∀ id, graph.SettledAt id) (id : NodeId) :
    ((graph.perform (.add node)).value.1.propagate node.id).value.SettledAt id := by
  have sockets := sameSockets_replaced found samePorts
  have laterPlugged := sockets.symm.plugged plugged
  apply laterPlugged.settledAt_propagate (layered.perform (.add node)).acyclic
  by_cases affected : id ∈ (graph.perform (.add node)).value.1.downstream node.id
  · exact Or.inl affected
  · right
    have kept {other : NodeId} (differs : other ≠ node.id) :
        graph.node? other = (graph.perform (.add node)).value.1.node? other := by
      rw [node?_replaced, if_neg differs]
    refine (settled id).congr plugged laterPlugged (kept ?_) ?_ ?_
    · rintro rfl
      exact affected (start_mem_downstream _ _)
    · rw [linksInto, linksInto, sockets.links]
    · intro producer feeds
      apply kept
      rintro rfl
      rw [← sockets.feeds] at feeds
      exact affected (mem_downstream.mpr (.single feeds))

end Replaced

def Reachable (graph : Graph) : Prop :=
  ∃ name settings edits, ((blank name settings).run edits).value.1 = graph

theorem Reachable.layered (reachable : graph.Reachable) : graph.Layered := by
  obtain ⟨name, settings, edits, rfl⟩ := reachable
  exact ((layered_blank name settings).run edits).1

/--
A settled graph in which a node is replaced by one with the same ports stays
settled exactly if the inputs that the node feeds are up to date with it.  If
every link ends at ports and no two ports have the same identifier, then this is
so exactly if arithmetic nodes are given what they were given before; and a
propagation from the node always settles the graph.
-/
theorem refreshAll?_replaced_iff (graph : Graph) (old node : Node) (reachable : graph.Reachable)
    (settled : graph.refreshAll?.value = some graph) (member : old ∈ graph.nodes.toList)
    (sameId : node.id = old.id) (samePorts : node.SamePorts old) :
    let replaced := (graph.perform (.add node)).value.1
    let propagated := (replaced.propagate node.id).value
    (replaced.refreshAll?.value = some replaced ↔ replaced.UpToDate node.id) ∧
    (graph.Plugged →
      (replaced.refreshAll?.value = some replaced ↔
        ∀ consumer ∈ graph.nodes.toList, consumer.isArithmetic = true → ∀ input ∈ consumer.inputs,
          ∀ link, graph.producerOf? input.id = some link → link.source.node = node.id →
            replaced.offered? link.source = graph.offered? link.source) ∧
      propagated.refreshAll?.value = some propagated) := by
  intro replaced propagated
  have layered := reachable.layered
  have found : graph.node? node.id = some old := sameId ▸ node?_of_mem member
  have laterLayered : replaced.Layered := layered.perform (.add node)
  rw [layered.refreshAll?_eq_self_iff] at settled
  have exact : replaced.refreshAll?.value = some replaced ↔ replaced.UpToDate node.id := by
    rw [laterLayered.refreshAll?_eq_self_iff]
    exact ⟨fun settled => upToDate_of_settledAt settled node.id,
      settledAt_replaced found samePorts settled⟩
  refine ⟨exact, fun plugged => ⟨?_, ?_⟩⟩
  · rw [exact]
    exact upToDate_replaced_iff found samePorts plugged layered settled
  · rw [(laterLayered.propagate node.id).refreshAll?_eq_self_iff]
    exact settledAt_propagate_replaced found samePorts plugged layered settled

end Graph

namespace Sample

/-- A vector of four components in the place of the vector of three. -/
def widerVector : Node :=
  (Catalogue.constant "vector4" "Vector 4" .vec4).instantiate ⟨.ofNat 1⟩ fun _ _ => ⟨.ofNat 10⟩

theorem samePorts_widerVector : widerVector.SamePorts vector where
  inputs := rfl
  outputs := rfl

/-- The sum does not hear of it when the vector that is wired in is replaced. -/
theorem refreshAll?_replaced_ne :
    let graph := ((Graph.blank "Sum" {}).run wiring).value.1
    let replaced := (graph.perform (.add widerVector)).value.1
    graph.Reachable ∧ graph.refreshAll?.value = some graph ∧ vector ∈ graph.nodes.toList ∧
      widerVector.id = vector.id ∧ widerVector.SamePorts vector ∧
      replaced.refreshAll?.value ≠ some replaced := by
  refine ⟨⟨"Sum", {}, wiring, rfl⟩, ?_, ?_, rfl, samePorts_widerVector, ?_⟩
  all_goals decide +kernel

/-- The first operand of the sum is not up to date, until the new vector is propagated. -/
theorem refreshAll?_replaced_wiring :
    let graph := ((Graph.blank "Sum" {}).run wiring).value.1
    let replaced := (graph.perform (.add widerVector)).value.1
    let propagated := (replaced.propagate widerVector.id).value
    graph.refreshAll?.value = some graph ∧ ¬ replaced.UpToDate widerVector.id ∧
      propagated.refreshAll?.value = some propagated := by
  intro graph replaced propagated
  have fresh : (Graph.blank "Sum" {}).FreshRun wiring := by decide +kernel
  have plugged : graph.Plugged := ((Graph.settled_blank "Sum" {}).run fresh).wired.plugged
  have settled : graph.refreshAll?.value = some graph := by decide +kernel
  obtain ⟨upToDate, ofPlugged⟩ := Graph.refreshAll?_replaced_iff graph vector widerVector
    ⟨"Sum", {}, wiring, rfl⟩ settled (by decide +kernel) rfl samePorts_widerVector
  refine ⟨settled, ?_, (ofPlugged plugged).2⟩
  have outdated : replaced.refreshAll?.value ≠ some replaced := by decide +kernel
  exact fun isUpToDate => outdated (upToDate.mpr isUpToDate)

end Sample

end DataflowTyping
