import DataflowTyping.Proofs.ArithmeticRun

/-!
# An operation gives the widest shape that it draws on

Refreshes look at one node at a time.  What they amount to in a graph of
arithmetic can be said of all nodes at once: if an operation and all operations
upstream of it, as far as these follow on each other, have links into all their
inputs, then its output is the widest among the constants and reductions that
feed any of them.
-/

namespace DataflowTyping

open Relation

namespace Graph

variable {graph : Graph} {node : Node} {link : Link} {shape : Shape}
  {id producer consumer : NodeId}

/-- The node is an operation whose output is not locked. -/
def Unlocked (graph : Graph) (id : NodeId) : Prop :=
  (graph.node? id).map Node.inference = some (.arithmetic false)

instance (graph : Graph) (id : NodeId) : Decidable (graph.Unlocked id) :=
  inferInstanceAs (Decidable (_ = _))

/-- One node is fed by another, which is an operation whose output is not locked. -/
def DrawsOn (graph : Graph) (consumer producer : NodeId) : Prop :=
  graph.Feeds producer consumer ∧ graph.Unlocked producer

/-- Links lead into all inputs of the node. -/
def FullyLinked (graph : Graph) (id : NodeId) : Prop :=
  ∀ node, graph.node? id = some node → ∀ port ∈ node.inputs, graph.Linked ⟨node.id, port.id⟩

/-- The link leaves a constant of the shape, or it leaves a reduction and the shape is a scalar. -/
def Supplies (graph : Graph) (link : Link) (shape : Shape) : Prop :=
  ∃ source, graph.node? link.source.node = some source ∧
    (source.inference = .fixed ∧ graph.offered? link.source = some shape ∨
      source.inference = .arithmetic true ∧ shape = .scalar)

/--
A link that supplies the shape leads into the node, or into one of the operations
upstream of it, as far as these follow on each other.
-/
def Supplied (graph : Graph) (id : NodeId) (shape : Shape) : Prop :=
  ∃ link ∈ graph.links.toList, ReflTransGen graph.DrawsOn id link.target.node ∧
    graph.Supplies link shape

theorem Supplied.head (draws : graph.DrawsOn consumer producer)
    (supplied : graph.Supplied producer shape) : graph.Supplied consumer shape := by
  obtain ⟨link, isLink, path, supplies⟩ := supplied
  exact ⟨link, isLink, path.head draws, supplies⟩

namespace Regular

theorem shape_of_locked (regular : graph.Regular) (member : node ∈ graph.nodes.toList)
    (locked : node.inference = .arithmetic true) : ∀ port ∈ node.outputs, port.shape = .scalar := by
  intro port isOutput
  rw [(regular.settled.declared node member true locked).outputShapes port isOutput]
  exact ((regular.standard node member).operation true locked).2 port isOutput

theorem offered?_of_link (regular : graph.Regular) (isLink : link ∈ graph.links.toList) :
    ∃ source output, graph.node? link.source.node = some source ∧ source.outputs = [output] ∧
      graph.offered? link.source = some output.shape := by
  obtain ⟨source, consumer, output, input, joins, isOutput, -⟩ :=
    regular.settled.wired.exists_joins isLink
  obtain ⟨only, isOnly⟩ := (regular.standard source joins.producerMember).exists_output
  rw [isOnly] at isOutput
  rw [List.mem_singleton.mp isOutput] at joins
  exact ⟨source, only, joins.producerId ▸ node?_of_mem joins.producerMember, isOnly,
    joins.offered? regular.settled.wired.distinct⟩

theorem offered?_of_supplies (regular : graph.Regular) (isLink : link ∈ graph.links.toList)
    (supplies : graph.Supplies link shape) : graph.offered? link.source = some shape := by
  obtain ⟨source, found, ⟨-, offered⟩ | ⟨locked, rfl⟩⟩ := supplies
  · exact offered
  · obtain ⟨same, output, sameFound, isOnly, offered⟩ := regular.offered?_of_link isLink
    obtain rfl : source = same := Option.some.inj (found.symm.trans sameFound)
    rw [offered, regular.shape_of_locked (mem_of_node? found) locked output]
    exact isOnly ▸ List.mem_singleton_self output

theorem mem_incoming_of_link (regular : graph.Regular) (member : node ∈ graph.nodes.toList)
    (isLink : link ∈ graph.links.toList) (target : link.target.node = node.id)
    (offered : graph.offered? link.source = some shape) : some shape ∈ graph.incoming node := by
  obtain ⟨_, consumer, _, input, joins, -, isInput⟩ :=
    regular.settled.wired.exists_joins isLink
  have isNode : consumer = node := by
    have found := node?_of_mem joins.consumerMember
    rw [joins.consumerId, target, node?_of_mem member] at found
    exact (Option.some.inj found).symm
  subst isNode
  have ends : link.target = ⟨consumer.id, input.id⟩ := by
    rw [joins.consumerId, joins.inputId]
  obtain ⟨carried, alsoOffered⟩ := regular.carried?_of_link member isInput isLink ends
  rw [offered] at alsoOffered
  exact List.mem_map.mpr ⟨input, isInput, carried.trans alsoOffered.symm⟩

end Regular

/-- The shape is known, it was supplied to the node, and nothing wider was. -/
structure Widest (graph : Graph) (id : NodeId) (shape : Shape) : Prop where
  known : shape.isConcrete = true
  supplied : graph.Supplied id shape
  bound : ∀ other, graph.Supplied id other → other.width ≤ shape.width

namespace Regular

variable (regular : graph.Regular)
  (earlier : ∀ producer, graph.DrawsOn id producer → ∀ source output,
    graph.node? producer = some source → source.outputs = [output] →
      graph.Widest producer output.shape)

include regular earlier

/-- What a link brings is known and was supplied, if this holds upstream. -/
theorem supplied_of_link (isLink : link ∈ graph.links.toList) (target : link.target.node = id) :
    ∃ shape, graph.offered? link.source = some shape ∧ shape.isConcrete = true ∧
      graph.Supplied id shape := by
  obtain ⟨source, output, found, isOnly, offered⟩ := regular.offered?_of_link isLink
  have member := mem_of_node? found
  have isOutput : output ∈ source.outputs := isOnly ▸ List.mem_singleton_self output
  refine ⟨output.shape, offered, ?_⟩
  cases inference : source.inference with
  | fixed =>
      exact ⟨((regular.standard source member).constant inference).2 output isOutput,
        link, isLink, target ▸ .refl, source, found, .inl ⟨inference, offered⟩⟩
  | arithmetic locked =>
      cases locked with
      | true =>
          have isScalar := regular.shape_of_locked member inference output isOutput
          rw [isScalar]
          exact ⟨rfl, link, isLink, target ▸ .refl, source, found, .inr ⟨inference, rfl⟩⟩
      | false =>
          have draws : graph.DrawsOn id link.source.node :=
            ⟨⟨link, isLink, rfl, target⟩, by rw [Unlocked, found, Option.map_some, inference]⟩
          have widest := earlier _ draws source output found isOnly
          exact ⟨widest.known, widest.supplied.head draws⟩

theorem fed_of_earlier (found : graph.node? id = some node) (linked : graph.FullyLinked id) :
    graph.Fed node := by
  intro port isInput
  obtain ⟨link, isLink, target⟩ := linked node found port isInput
  have isHere : link.target.node = id := by rw [target, id_of_node? found]
  obtain ⟨shape, offered, known, -⟩ := regular.supplied_of_link earlier isLink isHere
  exact ⟨link, isLink, target, shape, offered, (Shape.isConcrete_iff.mp known).2⟩

theorem supplied_of_incoming (found : graph.node? id = some node) (linked : graph.FullyLinked id)
    (isIncoming : some shape ∈ graph.incoming node) : graph.Supplied id shape := by
  obtain ⟨port, isInput, carried⟩ := List.mem_map.mp isIncoming
  obtain ⟨link, isLink, target⟩ := linked node found port isInput
  have isHere : link.target.node = id := by rw [target, id_of_node? found]
  obtain ⟨given, offered, -, supplied⟩ := regular.supplied_of_link earlier isLink isHere
  obtain ⟨alsoCarried, alsoOffered⟩ :=
    regular.carried?_of_link (mem_of_node? found) isInput isLink target
  obtain rfl : port.shape = shape := Option.some.inj (alsoCarried.symm.trans carried)
  obtain rfl : given = port.shape := Option.some.inj (offered.symm.trans alsoOffered)
  exact supplied

theorem exists_incoming_of_supplied (found : graph.node? id = some node)
    (supplied : graph.Supplied id shape) :
    ∃ wider, some wider ∈ graph.incoming node ∧ shape.width ≤ wider.width := by
  have member := mem_of_node? found
  have isId := id_of_node? found
  obtain ⟨link, isLink, path, supplies⟩ := supplied
  rcases path.cases_head with here | ⟨producer, draws, rest⟩
  · have offered := regular.offered?_of_supplies isLink supplies
    exact ⟨shape, regular.mem_incoming_of_link member isLink (here.symm.trans isId.symm) offered,
      UInt8.le_refl _⟩
  · -- The first operation on the way gives an operand that is at least as wide.
    obtain ⟨first, isFirst, leaves, target⟩ := draws.1
    obtain ⟨source, output, sourceFound, isOnly, offered⟩ := regular.offered?_of_link isFirst
    have widest := earlier producer draws source output (leaves ▸ sourceFound) isOnly
    exact ⟨output.shape,
      regular.mem_incoming_of_link member isFirst (target.trans isId.symm) offered,
      widest.bound shape ⟨link, isLink, rest, supplies⟩⟩

/-- An operation gives the widest shape supplied to it, if those that it draws on do. -/
theorem widest_of_earlier (found : graph.node? id = some node)
    (unlocked : node.inference = .arithmetic false) (linked : graph.FullyLinked id) :
    ∃ output, node.outputs = [output] ∧ graph.Widest id output.shape := by
  have fed := regular.fed_of_earlier earlier found linked
  obtain ⟨output, isOnly, isKnown, isIncoming, greatest⟩ :=
    regular.result_greatest (mem_of_node? found) unlocked fed
  have supplied := regular.supplied_of_incoming earlier found linked isIncoming
  refine ⟨output, isOnly, isKnown, supplied, fun other alsoSupplied => ?_⟩
  obtain ⟨wider, alsoIncoming, narrower⟩ :=
    regular.exists_incoming_of_supplied earlier found alsoSupplied
  exact UInt8.le_trans narrower (greatest wider alsoIncoming)

end Regular

/-- Along an order of the nodes, every operation gives the widest shape supplied to it. -/
theorem Regular.widest (regular : graph.Regular) (member : node ∈ graph.nodes.toList)
    (unlocked : node.inference = .arithmetic false)
    (linked : ∀ other, ReflTransGen graph.DrawsOn node.id other → graph.FullyLinked other) :
    ∃ output, node.outputs = [output] ∧ graph.Widest node.id output.shape := by
  have everywhere : graph.Everywhere fun node => node.inference = .arithmetic false →
      (∀ other, ReflTransGen graph.DrawsOn node.id other → graph.FullyLinked other) →
      ∃ output, node.outputs = [output] ∧ graph.Widest node.id output.shape := by
    refine regular.settled.wired.layered.forall_node fun node member earlier unlocked linked => ?_
    refine regular.widest_of_earlier ?_ (node?_of_mem member) unlocked (linked node.id .refl)
    intro producer draws source output sourceFound isOnly
    have sourceUnlocked : source.inference = .arithmetic false := by
      simpa [Unlocked, sourceFound] using draws.2
    obtain rfl : source.id = producer := id_of_node? sourceFound
    obtain ⟨only, alsoOnly, widest⟩ := earlier source (mem_of_node? sourceFound) draws.1
      sourceUnlocked fun other path => linked other (path.head draws)
    obtain rfl : output = only := List.singleton_inj.mp (isOnly.symm.trans alsoOnly)
    exact widest
  exact everywhere node member unlocked linked

/--
In a run that adds nodes of the catalogue of arithmetic under new identifiers,
take an operation such that it and all operations upstream of it, as far as these
follow on each other, have links into all their inputs.  Its output is the widest
among the constants and reductions that feed any of them, and a reduction always
gives a scalar.
-/
theorem output_widest_of_arithmetic_run (name : String) (settings : Settings) (edits : List Edit)
    (novel : (blank name settings).NovelRun edits)
    (adds : ∀ edit ∈ edits, edit.AddsFrom .arithmetic) :
    let graph := ((blank name settings).run edits).value.1
    ∀ node ∈ graph.nodes.toList,
      (node.inference = .arithmetic true → ∀ output ∈ node.outputs, output.shape = .scalar) ∧
      (node.inference = .arithmetic false →
        (∀ other, ReflTransGen graph.DrawsOn node.id other → graph.FullyLinked other) →
        ∃ output, node.outputs = [output] ∧ graph.Widest node.id output.shape) := by
  intro graph node member
  obtain ⟨⟨regular, -⟩, -⟩ := NovelRun.regular name settings novel adds
  exact ⟨regular.shape_of_locked member, regular.widest member⟩

end Graph

namespace Sample

/-- The vector that is wired into the sum makes the output of the blend a vector. -/
theorem widest_blending :
    (Graph.blank "Blending" {}).NovelRun blending ∧
      (∀ edit ∈ blending, edit.AddsFrom .arithmetic) ∧
      (let graph := ((Graph.blank "Blending" {}).run blending).value.1
      ∃ node ∈ graph.nodes.toList, node.id = blend.id ∧ node.inference = .arithmetic false ∧
        (∀ other, ReflTransGen graph.DrawsOn node.id other → graph.FullyLinked other) ∧
        ∃ output, node.outputs = [output] ∧ output.shape = .vec3 ∧
          graph.Widest node.id output.shape) := by
  have novel : (Graph.blank "Blending" {}).NovelRun blending := by decide +kernel
  refine ⟨novel, addsFrom_blending, ?_⟩
  intro graph
  have present : ∃ node ∈ graph.nodes.toList, node.id = blend.id ∧
      node.inference = .arithmetic false ∧ node.outputs.map Port.shape = [.vec3] := by
    decide +kernel
  obtain ⟨node, member, isBlend, unlocked, outputs⟩ := present
  -- Upstream of the blend there are no operations but the sum.
  have closed : ∀ link ∈ graph.links.toList, link.target.node ∈ [blend.id, sum.id] →
      graph.Unlocked link.source.node → link.source.node ∈ [blend.id, sum.id] := by
    decide +kernel
  have linked : ∀ node ∈ graph.nodes.toList, node.id ∈ [blend.id, sum.id] →
      ∀ port ∈ node.inputs, ∃ link ∈ graph.links.toList, link.target = ⟨node.id, port.id⟩ := by
    decide +kernel
  have upstream : ∀ other, ReflTransGen graph.DrawsOn node.id other →
      other ∈ [blend.id, sum.id] := by
    intro other path
    induction path with
    | refl => exact isBlend ▸ List.mem_cons_self
    | tail _ draws ih =>
        obtain ⟨⟨link, isLink, rfl, target⟩, isUnlocked⟩ := draws
        exact closed link isLink (target ▸ ih) isUnlocked
  have fullyLinked : ∀ other, ReflTransGen graph.DrawsOn node.id other →
      graph.FullyLinked other := by
    intro other path node found
    exact linked node (Graph.mem_of_node? found) (Graph.id_of_node? found ▸ upstream other path)
  obtain ⟨-, widest⟩ := Graph.output_widest_of_arithmetic_run "Blending" {} blending novel
    addsFrom_blending node member
  obtain ⟨output, isOnly, isWidest⟩ := widest unlocked fullyLinked
  rw [isOnly, List.map_singleton, List.singleton_inj] at outputs
  exact ⟨node, member, isBlend, unlocked, fullyLinked, output, isOnly, outputs, isWidest⟩

end Sample

end DataflowTyping
