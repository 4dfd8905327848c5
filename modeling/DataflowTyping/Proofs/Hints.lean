import DataflowTyping.Proofs.OperandWidths
import DataflowTyping.Proofs.RefreshTrace
import DataflowTyping.Proofs.Restoring
import DataflowTyping.Proofs.WidestSource

/-!
# What the shape of an empty input foretells

The shape of an input without a link is a hint: it was found from what is wired
into the other inputs, and it accepts the shapes that fit in with these.  In a
graph of arithmetic the hint can be relied on.  If a shape is accepted and a link
is made that brings it, then the input carries this shape, and it is not widened.
Only a vector of two components could be, and it is accepted only if none of the
other operands is wider; the new link changes none of them.
-/

namespace DataflowTyping

open Relation

namespace Shape

/-- Where a vector of two components is accepted, nothing wider is wired in. -/
theorem rank_le_of_placeholder_accepts {base : Shape} {inputCount : Nat}
    (known : base.isGeneric = false)
    (accepted : (base.placeholder inputCount).accepts vec2 = true) : base.rank ≤ vec2.rank := by
  revert known accepted
  cases base <;> simp [placeholder, isGeneric, rank, accepts]

theorem castWidth?_of_rank_le {shape : Shape} (narrow : shape.rank ≤ vec2.rank) :
    shape.castWidth?.getD 0 = 0 := by
  revert narrow
  cases shape <;> decide

end Shape

namespace Snapshot

section Known

variable {locked : Bool} {incoming : List (Option Shape)}
  (known : ∀ shape, some shape ∈ incoming → shape.isGeneric = false)

theorem mem_wiredShapes_told {shape : Shape} :
    shape ∈ (told locked incoming).wiredShapes ↔ some shape ∈ incoming := by
  simp only [wiredShapes, told, List.mem_map, List.mem_filter]
  constructor
  · rintro ⟨operand, ⟨⟨given, isIncoming, rfl⟩, isWired⟩, rfl⟩
    cases given with
    | none => contradiction
    | some shape => exact isIncoming
  · intro isIncoming
    exact ⟨⟨shape, true⟩, ⟨⟨some shape, isIncoming, rfl⟩, rfl⟩, rfl⟩

include known

theorem agree_wiredShapes_told : Shape.Agree (told locked incoming).wiredShapes :=
  Shape.agree_of_isGeneric fun shape isWired => known shape (mem_wiredShapes_told.mp isWired)

theorem base_told_eq_pending_or_mem (locked : Bool) :
    (told locked incoming).base = .pending ∨ some (told locked incoming).base ∈ incoming := by
  rw [base_eq_joinAll]
  by_cases unwired : (told locked incoming).wiredShapes = []
  · exact Or.inl (by rw [unwired, Shape.joinAll_nil])
  · have greatest := Shape.joinAll_greatest (agree_wiredShapes_told known) unwired
    exact Or.inr (mem_wiredShapes_told.mp greatest.1)

theorem rank_le_base_told {shape : Shape} (isIncoming : some shape ∈ incoming) :
    shape.rank ≤ (told locked incoming).base.rank := by
  have isWired : shape ∈ (told locked incoming).wiredShapes :=
    mem_wiredShapes_told.mpr isIncoming
  rw [base_eq_joinAll]
  exact (Shape.joinAll_greatest (agree_wiredShapes_told known) (List.ne_nil_of_mem isWired)).2
    shape isWired

/-- If what may be taken at an empty input accepts `vec2`, then nothing wider comes in. -/
theorem rank_le_of_accepts
    (accepted : (told locked incoming).placeholder.accepts .vec2 = true) {shape : Shape}
    (isIncoming : some shape ∈ incoming) : shape.rank ≤ Shape.vec2.rank := by
  have baseKnown : (told locked incoming).base.isGeneric = false := by
    rcases base_told_eq_pending_or_mem known locked with isPending | isIncoming
    · rw [isPending]
      rfl
    · exact known _ isIncoming
  exact (rank_le_base_told known isIncoming).trans
    (Shape.rank_le_of_placeholder_accepts baseKnown accepted)

theorem rank_result_told_le
    (narrow : ∀ shape, some shape ∈ incoming → shape.rank ≤ Shape.vec2.rank) :
    (told locked incoming).result.rank ≤ Shape.vec2.rank := by
  rw [result_eq]
  split_ifs
  · decide
  · decide
  · rcases base_told_eq_pending_or_mem known locked with isPending | isIncoming
    · rw [isPending]
      decide
    · exact narrow _ isIncoming

end Known

end Snapshot

namespace Graph

variable {graph : Graph} {node consumer producer : Node} {port output : Port} {link : Link}
  {start id : NodeId} {edit : Edit}

theorem node?_propagate (unreached : id ∉ graph.downstream start) :
    (graph.propagate start).value.node? id = graph.node? id := by
  cases found : graph.order? with
  | none => simp only [propagate, found]
  | some order =>
      rw [value_propagate found]
      apply node?_renewEach
      intro visited
      exact unreached (by simpa using (List.mem_filter.mp visited).2)

/-- What does not lie downstream of the node where an edit starts stays as it is. -/
theorem node?_perform_of_unreached (starts : edit.StartsAt graph start)
    (unreached : ¬ ReflTransGen graph.Feeds start id) :
    (graph.perform edit).value.1.node? id = graph.node? id := by
  have stillUnreached : id ∉ (graph.altered edit).downstream start := by
    rw [mem_downstream, starts.reflTransGen_altered_iff]
    exact unreached
  rw [starts.value_perform, node?_propagate stillUnreached, node?, node?, starts.nodes_altered]

theorem exists_link_of_carried? {wanted : PortId} {shape : Shape}
    (carried : graph.carried? wanted = some shape) :
    ∃ link ∈ graph.links.toList, link.target.port = wanted ∧
      graph.offered? link.source = some shape := by
  rw [carried?_eq] at carried
  obtain ⟨link, found, offered⟩ := Option.bind_eq_some_iff.mp carried
  exact ⟨link, List.mem_of_find?_eq_some found, by simpa using List.find?_some found, offered⟩

section Source

variable (unused : link.id ∉ graph.links.keys)
  (made : (graph.perform (.connect link)).value.2 = .connected link.id)

include unused made

/-- A link leaves its producer alone, which stays upstream of everything that is refreshed. -/
theorem node?_source_connect :
    (graph.perform (.connect link)).value.1.node? link.source.node =
      graph.node? link.source.node := by
  obtain ⟨_, _, _, _, admits⟩ := refusal?_eq_none_iff.mp (refusal?_eq_none_of_connected made)
  refine node?_perform_of_unreached (.connect unused made rfl) fun path => ?_
  exact admits.noCircle (mem_downstream.mpr path)

theorem offered?_source_connect :
    (graph.perform (.connect link)).value.1.offered? link.source = graph.offered? link.source := by
  rw [offered?, offered?, node?_source_connect unused made]

end Source

namespace Regular

theorem placeholder_of_no_link (regular : graph.Regular) (member : node ∈ graph.nodes.toList)
    (isInput : port ∈ node.inputs) (unlinked : ¬ graph.Linked ⟨node.id, port.id⟩) :
    ∃ locked, port.shape = (Snapshot.told locked (graph.incoming node)).placeholder := by
  obtain ⟨locked, arithmetic⟩ := (regular.standard node member).isArithmetic isInput
  refine ⟨locked, ?_⟩
  rw [(regular.settled.settledAt node.id).shape_eq member arithmetic isInput,
    regular.carried?_of_no_link member isInput unlinked, Option.getD_none]

/-- A new link adds what it brings to what comes into its consumer, and changes nothing else. -/
theorem mem_incoming_connect (regular : graph.Regular) (unused : link.id ∉ graph.links.keys)
    (made : (graph.perform (.connect link)).value.2 = .connected link.id)
    (member : consumer ∈ graph.nodes.toList) (target : link.target.node = consumer.id)
    (laterMember : node ∈ (graph.perform (.connect link)).value.1.nodes.toList)
    (sameId : node.id = consumer.id) {shape : Shape}
    (isIncoming : some shape ∈ (graph.perform (.connect link)).value.1.incoming node) :
    some shape ∈ graph.incoming consumer ∨ graph.offered? link.source = some shape := by
  have connects : (Edit.connect link).Novel graph := unused
  have editedRegular := (regular.perform connects trivial).value.1
  obtain ⟨port, isInput, carried⟩ := List.mem_map.mp isIncoming
  obtain ⟨into, isLink, samePort, offered⟩ := exists_link_of_carried? carried
  have intoPort := editedRegular.settled.wired.plugged.target_eq laterMember isInput isLink samePort
  have intoConsumer : into.target.node = consumer.id := by rw [intoPort, ← sameId]
  rcases mem_links_perform isLink with ⟨isOld, -⟩ | ⟨isNew, -⟩
  · -- The producer feeds the consumer, so it does not lie downstream of it.
    have unreached : ¬ ReflTransGen graph.Feeds consumer.id into.source.node := fun path =>
      regular.settled.wired.acyclic _ (.head' ⟨into, isOld, rfl, intoConsumer⟩ path)
    rw [offered?, node?_perform_of_unreached (.connect unused made target) unreached] at offered
    exact Or.inl (regular.mem_incoming_of_link member isOld intoConsumer offered)
  · cases isNew
    rw [offered?_source_connect unused made] at offered
    exact Or.inr offered

/-- The input of a new link carries what the output at the other end has had all along. -/
theorem exists_input_connect (regular : graph.Regular) (unused : link.id ∉ graph.links.keys)
    (made : (graph.perform (.connect link)).value.2 = .connected link.id)
    (member : consumer ∈ graph.nodes.toList) (isInput : port ∈ consumer.inputs)
    (target : link.target = ⟨consumer.id, port.id⟩) :
    ∃ later ∈ (graph.perform (.connect link)).value.1.nodes.toList,
      ∃ laterInput ∈ later.inputs, later.id = consumer.id ∧ laterInput.id = port.id ∧
        graph.offered? link.source = some laterInput.shape := by
  have connects : (Edit.connect link).Novel graph := unused
  have editedRegular := (regular.perform connects trivial).value.1
  obtain ⟨later, laterMember, persists⟩ :=
    exists_persistsAs connects.addsNew member Edit.noConfusion
  obtain ⟨laterInput, laterIsInput, sameBlank⟩ := Node.exists_input persists.blank.symm isInput
  have sameInput : laterInput.id = port.id := Port.view_congr Port.id sameBlank fun _ => rfl
  have isLink : link ∈ (graph.perform (.connect link)).value.1.links.toList := by
    rw [toList_links_connect (refusal?_eq_none_of_connected made) unused]
    exact List.mem_append_right _ (List.mem_singleton_self link)
  have laterTarget : link.target = ⟨later.id, laterInput.id⟩ := by
    rw [target, persists.id, sameInput]
  refine ⟨later, laterMember, laterInput, laterIsInput, persists.id, sameInput, ?_⟩
  rw [← offered?_source_connect unused made]
  exact (editedRegular.carried?_of_link laterMember laterIsInput isLink laterTarget).2

/-- If nothing wider than `vec2` comes into a node, then none of its inputs is widened. -/
theorem cast_eq_zero_of_narrow (regular : graph.Regular) (member : node ∈ graph.nodes.toList)
    (isInput : port ∈ node.inputs)
    (narrow : port.shape = .vec2 →
      ∀ shape, some shape ∈ graph.incoming node → shape.rank ≤ Shape.vec2.rank) :
    port.cast = 0 := by
  obtain ⟨locked, arithmetic⟩ := (regular.standard node member).isArithmetic isInput
  cases locked with
  | true => exact (regular.settled.declared node member true arithmetic).inputCasts rfl port isInput
  | false =>
      obtain ⟨output, isOnly, isResult⟩ := regular.shape_output member arithmetic
      have first : node.outputs.head? = some output := by rw [isOnly, List.head?_cons]
      rw [regular.castsFollow member arithmetic output first port isInput, Port.dueCast]
      split_ifs with isVec2
      · rw [isResult]
        exact Shape.castWidth?_of_rank_le (Snapshot.rank_result_told_le
          (regular.definite.incoming member) (narrow isVec2))
      · rfl

end Regular

/--
Take a run that adds nodes of the catalogue of arithmetic under new identifiers, an
input without a link whose shape accepts that of some output, and a link from this
output that is made into this input.  Then the input has the shape of the output, which
is still what it was, and it is not widened.
-/
theorem cast_of_accepted_shape (name : String) (settings : Settings) (edits : List Edit)
    (novel : (blank name settings).NovelRun edits)
    (adds : ∀ edit ∈ edits, edit.AddsFrom .arithmetic) :
    let graph := ((blank name settings).run edits).value.1
    ∀ consumer ∈ graph.nodes.toList, ∀ input ∈ consumer.inputs,
      ¬ graph.Linked ⟨consumer.id, input.id⟩ →
    ∀ producer ∈ graph.nodes.toList, ∀ output ∈ producer.outputs,
      input.accepts output.shape = true →
    ∀ link : Link, link.id ∉ graph.links.keys → link.source = ⟨producer.id, output.id⟩ →
      link.target = ⟨consumer.id, input.id⟩ →
      (graph.perform (.connect link)).value.2 = .connected link.id →
      let edited := (graph.perform (.connect link)).value.1
      edited.node? producer.id = some producer ∧
      ∃ later laterInput, edited.node? consumer.id = some later ∧
        later.port? input.id = some laterInput ∧ laterInput.shape = output.shape ∧
        laterInput.cast = 0 := by
  intro graph consumer member input isInput unlinked producer producerMember output isOutput
    accepted link unused source target made edited
  obtain ⟨⟨regular, -⟩, -⟩ := NovelRun.regular name settings novel adds
  have connects : (Edit.connect link).Novel graph := unused
  have editedRegular : edited.Regular := (regular.perform connects trivial).value.1
  have producerFound : graph.node? producer.id = some producer := node?_of_mem producerMember
  have offered : graph.offered? link.source = some output.shape := by
    rw [offered?, source, producerFound, Option.bind_some, port?_of_mem
      regular.settled.wired.distinct producerMember (List.mem_append_right _ isOutput),
      Option.map_some]
  obtain ⟨later, laterMember, laterInput, laterIsInput, sameId, sameInput, carried⟩ :=
    regular.exists_input_connect unused made member isInput target
  have sameShape : laterInput.shape = output.shape :=
    Option.some.inj (carried.symm.trans offered)
  refine ⟨?_, later, laterInput, sameId ▸ node?_of_mem laterMember, ?_, sameShape, ?_⟩
  · have kept := node?_source_connect unused made
    rw [source] at kept
    exact kept.trans producerFound
  · rw [← sameInput]
    exact port?_of_mem editedRegular.settled.wired.distinct laterMember
      (List.mem_append_left _ laterIsInput)
  · refine editedRegular.cast_eq_zero_of_narrow laterMember laterIsInput ?_
    intro isVec2 shape isIncoming
    have outputVec2 : output.shape = .vec2 := sameShape.symm.trans isVec2
    rcases regular.mem_incoming_connect unused made member (congrArg Endpoint.node target)
      laterMember sameId isIncoming with isOld | isNew
    · obtain ⟨locked, hint⟩ := regular.placeholder_of_no_link member isInput unlinked
      rw [Port.accepts, hint, outputVec2] at accepted
      exact Snapshot.rank_le_of_accepts (regular.definite.incoming member) accepted isOld
    · rw [offered, outputVec2] at isNew
      rw [← Option.some.inj isNew]

end Graph

namespace Sample

/-- Edits that wire a vector of two components into the blend. -/
def narrowBlending : List Edit :=
  [ .add plane, .add blend,
    .connect ⟨⟨.ofNat 1⟩, ⟨⟨.ofNat 6⟩, ⟨.ofNat 80⟩⟩, ⟨⟨.ofNat 9⟩, ⟨.ofNat 110⟩⟩⟩ ]

theorem addsFrom_narrowBlending : ∀ edit ∈ narrowBlending, edit.AddsFrom .arithmetic := by
  simp only [narrowBlending, List.forall_mem_cons]
  refine ⟨Catalogue.offers_instantiate ?_ _ _, Catalogue.offers_instantiate ?_ _ _, trivial, nofun⟩
  all_goals decide +kernel

def hinted : Link :=
  ⟨⟨.ofNat 2⟩, ⟨⟨.ofNat 6⟩, ⟨.ofNat 80⟩⟩, ⟨⟨.ofNat 9⟩, ⟨.ofNat 111⟩⟩⟩

/-- The hint at the second input of the blend is that a vector like the first one will do. -/
theorem cast_of_hinted :
    let graph := ((Graph.blank "Blending" {}).run narrowBlending).value.1
    (Graph.blank "Blending" {}).NovelRun narrowBlending ∧
      (∀ edit ∈ narrowBlending, edit.AddsFrom .arithmetic) ∧
      ∃ consumer ∈ graph.nodes.toList, ∃ input ∈ consumer.inputs,
        input.shape = .scalarOrVec2 ∧ ¬ graph.Linked ⟨consumer.id, input.id⟩ ∧
        (graph.perform (.connect hinted)).value.2 = .connected hinted.id ∧
        ∃ later laterInput,
          (graph.perform (.connect hinted)).value.1.node? consumer.id = some later ∧
          later.port? input.id = some laterInput ∧ laterInput.shape = .vec2 ∧
          laterInput.cast = 0 := by
  intro graph
  have novel : (Graph.blank "Blending" {}).NovelRun narrowBlending := by decide +kernel
  have present : ∃ consumer ∈ graph.nodes.toList, ∃ input ∈ consumer.inputs,
      hinted.target = ⟨consumer.id, input.id⟩ ∧ input.shape = .scalarOrVec2 ∧
      ∀ link ∈ graph.links.toList, link.target ≠ ⟨consumer.id, input.id⟩ := by
    decide +kernel
  have offering : ∃ producer ∈ graph.nodes.toList, ∃ output ∈ producer.outputs,
      hinted.source = ⟨producer.id, output.id⟩ ∧ output.shape = .vec2 := by
    decide +kernel
  have unused : hinted.id ∉ graph.links.keys := by decide +kernel
  have made : (graph.perform (.connect hinted)).value.2 = .connected hinted.id := by
    decide +kernel
  obtain ⟨consumer, member, input, isInput, target, hint, empty⟩ := present
  obtain ⟨producer, producerMember, output, isOutput, source, isVec2⟩ := offering
  have unlinked : ¬ graph.Linked ⟨consumer.id, input.id⟩ :=
    fun ⟨link, isLink, sameTarget⟩ => empty link isLink sameTarget
  have accepted : input.accepts output.shape = true := by
    rw [Port.accepts, hint, isVec2]
    rfl
  obtain ⟨-, later, laterInput, found, foundInput, sameShape, narrow⟩ :=
    Graph.cast_of_accepted_shape "Blending" {} narrowBlending novel addsFrom_narrowBlending
      consumer member input isInput unlinked producer producerMember output isOutput accepted
      hinted unused source target made
  exact ⟨novel, addsFrom_narrowBlending, consumer, member, input, isInput, hint, unlinked, made,
    later, laterInput, found, foundInput, sameShape.trans isVec2, narrow⟩

end Sample

end DataflowTyping
