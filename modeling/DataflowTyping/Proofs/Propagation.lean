import DataflowTyping.Catalogue.Arithmetic
import DataflowTyping.Proofs.Settledness
import Mathlib.Data.List.Induction

/-!
# Passes over a graph

A pass refreshes nodes one after the other, producers first.  After a pass over
all nodes that satisfy some test, these are settled.  If the test holds of every
consumer of a node of which it holds, then the other nodes are as settled as
before, and if they all were settled, then the pass did no less than a pass over
all nodes.  The nodes downstream of a node have this closure property, which is
why it is enough to `propagate` after an edit.
-/

namespace DataflowTyping

variable {graph : Graph} {start id : NodeId} {order ids : List NodeId} {chosen : NodeId → Bool}

theorem Traced.value_foldlM {State Item : Type} (step : State → Item → Traced State)
    (state : State) (items : List Item) :
    (items.foldlM step state).value =
      items.foldl (fun state item => (step state item).value) state := by
  induction items generalizing state with
  | nil => rfl
  | cons item items ih =>
      rw [List.foldlM_cons, Traced.value_bind, ih, List.foldl_cons]

namespace Graph

def renewEach (graph : Graph) (ids : List NodeId) : Graph :=
  ids.foldl renew graph

theorem value_refreshEach (graph : Graph) (ids : List NodeId) :
    (graph.refreshEach ids).value = graph.renewEach ids :=
  Traced.value_foldlM _ graph ids

theorem renewEach_concat (graph : Graph) (ids : List NodeId) (id : NodeId) :
    graph.renewEach (ids ++ [id]) = (graph.renewEach ids).renew id := by
  rw [renewEach, List.foldl_append]
  rfl

theorem value_propagate (found : graph.order? = some order) (start : NodeId) :
    (graph.propagate start).value =
      graph.renewEach (order.filter fun id => id ∈ graph.downstream start) := by
  rw [propagate, found]
  exact value_refreshEach _ _

theorem value_refreshAll? (found : graph.order? = some order) :
    graph.refreshAll?.value = some (graph.renewEach order) := by
  rw [refreshAll?, found]
  exact congrArg some (value_refreshEach _ _)

theorem sameFrame_renewEach (graph : Graph) (ids : List NodeId) :
    (graph.renewEach ids).SameFrame graph := by
  induction ids using List.reverseRecOn with
  | nil => exact .refl graph
  | append_singleton ids id ih =>
      rw [renewEach_concat]
      exact (sameFrame_renew _ id).trans ih

theorem node?_renewEach (skipped : id ∉ ids) : (graph.renewEach ids).node? id = graph.node? id := by
  induction ids using List.reverseRecOn with
  | nil => rfl
  | append_singleton ids last ih =>
      rw [List.mem_append, not_or, List.mem_singleton] at skipped
      rw [renewEach_concat, node?_renew, if_neg skipped.2, ih skipped.1]

theorem renewEach_of_settledAt (settledAt : ∀ id, graph.SettledAt id) (ids : List NodeId) :
    graph.renewEach ids = graph := by
  induction ids with
  | nil => rfl
  | cons id ids ih =>
      rw [renewEach, List.foldl_cons, settledAt id]
      exact ih

theorem filter_concat_of_true {listed : List NodeId} (isChosen : chosen id = true) :
    (listed ++ [id]).filter chosen = listed.filter chosen ++ [id] := by
  rw [List.filter_append, List.filter_cons_of_pos isChosen, List.filter_nil]

theorem filter_concat_of_false {listed : List NodeId} (unchosen : chosen id = false) :
    (listed ++ [id]).filter chosen = listed.filter chosen := by
  rw [List.filter_append, List.filter_cons_of_neg (by simp [unchosen]), List.filter_nil,
    List.append_nil]

/-- A pass settles the nodes that it visits. -/
theorem Plugged.settledAt_pass (plugged : graph.Plugged) (acyclic : graph.Acyclic)
    (sorted : Search.Sorted graph.producersOf order) (chosen : NodeId → Bool)
    (member : id ∈ order) (isChosen : chosen id = true) :
    (graph.renewEach (order.filter chosen)).SettledAt id := by
  induction sorted with
  | nil => exact absurd member List.not_mem_nil
  | @concat listed last sorted fresh _ ih =>
      have frame := sameFrame_renewEach graph (listed.filter chosen)
      have stillPlugged := frame.symm.plugged plugged
      cases lastChosen : chosen last with
      | false =>
          have early : id ∈ listed := by
            refine (List.mem_append.mp member).resolve_right fun isLast => ?_
            rw [List.mem_singleton.mp isLast, lastChosen] at isChosen
            exact Bool.false_ne_true isChosen
          rw [filter_concat_of_false lastChosen]
          exact ih early
      | true =>
          rw [filter_concat_of_true lastChosen, renewEach_concat]
          by_cases isLast : id = last
          · rw [isLast]
            exact stillPlugged.settledAt_renew (frame.symm.acyclic acyclic) last
          · have early : id ∈ listed := by
              simpa [isLast] using List.mem_append.mp member
            -- What feeds `id` was listed before it, so `last` does not.
            have notFed : ¬ (graph.renewEach (listed.filter chosen)).Feeds last id := by
              rw [frame.feeds]
              intro feeds
              exact fresh (sorted.mem_of_precedes (mem_producersOf.mpr feeds) early)
            exact (ih early).renew stillPlugged isLast notFed

/-- A pass that visits with a node all its consumers keeps settled what it does not visit. -/
theorem SettledAt.pass (settled : graph.SettledAt id) (plugged : graph.Plugged)
    (closed : ∀ producer consumer, graph.Feeds producer consumer → chosen producer = true →
      chosen consumer = true)
    (unchosen : chosen id = false) (order : List NodeId) :
    (graph.renewEach (order.filter chosen)).SettledAt id := by
  have untouched : ∀ node, chosen node = false →
      (graph.renewEach (order.filter chosen)).node? node = graph.node? node := by
    intro node unchosen
    refine node?_renewEach fun visited => ?_
    rw [(List.mem_filter.mp visited).2] at unchosen
    exact Bool.false_ne_true unchosen.symm
  have frame := (sameFrame_renewEach graph (order.filter chosen)).symm
  refine settled.congr plugged (frame.plugged plugged) (untouched id unchosen).symm
    (congrFun frame.linksInto id) ?_
  intro producer feeds
  refine (untouched producer ?_).symm
  by_contra producerChosen
  rw [closed producer id feeds (by simpa using producerChosen)] at unchosen
  exact Bool.false_ne_true unchosen.symm

/-- A pass need not visit nodes that are settled, if it visits with a node all its consumers. -/
theorem Plugged.renewEach_filter (plugged : graph.Plugged)
    (closed : ∀ producer consumer, graph.Feeds producer consumer → chosen producer = true →
      chosen consumer = true)
    (settled : ∀ id, chosen id = false → graph.SettledAt id) (order : List NodeId) :
    graph.renewEach (order.filter chosen) = graph.renewEach order := by
  induction order using List.reverseRecOn with
  | nil => rfl
  | append_singleton listed last ih =>
      rw [renewEach_concat, ← ih]
      cases lastChosen : chosen last with
      | true => rw [filter_concat_of_true lastChosen, renewEach_concat]
      | false =>
          rw [filter_concat_of_false lastChosen]
          exact ((settled last lastChosen).pass plugged closed lastChosen listed).symm

theorem downstream_closed (graph : Graph) (start : NodeId) :
    ∀ producer consumer, graph.Feeds producer consumer →
      decide (producer ∈ graph.downstream start) = true →
        decide (consumer ∈ graph.downstream start) = true := by
  intro producer consumer feeds upstream
  rw [decide_eq_true_eq] at upstream ⊢
  exact mem_downstream_of_feeds upstream feeds

theorem sameFrame_propagate (graph : Graph) (start : NodeId) :
    (graph.propagate start).value.SameFrame graph := by
  cases found : graph.order? with
  | none =>
      rw [propagate, found]
      exact .refl graph
  | some order =>
      rw [value_propagate found]
      exact sameFrame_renewEach graph _

/-- After `propagate` everything downstream is settled, and all that was settled before. -/
theorem Plugged.settledAt_propagate (plugged : graph.Plugged) (acyclic : graph.Acyclic)
    (concerned : id ∈ graph.downstream start ∨ graph.SettledAt id) :
    (graph.propagate start).value.SettledAt id := by
  obtain ⟨order, found, orders⟩ := plugged.joined.exists_order acyclic
  rw [value_propagate found]
  by_cases affected : id ∈ graph.downstream start
  · by_cases present : id ∈ order
    · exact plugged.settledAt_pass acyclic orders.sorted _ present (by simpa using affected)
    · exact ((sameFrame_renewEach graph _).symm.orders orders).settledAt_of_not_mem present
  · exact (concerned.resolve_left affected).pass plugged (downstream_closed graph start)
      (by simpa using affected) order

/--
If everything that is not downstream of a node is settled, then refreshing what
is downstream of it amounts to refreshing the whole graph.
-/
theorem refreshAll?_eq_propagate (plugged : graph.Plugged) (acyclic : graph.Acyclic)
    (start : NodeId)
    (settled : ∀ id, id ∉ graph.downstream start → (graph.refresh id).value.1 = graph) :
    graph.refreshAll?.value = some (graph.propagate start).value := by
  obtain ⟨order, found, -⟩ := plugged.joined.exists_order acyclic
  rw [value_refreshAll? found, value_propagate found,
    plugged.renewEach_filter (downstream_closed graph start) ?_ order]
  intro id unaffected
  exact settled id (by simpa using unaffected)

/--
Whatever shapes and casts the ports had, after one refresh of all nodes a refresh of
any node changes nothing, and so neither does another one of all nodes.
-/
theorem refreshAll?_settles (plugged : graph.Plugged) (acyclic : graph.Acyclic) :
    ∃ settled, graph.refreshAll?.value = some settled ∧ settled.SameFrame graph ∧
      (∀ id, (settled.refresh id).value.1 = settled) ∧
      settled.refreshAll?.value = some settled := by
  obtain ⟨order, found, orders⟩ := plugged.joined.exists_order acyclic
  have frame := sameFrame_renewEach graph order
  have settledAt : ∀ id, (graph.renewEach order).SettledAt id := by
    intro id
    by_cases listed : id ∈ order
    · simpa using plugged.settledAt_pass acyclic orders.sorted (fun _ => true) listed rfl
    · exact (frame.symm.orders orders).settledAt_of_not_mem listed
  obtain ⟨laterOrder, laterFound, -⟩ :=
    (frame.symm.joined plugged.joined).exists_order (frame.symm.acyclic acyclic)
  refine ⟨graph.renewEach order, value_refreshAll? found, frame, settledAt, ?_⟩
  rw [value_refreshAll? laterFound, renewEach_of_settledAt settledAt]

end Graph

namespace Sample

def vector : Node :=
  (Catalogue.constant "vector3" "Vector 3" .vec3).instantiate ⟨.ofNat 1⟩ fun _ _ => ⟨.ofNat 10⟩

def sum : Node :=
  (Catalogue.componentwise "add" "Add" "A + B" ["A", "B"]).instantiate ⟨.ofNat 2⟩ fun
    | .input, index => ⟨.ofNat (20 + index)⟩
    | .output, _ => ⟨.ofNat 30⟩

def wire (number : Nat) : Link where
  id := ⟨.ofNat number⟩
  source := ⟨⟨.ofNat 1⟩, ⟨.ofNat 10⟩⟩
  target := ⟨⟨.ofNat 2⟩, ⟨.ofNat 20⟩⟩

/-- The sum has not been refreshed since the vector was wired in. -/
def outdated : Graph where
  nodes := (Keyed.empty.insert vector).insert sum
  links := Keyed.empty.insert (wire 1)

/-- It is enough to refresh an outdated sum if its operands are up to date. -/
theorem refreshAll?_outdated :
    outdated.Plugged ∧ outdated.Acyclic ∧ vector.id ∉ outdated.downstream sum.id ∧
      outdated.refreshAll?.value = some (outdated.propagate sum.id).value ∧
      outdated.refreshAll?.value ≠ some outdated := by
  have plugged : outdated.Plugged := by
    refine ⟨?_, ?_, by decide +kernel⟩
    · exact List.forall_mem_singleton.mpr ⟨vector, by decide +kernel, by decide +kernel⟩
    · exact List.forall_mem_singleton.mpr ⟨sum, by decide +kernel, by decide +kernel⟩
  have acyclic : outdated.Acyclic := by decide +kernel
  refine ⟨plugged, acyclic, by decide +kernel, ?_, by decide +kernel⟩
  apply Graph.refreshAll?_eq_propagate plugged acyclic
  intro id unaffected
  have upToDate : ∀ node ∈ outdated.nodes.toList, node.id ∉ outdated.downstream sum.id →
      outdated.renewed node = node := by
    decide +kernel
  refine Graph.settledAt_iff.mpr fun node found => ?_
  exact upToDate node (Graph.mem_of_node? found) (Graph.id_of_node? found ▸ unaffected)

/-- A sum with shapes and casts that nothing accounts for. -/
def garbled : Node :=
  { sum with
    inputs := sum.inputs.map fun port => (port.withShape .vec4).withCast 7
    outputs := sum.outputs.map fun port => port.withShape .vec2 }

/-- The garbled sum stands before the vector that feeds it. -/
def disordered : Graph where
  nodes := (Keyed.empty.insert garbled).insert vector
  links := Keyed.empty.insert (wire 1)

/-- One pass puts the garbled sum right, and a second one has nothing left to do. -/
theorem refreshAll?_disordered :
    disordered.Plugged ∧ disordered.Acyclic ∧ disordered.refreshAll?.value ≠ some disordered ∧
      ∃ settled, disordered.refreshAll?.value = some settled ∧ settled.SameFrame disordered ∧
        (∀ id, (settled.refresh id).value.1 = settled) ∧
        settled.refreshAll?.value = some settled := by
  have plugged : disordered.Plugged := by
    refine ⟨?_, ?_, by decide +kernel⟩
    · exact List.forall_mem_singleton.mpr ⟨vector, by decide +kernel, by decide +kernel⟩
    · exact List.forall_mem_singleton.mpr ⟨garbled, by decide +kernel, by decide +kernel⟩
  have acyclic : disordered.Acyclic := by decide +kernel
  exact ⟨plugged, acyclic, by decide +kernel, Graph.refreshAll?_settles plugged acyclic⟩

end Sample

end DataflowTyping
