import DataflowTyping.Graph.Traversal
import Mathlib.Logic.Relation

/-!
# What lies downstream

The nodes that a search from a node collects are exactly those to which a path
of links leads.  A search is sound because everything it collects was led to by
something collected before.  It is complete because a vertex leaves the queue
only when all its successors have been collected.
-/

namespace DataflowTyping

open Relation

namespace Search

variable {Vertex : Type} {next : Vertex → Vertex → Bool}
  {unreached reached queue : List Vertex}

/-- The invariant of a search: only queued vertices may have successors not yet collected. -/
structure Spreading (next : Vertex → Vertex → Bool) (unreached reached queue : List Vertex) :
    Prop where
  queued : ∀ vertex ∈ queue, vertex ∈ reached
  expanded : ∀ vertex ∈ reached, vertex ∉ queue →
    ∀ successor, next vertex successor = true → successor ∈ reached
  known : ∀ vertex successor, next vertex successor = true →
    successor ∈ unreached ∨ successor ∈ reached

/-- One round of the search keeps the invariant. -/
theorem Spreading.advance {current : Vertex} {waiting : List Vertex}
    (spreading : Spreading next unreached reached (current :: waiting)) :
    Spreading next (unreached.partition (next current)).2
      (reached ++ (unreached.partition (next current)).1)
      (waiting ++ (unreached.partition (next current)).1) := by
  simp only [List.partition_eq_filter_filter]
  constructor
  case queued =>
    intro vertex queued
    rcases List.mem_append.mp queued with waits | found
    · exact List.mem_append_left _ (spreading.queued _ (List.mem_cons_of_mem _ waits))
    · exact List.mem_append_right _ found
  case expanded =>
    intro vertex collected unqueued successor leads
    rw [List.mem_append, not_or] at unqueued
    have old : vertex ∈ reached := (List.mem_append.mp collected).resolve_right unqueued.2
    by_cases isCurrent : vertex = current
    · subst isCurrent
      rcases spreading.known _ _ leads with fresh | known
      · exact List.mem_append_right _ (List.mem_filter.mpr ⟨fresh, leads⟩)
      · exact List.mem_append_left _ known
    · have notQueued : vertex ∉ current :: waiting := by
        rw [List.mem_cons, not_or]
        exact ⟨isCurrent, unqueued.1⟩
      exact List.mem_append_left _ (spreading.expanded _ old notQueued _ leads)
  case known =>
    intro vertex successor leads
    rcases spreading.known _ _ leads with fresh | known
    · by_cases taken : next current successor = true
      · exact Or.inr (List.mem_append_right _ (List.mem_filter.mpr ⟨fresh, taken⟩))
      · exact Or.inl (List.mem_filter.mpr ⟨fresh, by simpa using taken⟩)
    · exact Or.inr (List.mem_append_left _ known)

theorem subset_spread (next : Vertex → Vertex → Bool) (unreached reached queue : List Vertex) :
    reached ⊆ spread next unreached reached queue := by
  intro vertex collected
  fun_induction spread next unreached reached queue with
  | case1 => exact collected
  | case2 unreached reached current waiting parted ih =>
      exact ih (List.mem_append_left _ collected)

theorem Spreading.closed (spreading : Spreading next unreached reached queue) :
    ∀ vertex ∈ spread next unreached reached queue,
      ∀ successor, next vertex successor = true →
        successor ∈ spread next unreached reached queue := by
  fun_induction spread next unreached reached queue with
  | case1 => exact fun vertex collected => spreading.expanded vertex collected (by simp)
  | case2 unreached reached current waiting parted ih => exact ih spreading.advance

/-- A search collects nothing but what paths lead to from what was collected at its start. -/
theorem exists_path_of_mem_spread {found : Vertex} (queued : queue ⊆ reached)
    (collected : found ∈ spread next unreached reached queue) :
    ∃ origin ∈ reached, ReflTransGen (fun vertex successor => next vertex successor = true)
      origin found := by
  fun_induction spread next unreached reached queue with
  | case1 => exact ⟨found, collected, ReflTransGen.refl⟩
  | case2 unreached reached current waiting parted ih =>
      have stillQueued : waiting ++ parted.1 ⊆ reached ++ parted.1 :=
        List.append_subset.mpr
          ⟨List.subset_append_of_subset_left _ fun vertex waits =>
            queued (List.mem_cons_of_mem _ waits), List.subset_append_right _ _⟩
      obtain ⟨origin, fromReached, path⟩ := ih stillQueued collected
      rcases List.mem_append.mp fromReached with old | new
      · exact ⟨origin, old, path⟩
      · -- A newly collected vertex was led to by the head of the queue.
        have leads : next current origin = true := by
          simp only [parted, List.partition_eq_filter_filter, List.mem_filter] at new
          exact new.2
        exact ⟨current, queued List.mem_cons_self, path.head leads⟩

theorem Spreading.mem_of_path (spreading : Spreading next unreached reached queue)
    {vertex target : Vertex} (collected : vertex ∈ reached)
    (path : ReflTransGen (fun vertex successor => next vertex successor = true) vertex target) :
    target ∈ spread next unreached reached queue := by
  induction path with
  | refl => exact subset_spread _ _ _ _ collected
  | tail _ leads ih => exact spreading.closed _ ih _ leads

end Search

namespace Graph

variable {graph : Graph} {producer consumer start node : NodeId}

/-- Some link leads from one node to another. -/
def Feeds (graph : Graph) (producer consumer : NodeId) : Prop :=
  ∃ link ∈ graph.links.toList, link.source.node = producer ∧ link.target.node = consumer

/-- No path of links leads from a node back to it. -/
def Acyclic (graph : Graph) : Prop :=
  ∀ node, ¬ TransGen graph.Feeds node node

theorem mem_consumersOf :
    consumer ∈ graph.consumersOf producer ↔ graph.Feeds producer consumer := by
  simp only [consumersOf, Feeds, List.mem_map, List.mem_filter, decide_eq_true_eq, and_assoc]

theorem mem_producersOf :
    producer ∈ graph.producersOf consumer ↔ graph.Feeds producer consumer := by
  simp only [producersOf, Feeds, List.mem_map, List.mem_filter, decide_eq_true_eq, and_assoc]
  exact exists_congr fun link => and_congr_right fun _ => and_comm

theorem spreading_downstream (graph : Graph) (start : NodeId) :
    Search.Spreading (fun producer consumer => consumer ∈ graph.consumersOf producer)
      ((graph.links.toList.map (·.target.node)).eraseDups.filter fun node => node ≠ start)
      [start] [start] where
  queued := fun _ queued => queued
  expanded := fun _ collected unqueued => absurd collected unqueued
  known := by
    intro producer consumer leads
    rw [decide_eq_true_eq, mem_consumersOf] at leads
    obtain ⟨link, member, -, target⟩ := leads
    by_cases isStart : consumer = start
    · exact Or.inr (List.mem_singleton.mpr isStart)
    · refine Or.inl (List.mem_filter.mpr ⟨?_, by simpa using isStart⟩)
      exact List.mem_eraseDups.mpr (List.mem_map.mpr ⟨link, member, target⟩)

/-- What lies downstream of a node is what paths of links lead to from it. -/
theorem mem_downstream : node ∈ graph.downstream start ↔ ReflTransGen graph.Feeds start node := by
  have sameStep : (fun producer consumer =>
      decide (consumer ∈ graph.consumersOf producer) = true) = graph.Feeds := by
    funext producer consumer
    rw [decide_eq_true_eq, mem_consumersOf]
  constructor
  · intro collected
    obtain ⟨origin, isStart, path⟩ :=
      Search.exists_path_of_mem_spread (List.Subset.refl _) collected
    rw [sameStep, List.mem_singleton.mp isStart] at path
    exact path
  · intro path
    rw [← sameStep] at path
    exact (spreading_downstream graph start).mem_of_path (List.mem_singleton_self _) path

theorem start_mem_downstream (graph : Graph) (start : NodeId) : start ∈ graph.downstream start :=
  mem_downstream.mpr ReflTransGen.refl

theorem mem_downstream_of_feeds (upstream : producer ∈ graph.downstream start)
    (feeds : graph.Feeds producer consumer) : consumer ∈ graph.downstream start :=
  mem_downstream.mpr ((mem_downstream.mp upstream).tail feeds)

/-- Links run in a circle exactly if one of them starts downstream of its end. -/
theorem acyclic_iff :
    graph.Acyclic ↔
      ∀ link ∈ graph.links.toList, link.source.node ∉ graph.downstream link.target.node := by
  constructor
  · intro acyclic link member back
    have feeds : graph.Feeds link.source.node link.target.node := ⟨link, member, rfl, rfl⟩
    exact acyclic _ (TransGen.head' feeds (mem_downstream.mp back))
  · intro noneBack node circle
    obtain ⟨_, ⟨link, member, rfl, rfl⟩, back⟩ := TransGen.head'_iff.mp circle
    exact noneBack link member (mem_downstream.mpr back)

instance (graph : Graph) : Decidable graph.Acyclic :=
  decidable_of_iff _ acyclic_iff.symm

end Graph

end DataflowTyping
