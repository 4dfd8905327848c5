import DataflowTyping.Proofs.Reachability
import Mathlib.Data.List.Nodup

/-!
# The order of refreshes

If links never run in a circle, then the search for an order succeeds.  It lists
every node once, and each after its producers.  The vertices that a search is in
the middle of are exactly those that are not free; an invariant says that they
all come later than the vertex to be visited next, so that meeting one of them
would close a circle.
-/

namespace DataflowTyping

open Relation

namespace Search

variable {Vertex : Type} {before : Vertex → List Vertex}

/-- One vertex has to come before another. -/
def Precedes (before : Vertex → List Vertex) (earlier later : Vertex) : Prop :=
  earlier ∈ before later

/-- Lists that grew vertex by vertex, each new and after all that has to come before it. -/
inductive Sorted (before : Vertex → List Vertex) : List Vertex → Prop
  | nil : Sorted before []
  | concat {listed : List Vertex} {vertex : Vertex} (sorted : Sorted before listed)
      (fresh : vertex ∉ listed) (preceded : before vertex ⊆ listed) :
      Sorted before (listed ++ [vertex])

namespace Sorted

variable {order : List Vertex}

theorem nodup (sorted : Sorted before order) : order.Nodup := by
  induction sorted with
  | nil => exact List.nodup_nil
  | concat _ fresh _ ih =>
      rw [← List.concat_eq_append]
      exact List.Nodup.concat fresh ih

theorem mem_of_precedes (sorted : Sorted before order) {earlier later : Vertex}
    (precedes : Precedes before earlier later) (member : later ∈ order) : earlier ∈ order := by
  induction sorted with
  | nil => exact absurd member List.not_mem_nil
  | concat _ _ preceded ih =>
      rcases List.mem_append.mp member with old | new
      · exact List.mem_append_left _ (ih old)
      · rw [List.mem_singleton.mp new] at precedes
        exact List.mem_append_left _ (preceded precedes)

/-- What a vertex takes over from all that has to come before it holds along a sorted list. -/
theorem forall_mem {holds : Vertex → Prop} (sorted : Sorted before order)
    (step : ∀ vertex, (∀ earlier, Precedes before earlier vertex → holds earlier) → holds vertex) :
    ∀ vertex ∈ order, holds vertex := by
  induction sorted with
  | nil => exact fun vertex member => absurd member List.not_mem_nil
  | @concat listed last _ _ preceded ih =>
      intro vertex member
      rcases List.mem_append.mp member with old | new
      · exact ih vertex old
      · rw [List.mem_singleton.mp new]
        exact step last fun earlier precedes => ih earlier (preceded precedes)

/-- In a sorted list every vertex stands behind all that has to come before it. -/
theorem idxOf_lt_idxOf [DecidableEq Vertex] (sorted : Sorted before order)
    {earlier later : Vertex} (precedes : Precedes before earlier later) (member : later ∈ order) :
    order.idxOf earlier < order.idxOf later := by
  induction sorted with
  | nil => exact absurd member List.not_mem_nil
  | @concat listed vertex sorted fresh preceded ih =>
      by_cases old : later ∈ listed
      · have earlierOld := sorted.mem_of_precedes precedes old
        rw [List.idxOf_append_of_mem old, List.idxOf_append_of_mem earlierOld]
        exact ih old
      · have isNew : later = vertex :=
          List.mem_singleton.mp ((List.mem_append.mp member).resolve_left old)
        subst isNew
        have earlierOld : earlier ∈ listed := preceded precedes
        rw [List.idxOf_append_of_mem earlierOld, List.idxOf_append_of_notMem old]
        exact Nat.lt_of_lt_of_le (List.idxOf_lt_length_of_mem earlierOld) (Nat.le_add_right _ _)

end Sorted

theorem mem_of_path {everything : List Vertex}
    (closed : ∀ vertex ∈ everything, before vertex ⊆ everything)
    {earlier later : Vertex} (path : ReflTransGen (Precedes before) earlier later)
    (inside : later ∈ everything) : earlier ∈ everything := by
  induction path using ReflTransGen.head_induction_on with
  | refl => exact inside
  | head precedes _ ih => exact closed _ ih precedes

/-- From no vertex of a sorted list a path leads to an earlier one. -/
theorem Sorted.pairwise {order : List Vertex} (sorted : Sorted before order) :
    order.Pairwise fun earlier later => ¬ TransGen (Precedes before) later earlier := by
  induction sorted with
  | nil => exact List.Pairwise.nil
  | concat sorted fresh _ ih =>
      rw [List.pairwise_append]
      refine ⟨ih, List.pairwise_singleton _ _, ?_⟩
      intro earlier isListed later isLast path
      rw [List.mem_singleton.mp isLast] at path
      apply fresh
      exact mem_of_path (fun _ member _ precedes => sorted.mem_of_precedes precedes member)
        path.to_reflTransGen isListed

/--
A search that started from `listed` ended with a sorted list, which keeps what
was listed, holds the goals, and has nothing else but what comes before a goal.
-/
def Succeeds (before : Vertex → List Vertex) (listed goals : List Vertex)
    (result : Option (List Vertex)) : Prop :=
  ∃ order, result = some order ∧ Sorted before order ∧ listed ⊆ order ∧ goals ⊆ order ∧
    ∀ vertex ∈ order, vertex ∈ listed ∨
      ∃ goal ∈ goals, ReflTransGen (Precedes before) vertex goal

variable [DecidableEq Vertex] {everything free listed : List Vertex}

theorem succeeds_foldlM {goals : List Vertex}
    (visits : ∀ goal ∈ goals, ∀ listed, Sorted before listed →
      Succeeds before listed [goal] (visit? before free listed goal))
    (sorted : Sorted before listed) :
    Succeeds before listed goals (goals.foldlM (visit? before free) listed) := by
  induction goals generalizing listed with
  | nil =>
      exact ⟨listed, rfl, sorted, List.Subset.refl _, List.nil_subset _, fun _ => Or.inl⟩
  | cons goal goals ih =>
      obtain ⟨middle, visited, middleSorted, kept, reached, firstOrigin⟩ :=
        visits goal List.mem_cons_self listed sorted
      obtain ⟨order, folded, orderSorted, middleKept, goalsReached, laterOrigin⟩ :=
        ih (fun other member => visits other (List.mem_cons_of_mem _ member)) middleSorted
      refine ⟨order, ?_, orderSorted, List.Subset.trans kept middleKept, ?_, ?_⟩
      · rw [List.foldlM_cons, visited]
        exact folded
      · exact List.cons_subset.mpr ⟨middleKept (reached List.mem_cons_self), goalsReached⟩
      · intro vertex member
        rcases laterOrigin vertex member with early | ⟨other, otherMember, path⟩
        · rcases firstOrigin vertex early with old | ⟨only, isGoal, path⟩
          · exact Or.inl old
          · exact Or.inr ⟨goal, List.mem_cons_self, List.mem_singleton.mp isGoal ▸ path⟩
        · exact Or.inr ⟨other, List.mem_cons_of_mem _ otherMember, path⟩

/-- A visit succeeds if whatever is not free comes later than the visited vertex. -/
theorem succeeds_visit? (acyclic : ∀ vertex, ¬ TransGen (Precedes before) vertex vertex)
    (closed : ∀ vertex ∈ everything, before vertex ⊆ everything)
    {vertex : Vertex} (inside : vertex ∈ everything)
    (busy : ∀ other ∈ everything, other ∉ free → TransGen (Precedes before) vertex other)
    (sorted : Sorted before listed) :
    Succeeds before listed [vertex] (visit? before free listed vertex) := by
  -- Going deeper takes a vertex out of `free`, so the induction is on the length of that list.
  induction size : free.length using Nat.strongRecOn generalizing free listed vertex with
  | ind size ih =>
      subst size
      rw [visit?]
      by_cases isListed : vertex ∈ listed
      · rw [if_pos isListed]
        exact ⟨listed, rfl, sorted, List.Subset.refl _,
          List.cons_subset.mpr ⟨isListed, List.nil_subset _⟩, fun _ => Or.inl⟩
      have isFree : vertex ∈ free := by
        by_contra isBusy
        exact acyclic vertex (busy vertex inside isBusy)
      rw [if_neg isListed, if_pos isFree]
      have deeper : ∀ earlier ∈ before vertex, ∀ listed, Sorted before listed →
          Succeeds before listed [earlier]
            (visit? before (without free vertex) listed earlier) := by
        intro earlier precedes listed sorted
        refine ih _ (length_without_lt isFree) (closed vertex inside precedes) ?_ sorted rfl
        intro other otherInside isBusy
        by_cases isVertex : other = vertex
        · exact isVertex ▸ TransGen.single precedes
        · have otherBusy : other ∉ free := fun otherFree =>
            isBusy (mem_without.mpr ⟨otherFree, isVertex⟩)
          exact TransGen.head precedes (busy other otherInside otherBusy)
      obtain ⟨middle, folded, middleSorted, kept, reached, origin⟩ :=
        succeeds_foldlM deeper sorted
      -- The vertex was not listed on the way, because only earlier vertices were.
      have fresh : vertex ∉ middle := by
        intro member
        obtain ⟨earlier, precedes, path⟩ := (origin vertex member).resolve_left isListed
        exact acyclic vertex (TransGen.tail' path precedes)
      refine ⟨middle ++ [vertex], ?_, middleSorted.concat fresh reached,
        List.subset_append_of_subset_left _ kept, List.subset_append_right _ _, ?_⟩
      · rw [folded]
        rfl
      · intro other member
        rcases List.mem_append.mp member with early | isVertex
        · rcases origin other early with old | ⟨earlier, precedes, path⟩
          · exact Or.inl old
          · exact Or.inr ⟨vertex, List.mem_cons_self, path.tail precedes⟩
        · rw [List.mem_singleton.mp isVertex]
          exact Or.inr ⟨vertex, List.mem_cons_self, ReflTransGen.refl⟩

/-- Without circles a postorder exists, and it lists just what is wanted and what comes before. -/
theorem succeeds_postorder? (acyclic : ∀ vertex, ¬ TransGen (Precedes before) vertex vertex)
    (closed : ∀ vertex ∈ free, before vertex ⊆ free) {vertices : List Vertex}
    (within : vertices ⊆ free) :
    Succeeds before [] vertices (postorder? before free vertices) := by
  refine succeeds_foldlM (fun goal member listed sorted => ?_) Sorted.nil
  exact succeeds_visit? acyclic closed (within member)
    (fun other inside isBusy => absurd inside isBusy) sorted

end Search

namespace Graph

variable {graph : Graph}

/-- Both ends of every link are nodes of the graph. -/
def Joined (graph : Graph) : Prop :=
  ∀ link ∈ graph.links.toList,
    link.source.node ∈ graph.nodes.keys ∧ link.target.node ∈ graph.nodes.keys

/-- An order of the nodes, each of them once and after its producers. -/
structure Orders (graph : Graph) (order : List NodeId) : Prop where
  sorted : Search.Sorted graph.producersOf order
  mem_iff : ∀ node, node ∈ order ↔ node ∈ graph.nodes.keys

theorem precedes_producersOf : Search.Precedes graph.producersOf = graph.Feeds := by
  funext producer consumer
  exact propext mem_producersOf

/-- Without circles the search for an order of the nodes finds one. -/
theorem Joined.exists_order (joined : graph.Joined) (acyclic : graph.Acyclic) :
    ∃ order, graph.order? = some order ∧ graph.Orders order := by
  have fromKeys : ∀ node, graph.producersOf node ⊆ graph.nodes.keys := by
    intro node producer produces
    obtain ⟨link, member, source, -⟩ := mem_producersOf.mp produces
    exact source ▸ (joined link member).1
  have noCircle : ∀ node, ¬ TransGen (Search.Precedes graph.producersOf) node node := by
    rw [precedes_producersOf]
    exact acyclic
  have succeeds : Search.Succeeds graph.producersOf [] graph.nodes.keys graph.order? :=
    Search.succeeds_postorder? noCircle
      (fun node _ => List.subset_append_of_subset_left _ (fromKeys node))
      (List.subset_append_left _ _)
  obtain ⟨order, found, sorted, -, reached, origin⟩ := succeeds
  refine ⟨order, found, sorted, fun node => ⟨fun member => ?_, fun key => reached key⟩⟩
  obtain ⟨goal, key, path⟩ := (origin node member).resolve_left List.not_mem_nil
  exact Search.mem_of_path (fun node _ => fromKeys node) path key

end Graph

end DataflowTyping
