import DataflowTyping.Proofs.Reachability
import Mathlib.Data.List.Nodup
import Mathlib.Logic.Function.Iterate

/-!
# The rounds of a search

A search goes from stage to stage.  In each round one vertex leaves the queue,
and the vertices that enter it are those that are collected, so that as many
rounds are behind a search as it has collected vertices that do not wait any
more.  Vertices that have been collected are not met a second time.  Hence every
vertex leaves the queue once, and a search is over after as many rounds as there
are vertices to collect, also where links run in a circle.
-/

namespace DataflowTyping

open Relation

namespace Search

variable {Vertex : Type}

theorem nodup_eraseDups [DecidableEq Vertex] (vertices : List Vertex) :
    vertices.eraseDups.Nodup := by
  match vertices with
  | [] => simp
  | vertex :: rest =>
      rw [List.eraseDups_cons, List.nodup_cons]
      constructor
      · simp [List.mem_eraseDups]
      · exact nodup_eraseDups _
termination_by vertices.length
decreasing_by exact Nat.lt_succ_of_le (List.length_filter_le _ _)

/-- What a search has before it between two rounds. -/
structure Stage (Vertex : Type) where
  unreached : List Vertex
  reached : List Vertex
  queue : List Vertex

/-- One round of a search; nothing happens once the queue is empty. -/
def Stage.round (next : Vertex → Vertex → Bool) (stage : Stage Vertex) : Stage Vertex :=
  match stage.queue with
  | [] => stage
  | current :: waiting =>
      let parted := stage.unreached.partition (next current)
      ⟨parted.2, stage.reached ++ parted.1, waiting ++ parted.1⟩

variable (next : Vertex → Vertex → Bool)

/-- A search comes to its end, having dequeued once whatever was queued or newly collected. -/
theorem exists_last_round (unreached reached queue : List Vertex) :
    ∃ rounds,
      rounds + reached.length = (spread next unreached reached queue).length + queue.length ∧
      ((Stage.round next)^[rounds] ⟨unreached, reached, queue⟩).queue = [] ∧
      ((Stage.round next)^[rounds] ⟨unreached, reached, queue⟩).reached =
        spread next unreached reached queue ∧
      ∀ fewer < rounds, ((Stage.round next)^[fewer] ⟨unreached, reached, queue⟩).queue ≠ [] := by
  fun_induction spread next unreached reached queue with
  | case1 unreached reached =>
      exact ⟨0, by simp, rfl, rfl, fun fewer none => absurd none (Nat.not_lt_zero fewer)⟩
  | case2 unreached reached current waiting parted ih =>
      obtain ⟨rounds, count, finished, collected, before⟩ := ih
      have first : Stage.round next ⟨unreached, reached, current :: waiting⟩ =
          ⟨parted.2, reached ++ parted.1, waiting ++ parted.1⟩ := rfl
      refine ⟨rounds + 1, ?_, ?_, ?_, ?_⟩
      · simp only [List.length_append, List.length_cons] at count ⊢
        omega
      · rw [Function.iterate_succ_apply, first, finished]
      · rw [Function.iterate_succ_apply, first, collected]
      · intro fewer isFewer
        cases fewer with
        | zero => exact List.cons_ne_nil current waiting
        | succ fewer =>
            rw [Function.iterate_succ_apply, first]
            exact before fewer (Nat.lt_of_succ_lt_succ isFewer)

variable {next}

/-- Nothing is collected twice, since a round moves vertices out of those not yet reached. -/
theorem nodup_spread {unreached reached : List Vertex} (queue : List Vertex)
    (distinct : (unreached ++ reached).Nodup) : (spread next unreached reached queue).Nodup := by
  fun_induction spread next unreached reached queue with
  | case1 unreached reached => exact distinct.of_append_right
  | case2 unreached reached current waiting parted ih =>
      apply ih
      have moved : (parted.2 ++ (reached ++ parted.1)).Perm (unreached ++ reached) := by
        have whole : (parted.1 ++ parted.2).Perm unreached := by
          simp only [parted, List.partition_eq_filter_filter]
          exact List.filter_append_perm (next current) unreached
        calc
          List.Perm _ (reached ++ parted.1 ++ parted.2) := List.perm_append_comm
          _ = reached ++ (parted.1 ++ parted.2) := List.append_assoc _ _ _
          List.Perm _ (reached ++ unreached) := whole.append_left reached
          List.Perm _ (unreached ++ reached) := List.perm_append_comm
      exact moved.nodup_iff.mpr distinct

end Search

namespace Graph

/-- What a search for the nodes downstream of a node starts with. -/
def outset (graph : Graph) (start : NodeId) : Search.Stage NodeId where
  unreached := (graph.links.toList.map (·.target.node)).eraseDups.filter fun node => node ≠ start
  reached := [start]
  queue := [start]

/-- Where the search for the nodes downstream of a node is after some rounds. -/
def searched (graph : Graph) (start : NodeId) (rounds : Nat) : Search.Stage NodeId :=
  (Search.Stage.round fun producer consumer => consumer ∈ graph.consumersOf producer)^[rounds]
    (graph.outset start)

theorem nodup_downstream (graph : Graph) (start : NodeId) : (graph.downstream start).Nodup := by
  apply Search.nodup_spread
  rw [List.nodup_append]
  refine ⟨(Search.nodup_eraseDups _).filter _, List.nodup_singleton start, ?_⟩
  rintro node isTarget other isStart rfl
  rw [List.mem_singleton.mp isStart] at isTarget
  simpa using (List.mem_filter.mp isTarget).2

/--
Whatever links there are, and whether or not the node is there, the search for the
nodes downstream of it is over after one round for each node that it collects,
and not before.  It collects every node once, and exactly those to which a path
of links leads, including the path without links.
-/
theorem searched_downstream (graph : Graph) (start : NodeId) :
    let found := graph.downstream start
    (graph.searched start found.length).queue = [] ∧
    (graph.searched start found.length).reached = found ∧
    (∀ rounds < found.length, (graph.searched start rounds).queue ≠ []) ∧
    found.Nodup ∧
    ∀ node, node ∈ found ↔ ReflTransGen graph.Feeds start node := by
  intro found
  obtain ⟨rounds, count, finished, collected, before⟩ := Search.exists_last_round
    (fun producer consumer => consumer ∈ graph.consumersOf producer)
    (graph.outset start).unreached [start] [start]
  have isCount : rounds = found.length := Nat.add_right_cancel count
  rw [isCount] at finished collected before
  exact ⟨finished, collected, before, nodup_downstream graph start, fun _ => mem_downstream⟩

end Graph

namespace Sample

def ring : Graph where
  links :=
    let join (number source target : Nat) : Link :=
      ⟨⟨.ofNat number⟩, ⟨⟨.ofNat source⟩, ⟨.zero⟩⟩, ⟨⟨.ofNat target⟩, ⟨.zero⟩⟩⟩
    [join 1 1 2, join 2 1 2, join 3 2 3, join 4 3 2].foldl Keyed.insert .empty

/-- The search goes around the circle once, and is over after a round for each of three nodes. -/
theorem searched_ring :
    let start : NodeId := ⟨.ofNat 1⟩
    ¬ ring.Acyclic ∧ ring.downstream start = [start, ⟨.ofNat 2⟩, ⟨.ofNat 3⟩] ∧
      (ring.searched start 3).queue = [] ∧ (ring.searched start 2).queue ≠ [] ∧
      ReflTransGen ring.Feeds start ⟨.ofNat 3⟩ := by
  intro start
  have found : ring.downstream start = [start, ⟨.ofNat 2⟩, ⟨.ofNat 3⟩] := by decide +kernel
  obtain ⟨finished, -, before, -, isPath⟩ := Graph.searched_downstream ring start
  rw [found] at finished before isPath
  exact ⟨by decide +kernel, found, finished, before 2 (by decide), (isPath _).mp (by simp)⟩

end Sample

end DataflowTyping
