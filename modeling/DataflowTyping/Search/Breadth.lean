/-!
# Breadth-first search

`spread` follows a relation from a queue of vertices until nothing new is
found.  Every step takes one vertex from the queue and moves its successors
from the vertices not yet reached to the end of the queue, so that the two
lists together get shorter.
-/

namespace DataflowTyping

namespace Search

variable {Vertex : Type}

/-- Parting a list by a test loses nothing. -/
theorem length_partition (test : Vertex → Bool) (vertices : List Vertex) :
    (vertices.partition test).1.length + (vertices.partition test).2.length =
      vertices.length := by
  induction vertices with
  | nil => rfl
  | cons vertex vertices ih =>
      rw [List.partition_eq_filter_filter] at ih ⊢
      cases tested : test vertex <;> simp [tested] at ih ⊢ <;> omega

/-- Everything in `reached` and what `next` leads to from the queue through `unreached`. -/
def spread (next : Vertex → Vertex → Bool) (unreached reached queue : List Vertex) :
    List Vertex :=
  match queue with
  | [] => reached
  | current :: waiting =>
      let parted := unreached.partition (next current)
      spread next parted.2 (reached ++ parted.1) (waiting ++ parted.1)
termination_by unreached.length + queue.length
decreasing_by
  have parted := length_partition (next current) unreached
  simp only [List.length_append, List.length_cons]
  omega

end Search

end DataflowTyping
