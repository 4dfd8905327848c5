/-!
# Depth-first search

`visit?` lists a vertex after everything that has to come before it, and fails if
that runs in a circle.  A vertex is `free` as long as the search is not in the
middle of listing what comes before it, so that going deeper makes the free
vertices fewer.
-/

namespace DataflowTyping

namespace Search

variable {Vertex : Type} [DecidableEq Vertex]

def without (vertices : List Vertex) (vertex : Vertex) : List Vertex :=
  vertices.filter fun other => other ≠ vertex

@[simp]
theorem mem_without {vertices : List Vertex} {vertex other : Vertex} :
    other ∈ without vertices vertex ↔ other ∈ vertices ∧ other ≠ vertex := by
  simp [without]

/-- Taking out a member makes a list shorter. -/
theorem length_without_lt {vertices : List Vertex} {vertex : Vertex}
    (member : vertex ∈ vertices) : (without vertices vertex).length < vertices.length := by
  rw [without, List.length_filter_lt_length_iff_exists]
  exact ⟨vertex, member, by simp⟩

/--
Extend `listed` by a vertex that is not in it, after what `before` gives for the
vertex.  There is no such order if the vertex is neither listed nor free.
-/
def visit? (before : Vertex → List Vertex) (free listed : List Vertex) (vertex : Vertex) :
    Option (List Vertex) :=
  if vertex ∈ listed then some listed
  else if vertex ∈ free then
    ((before vertex).foldlM (visit? before (without free vertex)) listed).map (· ++ [vertex])
  else none
termination_by free.length
decreasing_by exact length_without_lt ‹_›

/-- List vertices from left to right, each after what has to come before it. -/
def postorder? (before : Vertex → List Vertex) (free vertices : List Vertex) :
    Option (List Vertex) :=
  vertices.foldlM (visit? before free) []

end Search

end DataflowTyping
