/-!
# Collections with distinct keys, in order of insertion

Nodes, links and node kinds are each kept in a list in which no key occurs
twice.  Inserting an entry whose key is in use puts it in the place of the old
one; any other entry goes to the end.  The list `toList` is the view of a
collection: every operation below is described by what it does to that list.
-/

namespace DataflowTyping

/-- Entries in order of insertion, no two with the same key. -/
structure Keyed {Entry Key : Type} (key : Entry → Key) where
  toList : List Entry
  distinct : (toList.map key).Nodup

namespace Keyed

variable {Entry Key : Type} {key : Entry → Key}

/-- Collections with the same entries in the same order are equal. -/
@[ext]
theorem ext {first second : Keyed key} (sameList : first.toList = second.toList) :
    first = second := by
  cases first
  cases second
  cases sameList
  rfl

instance [DecidableEq Entry] : DecidableEq (Keyed key) := fun first second =>
  decidable_of_iff (first.toList = second.toList) ⟨ext, congrArg toList⟩

def empty : Keyed key :=
  ⟨[], List.nodup_nil⟩

@[simp]
theorem toList_empty : (empty : Keyed key).toList = [] :=
  rfl

def keys (entries : Keyed key) : List Key :=
  entries.toList.map key

def size (entries : Keyed key) : Nat :=
  entries.toList.length

def filter (keep : Entry → Bool) (entries : Keyed key) : Keyed key :=
  ⟨entries.toList.filter keep,
    entries.distinct.sublist (List.filter_sublist.map key)⟩

@[simp]
theorem toList_filter (keep : Entry → Bool) (entries : Keyed key) :
    (entries.filter keep).toList = entries.toList.filter keep :=
  rfl

variable [DecidableEq Key]

def find? (entries : Keyed key) (wanted : Key) : Option Entry :=
  entries.toList.find? fun entry => key entry = wanted

/-- Put `entry` in the place of every list member that has its key. -/
def replaceIn (key : Entry → Key) (entry : Entry) (list : List Entry) : List Entry :=
  list.map fun old => if key old = key entry then entry else old

/-- Replacing changes no key. -/
theorem map_key_replaceIn (entry : Entry) (list : List Entry) :
    (replaceIn key entry list).map key = list.map key := by
  simp only [replaceIn, List.map_map]
  apply List.map_congr_left
  intro old _
  by_cases sameKey : key old = key entry <;> simp [sameKey]

/-- Put an entry in the place of the one with its key, or at the end. -/
def insert (entries : Keyed key) (entry : Entry) : Keyed key :=
  if used : key entry ∈ entries.toList.map key then
    ⟨replaceIn key entry entries.toList, by
      rw [map_key_replaceIn]
      exact entries.distinct⟩
  else
    ⟨entries.toList ++ [entry], by
      rw [List.map_append, List.nodup_append]
      refine ⟨entries.distinct, by simp, ?_⟩
      intro old oldMem new newMem same
      apply used
      simp only [List.map_cons, List.map_nil, List.mem_singleton] at newMem
      exact newMem ▸ same ▸ oldMem⟩

theorem toList_insert_of_mem {entries : Keyed key} {entry : Entry}
    (used : key entry ∈ entries.keys) :
    (entries.insert entry).toList = replaceIn key entry entries.toList := by
  simp only [keys] at used
  simp [insert, used]

theorem toList_insert_of_not_mem {entries : Keyed key} {entry : Entry}
    (unused : key entry ∉ entries.keys) :
    (entries.insert entry).toList = entries.toList ++ [entry] := by
  simp only [keys] at unused
  simp [insert, unused]

def erase (entries : Keyed key) (unwanted : Key) : Keyed key :=
  entries.filter fun entry => key entry ≠ unwanted

@[simp]
theorem toList_erase (entries : Keyed key) (unwanted : Key) :
    (entries.erase unwanted).toList =
      entries.toList.filter fun entry => key entry ≠ unwanted :=
  rfl

/-- A found entry is a member and has the wanted key. -/
theorem find?_eq_some_iff {entries : Keyed key} {wanted : Key} {entry : Entry} :
    entries.find? wanted = some entry ↔ entry ∈ entries.toList ∧ key entry = wanted := by
  constructor
  · intro found
    exact ⟨List.mem_of_find?_eq_some found, by simpa using List.find?_some found⟩
  · rintro ⟨member, rfl⟩
    obtain ⟨list, distinct⟩ := entries
    simp only [find?] at member ⊢
    induction list with
    | nil => simp at member
    | cons head tail ih =>
        simp only [List.map_cons, List.nodup_cons] at distinct
        rcases List.mem_cons.mp member with rfl | inTail
        · simp
        · have differs : key head ≠ key entry := fun same =>
            distinct.1 (same ▸ List.mem_map_of_mem inTail)
          simpa [List.find?_cons, differs] using ih distinct.2 inTail

/-- No entry is found exactly when the key is not in use. -/
theorem find?_eq_none_iff {entries : Keyed key} {wanted : Key} :
    entries.find? wanted = none ↔ wanted ∉ entries.keys := by
  simp only [find?, keys, List.find?_eq_none, List.mem_map, decide_eq_true_eq]
  constructor
  · rintro absent ⟨entry, member, same⟩
    exact absent entry member same
  · intro absent entry member same
    exact absent ⟨entry, member, same⟩

end Keyed

end DataflowTyping
