import DataflowTyping.Keyed
import Mathlib.Data.List.Nodup

/-!
# Looking up in a collection

What `find?` gives after an entry was inserted, dropped or filtered, and what
becomes of the keys.
-/

namespace DataflowTyping

namespace Keyed

variable {Entry Key : Type} {key : Entry → Key}

theorem mem_keys {entries : Keyed key} {wanted : Key} :
    wanted ∈ entries.keys ↔ ∃ entry ∈ entries.toList, key entry = wanted :=
  List.mem_map

theorem key_mem_keys {entries : Keyed key} {entry : Entry} (member : entry ∈ entries.toList) :
    key entry ∈ entries.keys :=
  List.mem_map_of_mem member

variable [DecidableEq Key] {entries : Keyed key} {entry other : Entry} {wanted unwanted : Key}

theorem find?_eq_some_of_mem (member : entry ∈ entries.toList) :
    entries.find? (key entry) = some entry :=
  find?_eq_some_iff.mpr ⟨member, rfl⟩

theorem mem_of_find? (found : entries.find? wanted = some entry) : entry ∈ entries.toList :=
  (find?_eq_some_iff.mp found).1

theorem key_of_find? (found : entries.find? wanted = some entry) : key entry = wanted :=
  (find?_eq_some_iff.mp found).2

theorem mem_keys_iff_find? :
    wanted ∈ entries.keys ↔ ∃ entry, entries.find? wanted = some entry := by
  simp only [mem_keys, find?_eq_some_iff]

/-- After an insertion the inserted entry is there, and every old one with another key. -/
theorem mem_toList_insert : other ∈ (entries.insert entry).toList ↔
    other = entry ∨ (other ∈ entries.toList ∧ key other ≠ key entry) := by
  by_cases used : key entry ∈ entries.keys
  · rw [toList_insert_of_mem used, replaceIn, List.mem_map]
    constructor
    · rintro ⟨old, member, rfl⟩
      by_cases sameKey : key old = key entry
      · exact Or.inl (if_pos sameKey)
      · rw [if_neg sameKey]
        exact Or.inr ⟨member, sameKey⟩
    · rintro (rfl | ⟨member, otherKey⟩)
      · obtain ⟨old, member, sameKey⟩ := mem_keys.mp used
        exact ⟨old, member, if_pos sameKey⟩
      · exact ⟨other, member, if_neg otherKey⟩
  · rw [toList_insert_of_not_mem used, List.mem_append, List.mem_singleton, or_comm]
    refine or_congr_right (iff_self_and.mpr fun member sameKey => ?_)
    exact used (sameKey ▸ key_mem_keys member)

theorem find?_insert (entries : Keyed key) (entry : Entry) (wanted : Key) :
    (entries.insert entry).find? wanted =
      if wanted = key entry then some entry else entries.find? wanted := by
  by_cases isNew : wanted = key entry
  · rw [if_pos isNew, isNew]
    exact find?_eq_some_of_mem (mem_toList_insert.mpr (Or.inl rfl))
  · rw [if_neg isNew]
    ext found
    rw [find?_eq_some_iff, find?_eq_some_iff, mem_toList_insert]
    constructor
    · rintro ⟨rfl | ⟨member, -⟩, found⟩
      · exact absurd found.symm isNew
      · exact ⟨member, found⟩
    · rintro ⟨member, rfl⟩
      exact ⟨Or.inr ⟨member, isNew⟩, rfl⟩

/-- A function that does not tell an entry from the one in its place gives the same list. -/
theorem map_toList_insert {View : Type} (view : Entry → View)
    (found : entries.find? (key entry) = some other) (sameView : view entry = view other) :
    (entries.insert entry).toList.map view = entries.toList.map view := by
  have used : key entry ∈ entries.keys := mem_keys_iff_find?.mpr ⟨other, found⟩
  rw [toList_insert_of_mem used, replaceIn, List.map_map]
  apply List.map_congr_left
  intro old member
  rw [Function.comp_apply]
  by_cases sameKey : key old = key entry
  · have oldFound := find?_eq_some_of_mem member
    rw [sameKey, found] at oldFound
    rw [if_pos sameKey, sameView, Option.some.inj oldFound]
  · rw [if_neg sameKey]

theorem insert_of_find? (found : entries.find? (key entry) = some entry) :
    entries.insert entry = entries := by
  ext1
  simpa only [List.map_id] using map_toList_insert id found rfl

theorem mem_keys_insert :
    wanted ∈ (entries.insert entry).keys ↔ wanted = key entry ∨ wanted ∈ entries.keys := by
  rw [mem_keys_iff_find?, mem_keys_iff_find?, find?_insert]
  by_cases isNew : wanted = key entry
  · simp [isNew]
  · simp [isNew]

theorem mem_toList_erase :
    other ∈ (entries.erase unwanted).toList ↔ other ∈ entries.toList ∧ key other ≠ unwanted := by
  rw [toList_erase, List.mem_filter, decide_eq_true_eq]

theorem find?_erase (entries : Keyed key) (unwanted wanted : Key) :
    (entries.erase unwanted).find? wanted =
      if wanted = unwanted then none else entries.find? wanted := by
  by_cases dropped : wanted = unwanted
  · rw [if_pos dropped, find?_eq_none_iff, mem_keys]
    rintro ⟨entry, member, rfl⟩
    exact (mem_toList_erase.mp member).2 dropped
  · rw [if_neg dropped]
    ext found
    rw [find?_eq_some_iff, find?_eq_some_iff, mem_toList_erase, and_assoc]
    refine and_congr_right fun _ => ⟨And.right, fun found => ⟨?_, found⟩⟩
    rw [found]
    exact dropped

theorem mem_keys_erase :
    wanted ∈ (entries.erase unwanted).keys ↔ wanted ≠ unwanted ∧ wanted ∈ entries.keys := by
  rw [mem_keys_iff_find?, mem_keys_iff_find?, find?_erase]
  by_cases dropped : wanted = unwanted
  · simp [dropped]
  · simp [dropped]

theorem filterMap_find?_keys (entries : Keyed key) :
    entries.keys.filterMap entries.find? = entries.toList := by
  rw [keys, List.filterMap_map]
  calc
    entries.toList.filterMap (entries.find? ∘ key) = entries.toList.filterMap some :=
      List.filterMap_congr fun _ member => find?_eq_some_of_mem member
    _ = entries.toList := List.filterMap_some

/-- The keys give the order, and what is found under them gives the entries. -/
theorem eq_of_find? {first second : Keyed key} (sameKeys : first.keys = second.keys)
    (found : ∀ entry ∈ first.toList, second.find? (key entry) = some entry) : first = second := by
  have sameFind : ∀ wanted ∈ first.keys, first.find? wanted = second.find? wanted := by
    intro wanted isKey
    obtain ⟨entry, member, rfl⟩ := mem_keys.mp isKey
    rw [found entry member, find?_eq_some_of_mem member]
  ext1
  rw [← filterMap_find?_keys first, ← filterMap_find?_keys second, ← sameKeys]
  exact List.filterMap_congr sameFind

theorem perm_cons_erase (member : entry ∈ entries.toList) :
    (entry :: (entries.erase (key entry)).toList).Perm entries.toList := by
  have distinct : (entry :: (entries.erase (key entry)).toList).Nodup :=
    List.nodup_cons.mpr ⟨fun isKept => (mem_toList_erase.mp isKept).2 rfl,
      (entries.erase (key entry)).distinct.of_map⟩
  refine (List.perm_ext_iff_of_nodup distinct entries.distinct.of_map).mpr fun other => ?_
  rw [List.mem_cons, mem_toList_erase]
  constructor
  · rintro (rfl | ⟨isOther, -⟩)
    · exact member
    · exact isOther
  · intro isOther
    by_cases sameKey : key other = key entry
    · exact Or.inl (List.inj_on_of_nodup_map entries.distinct isOther member sameKey)
    · exact Or.inr ⟨isOther, sameKey⟩

end Keyed

end DataflowTyping
