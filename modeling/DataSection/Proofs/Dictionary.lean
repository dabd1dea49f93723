import Mathlib.Data.List.Induction
import Mathlib.Data.List.Perm.Subperm
import DataSection.Dictionary

/-!
# The dictionary of a list of pairs

What a dictionary holds after pairs have been written into it one after the other, told
from the pairs alone: each key once, where it came first, and under it the value that came
last.  These two facts determine the dictionary.
-/

namespace DataSection.Dictionary

variable {α : Type}

/-- Every key once, at the place where it first stands. -/
def firstKeys : List ByteArray → List ByteArray
  | [] => []
  | key :: rest => key :: (firstKeys rest).filter (· ≠ key)

@[simp] theorem mem_firstKeys {key : ByteArray} {keys : List ByteArray} :
    key ∈ firstKeys keys ↔ key ∈ keys := by
  induction keys with
  | nil => rfl
  | cons first rest ih =>
      by_cases same : key = first
      · simp [firstKeys, same]
      · simp [firstKeys, same, ih]

/-- A key behind others counts if it is new. -/
theorem firstKeys_concat_of_not_mem {keys : List ByteArray} {key : ByteArray}
    (absent : key ∉ keys) : firstKeys (keys ++ [key]) = firstKeys keys ++ [key] := by
  induction keys with
  | nil => rfl
  | cons first rest ih =>
      obtain ⟨other, later⟩ := not_or.mp (mt List.mem_cons.mpr absent)
      rw [List.cons_append, firstKeys, firstKeys, ih later, List.filter_append]
      simp [other]

/-- A key behind others does not count if it is among them. -/
theorem firstKeys_concat_of_mem {keys : List ByteArray} {key : ByteArray} (present : key ∈ keys) :
    firstKeys (keys ++ [key]) = firstKeys keys := by
  induction keys with
  | nil => cases present
  | cons first rest ih =>
      rw [List.cons_append, firstKeys, firstKeys]
      by_cases later : key ∈ rest
      · rw [ih later]
      · have same : key = first := (List.mem_cons.mp present).resolve_right later
        have fresh := firstKeys_concat_of_not_mem later
        rw [fresh, List.filter_append]
        simp [same]

/-! ## Writing pairs -/

theorem ofList_concat (pairs : List (ByteArray × α)) (pair : ByteArray × α) :
    ofList (pairs ++ [pair]) = (ofList pairs).insert pair.1 pair.2 := by
  simp only [ofList, insertAll, List.foldl_append, List.foldl_cons, List.foldl_nil]

theorem keys_ofList (pairs : List (ByteArray × α)) :
    (ofList pairs).keys = firstKeys (pairs.map Prod.fst) := by
  induction pairs using List.reverseRecOn with
  | nil => rfl
  | append_singleton pairs pair ih =>
      rw [ofList_concat, List.map_append, List.map_singleton]
      by_cases present : pair.1 ∈ pairs.map Prod.fst
      · rw [firstKeys_concat_of_mem present, ← ih]
        apply keys_insert_of_mem
        rw [ih, mem_firstKeys]
        exact present
      · rw [firstKeys_concat_of_not_mem present, ← ih]
        apply keys_insert_of_not_mem
        rw [ih, mem_firstKeys]
        exact present

theorem get?_ofList (pairs : List (ByteArray × α)) (key : ByteArray) :
    (ofList pairs).get? key = find? key pairs.reverse := by
  induction pairs using List.reverseRecOn with
  | nil => rfl
  | append_singleton pairs pair ih =>
      rw [ofList_concat, get?_insert, ih, List.reverse_append]
      rfl

theorem mem_put {key : ByteArray} {value : α} {entries : List (ByteArray × α)}
    {entry : ByteArray × α} (member : entry ∈ put key value entries) :
    entry = (key, value) ∨ entry ∈ entries := by
  induction entries with
  | nil => exact .inl (List.mem_singleton.mp member)
  | cons first rest ih =>
      obtain ⟨held, old⟩ := first
      by_cases same : held = key
      · subst same
        rw [put, if_pos rfl] at member
        rcases List.mem_cons.mp member with written | later
        · exact .inl written
        · exact .inr (List.mem_cons_of_mem _ later)
      · rw [put, if_neg same] at member
        rcases List.mem_cons.mp member with kept | later
        · exact .inr (kept ▸ List.mem_cons_self)
        · rcases ih later with written | present
          · exact .inl written
          · exact .inr (List.mem_cons_of_mem _ present)

/-- Every entry was written as a pair. -/
theorem mem_of_mem_entries_ofList {pairs : List (ByteArray × α)} {entry : ByteArray × α}
    (member : entry ∈ (ofList pairs).entries) : entry ∈ pairs := by
  induction pairs using List.reverseRecOn with
  | nil => cases member
  | append_singleton pairs pair ih =>
      rw [ofList_concat, entries_insert] at member
      rw [List.mem_append, List.mem_singleton]
      rcases mem_put member with written | present
      · exact .inr written
      · exact .inl (ih present)

theorem length_put_le (key : ByteArray) (value : α) (entries : List (ByteArray × α)) :
    (put key value entries).length ≤ entries.length + 1 := by
  induction entries with
  | nil => exact Nat.le_refl 1
  | cons first rest ih =>
      rw [put]
      split
      · exact Nat.le_succ _
      · exact Nat.succ_le_succ ih

/-- There are no more entries than pairs. -/
theorem size_ofList_le (pairs : List (ByteArray × α)) : (ofList pairs).size ≤ pairs.length := by
  induction pairs using List.reverseRecOn with
  | nil => exact Nat.le_refl 0
  | append_singleton pairs pair ih =>
      rw [ofList_concat, List.length_append, List.length_singleton]
      calc ((ofList pairs).insert pair.1 pair.2).size
          ≤ (ofList pairs).size + 1 := length_put_le pair.1 pair.2 _
        _ ≤ pairs.length + 1 := Nat.succ_le_succ ih

/-- There are as many entries as pairs exactly if no key is repeated. -/
theorem size_ofList_eq_iff {pairs : List (ByteArray × α)} :
    (ofList pairs).size = pairs.length ↔ (pairs.map Prod.fst).Nodup := by
  constructor
  · intro sizes
    have distinct : (firstKeys (pairs.map Prod.fst)).Nodup := by
      rw [← keys_ofList]
      exact distinct_ofList pairs
    have among : firstKeys (pairs.map Prod.fst) ⊆ pairs.map Prod.fst := by
      intro key present
      exact mem_firstKeys.mp present
    have length : (pairs.map Prod.fst).length ≤ (firstKeys (pairs.map Prod.fst)).length := by
      rw [← keys_ofList, length_keys, sizes]
      exact Nat.le_of_eq (List.length_map Prod.fst)
    have perm := (List.subperm_of_subset distinct among).perm_of_length_le length
    exact perm.nodup distinct
  · intro distinct
    rw [ofList_of_distinct distinct]
    rfl

/-! ## What is found -/

theorem mem_of_find? {key : ByteArray} {value : α} {entries : List (ByteArray × α)}
    (found : find? key entries = some value) : (key, value) ∈ entries := by
  induction entries with
  | nil => cases found
  | cons first rest ih =>
      obtain ⟨held, kept⟩ := first
      by_cases same : held = key
      · subst same
        rw [find?, if_pos rfl] at found
        cases found
        exact List.mem_cons_self
      · rw [find?, if_neg same] at found
        exact List.mem_cons_of_mem _ (ih found)

/-- With distinct keys, what an entry holds is found under its key. -/
theorem find?_of_mem {key : ByteArray} {value : α} {entries : List (ByteArray × α)}
    (distinct : (entries.map Prod.fst).Nodup) (member : (key, value) ∈ entries) :
    find? key entries = some value := by
  induction entries with
  | nil => cases member
  | cons first rest ih =>
      obtain ⟨held, kept⟩ := first
      obtain ⟨absent, restDistinct⟩ := List.nodup_cons.mp distinct
      rcases List.mem_cons.mp member with same | later
      · cases same
        exact if_pos rfl
      · have other : held ≠ key := by
          rintro rfl
          exact absent (List.mem_map.mpr ⟨_, later, rfl⟩)
        rw [find?, if_neg other]
        exact ih restDistinct later

theorem exists_find?_iff {key : ByteArray} {entries : List (ByteArray × α)} :
    (∃ value, find? key entries = some value) ↔ key ∈ entries.map Prod.fst := by
  rw [← Option.isSome_iff_exists, Option.isSome_iff_ne_none, ne_eq, find?_eq_none_iff,
    Classical.not_not]

/-! ## What determines a dictionary -/

/-- Entries with distinct keys are known from their keys and from what stands under each. -/
theorem eq_of_find?_eq {left right : List (ByteArray × α)}
    (distinct : (left.map Prod.fst).Nodup) (keys : left.map Prod.fst = right.map Prod.fst)
    (same : ∀ key, find? key left = find? key right) : left = right := by
  induction left generalizing right with
  | nil =>
      cases right with
      | nil => rfl
      | cons other others => cases keys
  | cons first rest ih =>
      cases right with
      | nil => cases keys
      | cons other others =>
          obtain ⟨key, value⟩ := first
          obtain ⟨otherKey, otherValue⟩ := other
          obtain ⟨rfl, restKeys⟩ := List.cons.inj keys
          obtain ⟨absent, restDistinct⟩ := List.nodup_cons.mp distinct
          have values : some value = some otherValue := by
            simpa only [find?, if_true] using same key
          have restSame : ∀ asked, find? asked rest = find? asked others := by
            intro asked
            by_cases head : key = asked
            · subst head
              have otherAbsent : key ∉ others.map Prod.fst := restKeys ▸ absent
              rw [find?_eq_none_iff.mpr absent, find?_eq_none_iff.mpr otherAbsent]
            · simpa only [find?, if_neg head] using same asked
          rw [Option.some.inj values, ih restDistinct restKeys restSame]

/-- The dictionary holds each key of the pairs once, in the order of first occurrence, and
under it the value of its last occurrence. -/
structure Collects (pairs : List (ByteArray × α)) (dictionary : Dictionary α) : Prop where
  keys : dictionary.keys = firstKeys (pairs.map Prod.fst)
  last : ∀ key, dictionary.get? key = find? key pairs.reverse

/-- Writing the pairs one after the other gives the one dictionary that collects them. -/
theorem collects_iff {pairs : List (ByteArray × α)} {dictionary : Dictionary α} :
    Collects pairs dictionary ↔ dictionary = ofList pairs := by
  constructor
  · intro collects
    have keys : dictionary.keys = (ofList pairs).keys := by rw [collects.keys, keys_ofList]
    have distinct : dictionary.Distinct := by
      rw [Distinct, keys]
      exact distinct_ofList pairs
    have same : ∀ key, dictionary.get? key = (ofList pairs).get? key := by
      intro key
      rw [collects.last, get?_ofList]
    have entries := eq_of_find?_eq distinct keys same
    cases dictionary
    exact congrArg Dictionary.mk entries
  · rintro rfl
    exact ⟨keys_ofList pairs, get?_ofList pairs⟩

end DataSection.Dictionary
