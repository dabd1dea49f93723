import Mathlib.Data.List.Nodup
import DataSection.Proofs.Dictionary
import DataSection.Proofs.Machine.Checked

/-!
# Dictionaries with an index

A dictionary of many entries is not searched from its front.  It keeps, beside the entries,
an index from each key to the position of its entry, and goes to that position without
looking at the key there.  The two have to stay in step, or a read finds another key's value,
no value, or no entry at all.

An indexed dictionary represents a dictionary if the entries are the same and the index holds
the positions of the keys and nothing else.  Every operation keeps this, so whatever pairs are
written one after the other, no position is ever out of range and every answer is the one that
the plain dictionary gives.
-/

namespace DataSection

/-- Byte strings that compare as equal are equal. -/
instance lawfulBEqByteArray : LawfulBEq ByteArray where
  eq_of_beq {left right} same := by
    cases left
    cases right
    exact congrArg ByteArray.mk (eq_of_beq same)
  rfl {bytes} := by
    cases bytes with
    | mk digits => exact beq_self_eq_true digits

namespace Dictionary

variable {α : Type}

/-! ## Positions -/

/-- With distinct keys, writing under a key replaces the value in its entry. -/
theorem put_of_getElem? {entries : List (ByteArray × α)} {position : Nat} {key : ByteArray}
    {old : α} (distinct : (entries.map Prod.fst).Nodup)
    (stands : entries[position]? = some (key, old)) (value : α) :
    put key value entries = entries.set position (key, value) := by
  induction entries generalizing position with
  | nil => cases stands
  | cons first rest ih =>
      obtain ⟨held, kept⟩ := first
      obtain ⟨absent, restDistinct⟩ := List.nodup_cons.mp distinct
      cases position with
      | zero =>
          cases stands
          exact if_pos rfl
      | succ position =>
          have later : (key, old) ∈ rest := List.mem_of_getElem? stands
          have other : held ≠ key := by
            rintro rfl
            exact absent (List.mem_map.mpr ⟨_, later, rfl⟩)
          rw [put, if_neg other, List.set_cons_succ]
          exact congrArg _ (ih restDistinct stands)

theorem getElem?_concat_eq_some_iff {keys : List ByteArray} {key other : ByteArray}
    {position : Nat} :
    (keys ++ [key])[position]? = some other ↔
      keys[position]? = some other ∨ position = keys.length ∧ key = other := by
  rcases Nat.lt_trichotomy position keys.length with before | rfl | behind
  · simp [List.getElem?_append_left before, Nat.ne_of_lt before]
  · simp
  · have outside : (keys ++ [key]).length ≤ position := by
      rw [List.length_append]
      exact behind
    rw [List.getElem?_eq_none outside, List.getElem?_eq_none (Nat.le_of_lt behind)]
    simp [Nat.ne_of_gt behind]

/-- The entries, and where the entry of each key stands. -/
structure Indexed (α : Type) where
  entries : Array (ByteArray × α)
  index : Std.HashMap ByteArray Nat

namespace Indexed

/-- No entries yet, with room for so many. -/
def withCapacity (capacity : Nat) : Indexed α where
  entries := Array.emptyWithCapacity capacity
  index := Std.HashMap.emptyWithCapacity capacity

/-- The entry at a position, which has to be one. -/
def entryAt (indexed : Indexed α) (position : Nat) : Checked (ByteArray × α) :=
  match indexed.entries[position]? with
  | some entry => .ok entry
  | none => .error .outOfRange

/-- Write a value under a key, and give the value that it replaces.  Only the index says
whether and where there is one. -/
def insert (indexed : Indexed α) (key : ByteArray) (value : α) :
    Checked (Option α × Indexed α) :=
  match indexed.index[key]? with
  | some position => do
      let (held, old) ← indexed.entryAt position
      let entries := indexed.entries.setIfInBounds position (held, value)
      return (some old, { indexed with entries })
  | none =>
      return (none,
        { entries := indexed.entries.push (key, value)
          index := indexed.index.insert key indexed.entries.size })

/-- The value under a key of bytes. -/
def getBytes (indexed : Indexed α) (key : ByteArray) : Checked (Option α) :=
  match indexed.index[key]? with
  | some position => do
      let (_, value) ← indexed.entryAt position
      return some value
  | none => return none

/-- The value under the bytes of a text. -/
def get (indexed : Indexed α) (text : String) : Checked (Option α) :=
  indexed.getBytes text.toUTF8

/-- Whether the index knows the bytes of a text. -/
def containsKey (indexed : Indexed α) (text : String) : Bool :=
  indexed.index.contains text.toUTF8

/-- Write pairs one after the other. -/
def insertAll : (indexed : Indexed α) → List (ByteArray × α) → Checked (Indexed α)
  | indexed, [] => return indexed
  | indexed, (key, value) :: rest => do
      let (_, indexed) ← indexed.insert key value
      indexed.insertAll rest

/-- The entries are those of the dictionary, and the index holds the position of each of its
keys and nothing else. -/
structure Represents (indexed : Indexed α) (dictionary : Dictionary α) : Prop where
  entries : indexed.entries.toList = dictionary.entries
  index : ∀ (key : ByteArray) (position : Nat),
    indexed.index[key]? = some position ↔ dictionary.keys[position]? = some key

theorem represents_withCapacity (capacity : Nat) :
    (withCapacity capacity : Indexed α).Represents empty where
  entries := rfl
  index key position := by simp [withCapacity, empty]

namespace Represents

variable {indexed : Indexed α} {dictionary : Dictionary α} {key : ByteArray} {position : Nat}
variable (represents : indexed.Represents dictionary)
include represents

/-- One key has one position, so no two entries have the same key. -/
theorem distinct : dictionary.Distinct := by
  rw [Distinct, List.nodup_iff_getElem?_ne_getElem?]
  intro first second before inside same
  have later := List.getElem?_eq_getElem inside
  have known := (represents.index _ second).mpr later
  rw [(represents.index _ first).mpr (same.trans later)] at known
  exact Nat.ne_of_lt before (Option.some.inj known)

theorem exists_entry (known : indexed.index[key]? = some position) :
    ∃ value, dictionary.entries[position]? = some (key, value) ∧
      indexed.entryAt position = .ok (key, value) := by
  have stands := (represents.index key position).mp known
  rw [keys, List.getElem?_map, Option.map_eq_some_iff] at stands
  obtain ⟨⟨held, value⟩, stands, rfl⟩ := stands
  refine ⟨value, stands, ?_⟩
  rw [← represents.entries, Array.getElem?_toList] at stands
  rw [entryAt, stands]

theorem not_mem_keys (unknown : indexed.index[key]? = none) : key ∉ dictionary.keys := by
  intro member
  obtain ⟨position, stands⟩ := List.getElem?_of_mem member
  rw [(represents.index key position).mpr stands] at unknown
  cases unknown

/-- A read goes to the right position and finds what the dictionary holds. -/
theorem getBytes_eq (key : ByteArray) : indexed.getBytes key = .ok (dictionary.get? key) := by
  unfold getBytes
  split
  next position known =>
    obtain ⟨value, stands, read⟩ := represents.exists_entry known
    rw [get?, find?_of_mem represents.distinct (List.mem_of_getElem? stands), read]
    rfl
  next unknown =>
    rw [get?_eq_none_iff.mpr (represents.not_mem_keys unknown)]
    rfl

theorem containsKey_eq (text : String) :
    indexed.containsKey text = dictionary.contains text.toUTF8 := by
  rw [Bool.eq_iff_iff, contains_eq_true, containsKey, Std.HashMap.contains_eq_isSome_getElem?,
    Option.isSome_iff_exists, List.mem_iff_getElem?]
  exact exists_congr fun position => represents.index _ position

/-- A write goes to the right position, or behind all entries, and gives what the dictionary
held. -/
theorem exists_insert (key : ByteArray) (value : α) :
    ∃ next, indexed.insert key value = .ok ((dictionary.exchange key value).1, next) ∧
      next.Represents (dictionary.exchange key value).2 := by
  rw [exchange_eq]
  unfold Indexed.insert
  split
  next position known =>
    obtain ⟨old, stands, read⟩ := represents.exists_entry known
    have held : dictionary.get? key = some old :=
      find?_of_mem represents.distinct (List.mem_of_getElem? stands)
    have member : key ∈ dictionary.keys :=
      List.mem_of_getElem? ((represents.index key position).mp known)
    refine ⟨{ indexed with entries := indexed.entries.setIfInBounds position (key, value) }, ?_, ?_⟩
    · rw [read, held]
      rfl
    · constructor
      · rw [entries_insert, put_of_getElem? represents.distinct stands, ← represents.entries]
        exact Array.toList_setIfInBounds ..
      · intro other place
        rw [keys_insert_of_mem member]
        exact represents.index other place
  next unknown =>
    have absent := represents.not_mem_keys unknown
    refine ⟨_, by rw [get?_eq_none_iff.mpr absent]; rfl, ?_⟩
    constructor
    · rw [entries_insert, put_of_not_mem absent, ← represents.entries]
      exact Array.toList_push ..
    · intro other place
      have size : indexed.entries.size = dictionary.keys.length := by
        rw [length_keys, Dictionary.size, ← represents.entries, Array.length_toList]
      rw [keys_insert_of_not_mem absent, Std.HashMap.getElem?_insert, getElem?_concat_eq_some_iff,
        ← represents.index, size]
      by_cases same : key = other
      · subst same
        simp [unknown, @eq_comm _ place]
      · simp [same]

/-- Whatever pairs are written, no position is out of range, and the dictionary that has been
written into in the same way is represented. -/
theorem exists_insertAll (pairs : List (ByteArray × α)) :
    ∃ next, indexed.insertAll pairs = .ok next ∧ next.Represents (dictionary.insertAll pairs) := by
  induction pairs generalizing indexed dictionary with
  | nil => exact ⟨indexed, rfl, represents⟩
  | cons pair rest ih =>
      obtain ⟨key, value⟩ := pair
      obtain ⟨written, inserted, stays⟩ := represents.exists_insert key value
      rw [exchange_eq] at inserted stays
      obtain ⟨next, others, final⟩ := ih stays
      refine ⟨next, ?_, final⟩
      rw [Indexed.insertAll, inserted]
      exact others

end Represents

end Indexed

end Dictionary

end DataSection
