import Mathlib.Data.Finset.Card
import DataSection.Proofs.Dictionary.Indexed
import DataSection.Proofs.Section.Lookup

/-!
# The history of a dictionary

A dictionary is known from the pairs that have been written into it, whether one by one, all
at once, or by reading a map.  Its keys are those of the pairs, each once and in the order in
which they first came, and under each key is the value that came last.  A write gives what
was read under its key before, and touches nothing else.

All of this holds of the dictionary with an index as well, which finds everything by the
positions that its index holds.
-/

namespace DataSection

namespace Section

variable {data : Section} {levels offset next : Nat} {dictionary : Dictionary Value}

/-- At an offset, or where the pointers lead that begin there, is a map in which these pairs are
read one behind the other. -/
def PairsAt (data : Section) (levels offset : Nat) (pairs : List (ByteArray × Value)) : Prop :=
  ∃ left item header stop, Route data levels offset [] left item ∧
    data.header item = .ok header ∧ header.kind = .map ∧ pairs.length = header.size ∧
    Row (Reads (entry (data.descend data.decodeAt left))) header.payload pairs stop

/-- A map that is read has had the pairs written into it that are read where it stands. -/
theorem exists_pairsAt_of_decodeAt
    (decoded : data.decodeAt levels offset = .ok (.map dictionary, next)) :
    ∃ pairs, data.PairsAt levels offset pairs ∧ dictionary = .ofList pairs := by
  obtain ⟨left, item, header, route, found, noPointer, stop, read⟩ :=
    exists_route_of_walk decoded (Value.walk_nil _)
  rw [decodeAt_eq_decodeNode] at read
  have map : header.kind = .map := (kind_of_decodeNode found noPointer read).symm
  obtain ⟨pairs, equal, length, row⟩ := (decodeNode_map_eq_ok_iff found map).mp read
  cases equal
  exact ⟨pairs, ⟨left, item, header, stop, route, found, map, length, row⟩, rfl⟩

end Section

namespace Dictionary

variable {α : Type} {written : List (ByteArray × α)}

/-! ## Contents -/

/-- The dictionary shows each key of the pairs once, in the order in which the keys first came,
with the value that came last. -/
structure Recounts (written : List (ByteArray × α)) (dictionary : Dictionary α) : Prop
    extends Collects written dictionary where
  distinct : dictionary.Distinct
  values : dictionary.values.map some =
    dictionary.keys.map fun key => find? key written.reverse
  size : dictionary.size = (written.map Prod.fst).toFinset.card
  contains : ∀ key, dictionary.contains key = true ↔ key ∈ written.map Prod.fst

/-- Under each of the distinct keys stands the value beside it. -/
theorem map_some_values {dictionary : Dictionary α} (distinct : dictionary.Distinct) :
    dictionary.values.map some = dictionary.keys.map dictionary.get? := by
  rw [Dictionary.values, Dictionary.keys, List.map_map, List.map_map]
  apply List.map_congr_left
  rintro ⟨key, value⟩ member
  exact (find?_of_mem distinct member).symm

theorem recounts_ofList (written : List (ByteArray × α)) :
    Recounts written (ofList written) where
  toCollects := collects_iff.mpr rfl
  distinct := distinct_ofList written
  values := by
    rw [map_some_values (distinct_ofList written)]
    exact List.map_congr_left fun key _ => get?_ofList written key
  size := by
    have same : (ofList written).keys.toFinset = (written.map Prod.fst).toFinset := by
      ext key
      rw [List.mem_toFinset, List.mem_toFinset, keys_ofList, mem_firstKeys]
    rw [← same, List.toFinset_card_of_nodup (distinct_ofList written), length_keys]
  contains key := by rw [contains_eq_true, keys_ofList, mem_firstKeys]

/-! ## Answers -/

/-- A write leaves every other key where it is. -/
theorem getElem?_keys_insert {dictionary : Dictionary α} {key other : ByteArray} (value : α)
    (different : other ≠ key) (position : Nat) :
    (dictionary.insert key value).keys[position]? = some other ↔
      dictionary.keys[position]? = some other := by
  by_cases present : key ∈ dictionary.keys
  · rw [keys_insert_of_mem present]
  · rw [keys_insert_of_not_mem present, getElem?_concat_eq_some_iff]
    simp [Ne.symm different]

namespace Indexed

/-- Every operation of an indexed dictionary answers from what has been written, and a write
changes neither the value nor the position of another key. -/
structure Answers (indexed : Indexed α) (written : List (ByteArray × α)) : Prop where
  getBytes : ∀ key, indexed.getBytes key = .ok (find? key written.reverse)
  get : ∀ text, indexed.get text = indexed.getBytes text.toUTF8
  containsKey : ∀ text, indexed.containsKey text = true ↔
    ∃ value, indexed.get text = .ok (some value)
  insert : ∀ key value, ∃ before next, indexed.getBytes key = .ok before ∧
    indexed.insert key value = .ok (before, next) ∧
    next.getBytes key = .ok (some value) ∧
    ∀ other, other ≠ key → next.getBytes other = indexed.getBytes other ∧
      next.index[other]? = indexed.index[other]?

theorem Represents.answers {indexed : Indexed α}
    (represents : indexed.Represents (ofList written)) : indexed.Answers written where
  getBytes key := by rw [represents.getBytes_eq, get?_ofList]
  get text := rfl
  containsKey text := by
    rw [represents.containsKey_eq, Dictionary.contains, Indexed.get, represents.getBytes_eq,
      Option.isSome_iff_exists]
    simp only [Except.ok.injEq]
  insert key value := by
    obtain ⟨next, inserted, stays⟩ := represents.exists_insert key value
    rw [exchange_eq] at inserted stays
    refine ⟨_, next, represents.getBytes_eq key, inserted, ?_, ?_⟩
    · rw [stays.getBytes_eq, get?_insert, if_pos rfl]
    · intro other different
      constructor
      · rw [stays.getBytes_eq, represents.getBytes_eq, get?_insert, if_neg (Ne.symm different)]
      · apply Option.ext
        intro position
        rw [stays.index, represents.index]
        exact getElem?_keys_insert value different position

/-! ## Every dictionary -/

/-- How a dictionary comes into being. -/
inductive Start (α : Type) where
  /-- Empty, with room for so many entries. -/
  | withCapacity (capacity : Nat)
  | collect (pairs : List (ByteArray × α))

/-- The dictionary at its start. -/
def Start.build : Start α → Checked (Indexed α)
  | withCapacity capacity => return .withCapacity capacity
  | collect pairs => (Indexed.withCapacity 0).insertAll pairs

/-- The pairs that have been written at the start. -/
def Start.pairs : Start α → List (ByteArray × α)
  | withCapacity _ => []
  | collect pairs => pairs

/-- A dictionary that starts in some way and has pairs written into it. -/
def run (start : Start α) (pairs : List (ByteArray × α)) : Checked (Indexed α) := do
  let indexed ← start.build
  indexed.insertAll pairs

theorem exists_build (start : Start α) :
    ∃ indexed, start.build = .ok indexed ∧ indexed.Represents (ofList start.pairs) := by
  cases start with
  | withCapacity capacity => exact ⟨_, rfl, represents_withCapacity capacity⟩
  | collect pairs => exact (represents_withCapacity 0).exists_insertAll pairs

theorem exists_run (start : Start α) (pairs : List (ByteArray × α)) :
    ∃ indexed, run start pairs = .ok indexed ∧
      indexed.Represents (ofList (start.pairs ++ pairs)) := by
  obtain ⟨first, built, represents⟩ := exists_build start
  obtain ⟨indexed, inserted, final⟩ := represents.exists_insertAll pairs
  refine ⟨indexed, ?_, ?_⟩
  · rw [run, built]
    exact inserted
  · rw [ofList, Dictionary.insertAll, List.foldl_append]
    exact final

end Indexed

/-- Whatever a dictionary starts from and whatever pairs are written into it, its index holds
the positions of its keys and nothing else, it recounts the pairs, and its operations answer
from them.  The same holds of every map that is read, for it is the dictionary of the pairs
that are read where it stands. -/
theorem history_determines_dictionary :
    (∀ (start : Indexed.Start Value) (pairs : List (ByteArray × Value)),
      ∃ indexed, Indexed.run start pairs = .ok indexed ∧
        indexed.Represents (ofList (start.pairs ++ pairs)) ∧
        Recounts (start.pairs ++ pairs) (ofList (start.pairs ++ pairs)) ∧
        indexed.Answers (start.pairs ++ pairs)) ∧
      ∀ (data : Section) (levels offset : Nat) (dictionary : Dictionary Value) (next : Nat),
        data.decodeAt levels offset = .ok (.map dictionary, next) →
          ∃ written indexed, data.PairsAt levels offset written ∧
            dictionary = ofList written ∧
            Indexed.run (.withCapacity 0) written = .ok indexed ∧
            indexed.Represents dictionary := by
  constructor
  · intro start pairs
    obtain ⟨indexed, ran, represents⟩ := Indexed.exists_run start pairs
    exact ⟨indexed, ran, represents, recounts_ofList _, represents.answers⟩
  · intro data levels offset dictionary next decoded
    obtain ⟨written, pairs, rfl⟩ := Section.exists_pairsAt_of_decodeAt decoded
    obtain ⟨indexed, ran, represents⟩ := Indexed.exists_run (.withCapacity 0) written
    exact ⟨written, indexed, pairs, rfl, ran, represents⟩

/-- A map with one key twice. -/
def keyTwice : Section :=
  { bytes := ⟨#[0xE2, 0x41, 0x61, 0xA1, 0x01, 0x41, 0x61, 0xA1, 0x07]⟩
    limit := 1 }

theorem history_determines_dictionary_keyTwice :
    keyTwice.decodeAt 1 0 = .ok (.map ⟨[("a".toUTF8, .uint16 7)]⟩, 9) ∧
      ∃ written indexed, keyTwice.PairsAt 1 0 written ∧
        ⟨[("a".toUTF8, Value.uint16 7)]⟩ = ofList written ∧
        Indexed.run (.withCapacity 0) written = .ok indexed ∧
        indexed.Represents ⟨[("a".toUTF8, Value.uint16 7)]⟩ := by
  have decoded : keyTwice.decodeAt 1 0 = .ok (.map ⟨[("a".toUTF8, .uint16 7)]⟩, 9) := rfl
  exact ⟨decoded, history_determines_dictionary.2 keyTwice 1 0 _ 9 decoded⟩

end Dictionary

end DataSection
