import DataSection.Value.Basic

/-!
# Measures of a value

How deep a value nests, how many nodes it has, which strings stand in it, and which
sizes its headers would name.  Lists are in the order in which the value is written.
-/

namespace DataSection.Value

mutual

/-- The largest number of containers with items on the way from the root to a leaf. -/
def depth : Value → Nat
  | .array [] => 0
  | .array (element :: rest) => max element.depth (depthElements rest) + 1
  | .map ⟨[]⟩ => 0
  | .map ⟨(_, value) :: rest⟩ => max value.depth (depthEntries rest) + 1
  | _ => 0

/-- The largest depth of an element. -/
def depthElements : List Value → Nat
  | [] => 0
  | element :: rest => max element.depth (depthElements rest)

/-- The largest depth of an entry. -/
def depthEntries : List (ByteArray × Value) → Nat
  | [] => 0
  | (_, value) :: rest => max value.depth (depthEntries rest)

end

mutual

/-- The number of scalars, arrays, maps and keys. -/
def nodeCount : Value → Nat
  | .array elements => nodesOfElements elements + 1
  | .map ⟨entries⟩ => nodesOfEntries entries + 1
  | _ => 1

/-- The number of nodes in elements. -/
def nodesOfElements : List Value → Nat
  | [] => 0
  | element :: rest => element.nodeCount + nodesOfElements rest

/-- The number of nodes in entries, keys among them. -/
def nodesOfEntries : List (ByteArray × Value) → Nat
  | [] => 0
  | (_, value) :: rest => value.nodeCount + 1 + nodesOfEntries rest

end

mutual

/-- All strings, each key before the strings of its value. -/
def strings : Value → List ByteArray
  | .string text => [text]
  | .array elements => stringsOfElements elements
  | .map ⟨entries⟩ => stringsOfEntries entries
  | _ => []

/-- All strings in elements. -/
def stringsOfElements : List Value → List ByteArray
  | [] => []
  | element :: rest => element.strings ++ stringsOfElements rest

/-- All strings in entries. -/
def stringsOfEntries : List (ByteArray × Value) → List ByteArray
  | [] => []
  | (key, value) :: rest => key :: value.strings ++ stringsOfEntries rest

end

mutual

/-- The lengths of all strings, byte arrays, keys and containers, each container
before its items. -/
def lengths : Value → List Nat
  | .string text => [text.size]
  | .bytes content => [content.size]
  | .array elements => elements.length :: lengthsOfElements elements
  | .map ⟨entries⟩ => entries.length :: lengthsOfEntries entries
  | _ => []

/-- The lengths in elements. -/
def lengthsOfElements : List Value → List Nat
  | [] => []
  | element :: rest => element.lengths ++ lengthsOfElements rest

/-- The lengths in entries. -/
def lengthsOfEntries : List (ByteArray × Value) → List Nat
  | [] => []
  | (key, value) :: rest => key.size :: value.lengths ++ lengthsOfEntries rest

end

mutual

/-- The keys of every map in the value are distinct, which holds of all that is built
by inserting. -/
def WellFormed : Value → Prop
  | .array elements => WellFormedElements elements
  | .map ⟨entries⟩ => (entries.map Prod.fst).Nodup ∧ WellFormedEntries entries
  | _ => True

/-- Every element is well-formed. -/
def WellFormedElements : List Value → Prop
  | [] => True
  | element :: rest => element.WellFormed ∧ WellFormedElements rest

/-- The value of every entry is well-formed. -/
def WellFormedEntries : List (ByteArray × Value) → Prop
  | [] => True
  | (_, value) :: rest => value.WellFormed ∧ WellFormedEntries rest

end

theorem depthElements_le_iff {elements : List Value} {bound : Nat} :
    depthElements elements ≤ bound ↔ ∀ element ∈ elements, element.depth ≤ bound := by
  induction elements with
  | nil => simp [depthElements]
  | cons element rest ih => rw [depthElements, Nat.max_le, ih, List.forall_mem_cons]

theorem depthEntries_le_iff {entries : List (ByteArray × Value)} {bound : Nat} :
    depthEntries entries ≤ bound ↔ ∀ entry ∈ entries, entry.2.depth ≤ bound := by
  induction entries with
  | nil => simp [depthEntries]
  | cons entry rest ih => rw [depthEntries, Nat.max_le, ih, List.forall_mem_cons]

/-- An array is as deep as its deepest element, and one more unless it is empty. -/
theorem depth_array (elements : List Value) :
    (array elements).depth = if elements = [] then 0 else depthElements elements + 1 := by
  cases elements <;> simp [depth, depthElements]

/-- A map is as deep as its deepest entry, and one more unless it is empty. -/
theorem depth_map (entries : List (ByteArray × Value)) :
    (map ⟨entries⟩).depth = if entries = [] then 0 else depthEntries entries + 1 := by
  cases entries <;> simp [depth, depthEntries]

theorem mem_lengthsOfElements {elements : List Value} {size : Nat} :
    size ∈ lengthsOfElements elements ↔ ∃ element ∈ elements, size ∈ element.lengths := by
  induction elements with
  | nil => simp [lengthsOfElements]
  | cons element rest ih => simp [lengthsOfElements, ih]

theorem mem_lengthsOfEntries {entries : List (ByteArray × Value)} {size : Nat} :
    size ∈ lengthsOfEntries entries ↔
      ∃ entry ∈ entries, size = entry.1.size ∨ size ∈ entry.2.lengths := by
  induction entries with
  | nil => simp [lengthsOfEntries]
  | cons entry rest ih => simp [lengthsOfEntries, ih, or_assoc]

theorem wellFormedElements_iff {elements : List Value} :
    WellFormedElements elements ↔ ∀ element ∈ elements, element.WellFormed := by
  induction elements with
  | nil => simp [WellFormedElements]
  | cons element rest ih => simp [WellFormedElements, ih]

theorem wellFormedEntries_iff {entries : List (ByteArray × Value)} :
    WellFormedEntries entries ↔ ∀ entry ∈ entries, entry.2.WellFormed := by
  induction entries with
  | nil => simp [WellFormedEntries]
  | cons entry rest ih => simp [WellFormedEntries, ih]

end DataSection.Value
