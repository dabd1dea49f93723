import DataSection.Proofs.Dictionary
import DataSection.Value.Measure

/-!
# Counting nodes

A value has no more nodes than its depth and the largest of its lengths leave room for: below
each container there are at most so many values, and the containers that lie in one another
are counted by the depth.

A dictionary has no more nodes than the pairs it was made from, because a pair that comes later
takes the place of one with the same key.
-/

namespace DataSection.Value

variable {bound : Nat}

/-! ## Items -/

/-- The keys and the values of entries, each key before its value. -/
def itemsOfEntries (entries : List (ByteArray × Value)) : List Value :=
  entries.flatMap fun entry => [.string entry.1, entry.2]

theorem itemsOfEntries_cons (key : ByteArray) (value : Value)
    (rest : List (ByteArray × Value)) :
    itemsOfEntries ((key, value) :: rest) = .string key :: value :: itemsOfEntries rest := rfl

theorem length_itemsOfEntries (entries : List (ByteArray × Value)) :
    (itemsOfEntries entries).length = 2 * entries.length := by
  induction entries with
  | nil => rfl
  | cons entry rest ih =>
      rw [itemsOfEntries_cons, List.length_cons, List.length_cons, ih, List.length_cons,
        Nat.mul_succ]

/-- A key is a node like any other. -/
theorem nodesOfEntries_eq (entries : List (ByteArray × Value)) :
    nodesOfEntries entries = nodesOfElements (itemsOfEntries entries) := by
  induction entries with
  | nil => rfl
  | cons entry rest ih =>
      obtain ⟨key, value⟩ := entry
      simp only [itemsOfEntries_cons, nodesOfElements, nodesOfEntries, nodeCount, ih]
      omega

/-! ## Dictionaries -/

/-- Writing to a key adds no more nodes than writing behind all others. -/
theorem nodesOfEntries_put_le (key : ByteArray) (value : Value)
    (entries : List (ByteArray × Value)) :
    nodesOfEntries (Dictionary.put key value entries) ≤
      nodesOfEntries entries + (value.nodeCount + 1) := by
  induction entries with
  | nil => simp only [Dictionary.put, nodesOfEntries, Nat.zero_add, Nat.add_zero, Nat.le_refl]
  | cons entry rest ih =>
      obtain ⟨held, old⟩ := entry
      rw [Dictionary.put]
      split <;> simp only [nodesOfEntries] <;> omega

theorem nodesOfEntries_append (entries others : List (ByteArray × Value)) :
    nodesOfEntries (entries ++ others) = nodesOfEntries entries + nodesOfEntries others := by
  induction entries with
  | nil => simp only [List.nil_append, nodesOfEntries, Nat.zero_add]
  | cons entry rest ih => simp only [List.cons_append, nodesOfEntries, ih, Nat.add_assoc]

/-- The dictionary of a list of pairs has no more nodes than the pairs. -/
theorem nodesOfEntries_ofList_le (pairs : List (ByteArray × Value)) :
    nodesOfEntries (Dictionary.ofList pairs).entries ≤ nodesOfEntries pairs := by
  induction pairs using List.reverseRecOn with
  | nil => exact Nat.le_refl 0
  | append_singleton pairs pair ih =>
      have put := nodesOfEntries_put_le pair.1 pair.2 (Dictionary.ofList pairs).entries
      rw [Dictionary.ofList_concat, Dictionary.entries_insert, nodesOfEntries_append,
        nodesOfEntries, nodesOfEntries]
      omega

/-! ## Bounds -/

theorem nodesOfElements_le {elements : List Value}
    (each : ∀ element ∈ elements, element.nodeCount < bound) :
    nodesOfElements elements ≤ elements.length * bound := by
  induction elements with
  | nil => exact Nat.zero_le _
  | cons element rest ih =>
      obtain ⟨first, others⟩ := List.forall_mem_cons.mp each
      rw [nodesOfElements, List.length_cons, Nat.succ_mul]
      have := ih others
      omega

theorem nodesOfEntries_le {entries : List (ByteArray × Value)}
    (each : ∀ entry ∈ entries, entry.2.nodeCount < bound) :
    nodesOfEntries entries ≤ entries.length * bound := by
  induction entries with
  | nil => exact Nat.zero_le _
  | cons entry rest ih =>
      obtain ⟨first, others⟩ := List.forall_mem_cons.mp each
      rw [nodesOfEntries, List.length_cons, Nat.succ_mul]
      have := ih others
      omega

/-- A level more leaves room for a container of at most so many items. -/
theorem succ_lt_of_le_mul {nodes length largest power : Nat} (positive : 0 < power)
    (small : length ≤ largest) (counted : nodes ≤ length * (2 * power)) :
    nodes + 1 < 2 * (power * (largest + 1)) := by
  have wide : length * (2 * power) ≤ largest * (2 * power) := Nat.mul_le_mul_right _ small
  calc nodes + 1 < largest * (2 * power) + 2 * power := by omega
    _ = 2 * (power * (largest + 1)) := by
      rw [← Nat.succ_mul, Nat.mul_comm, Nat.mul_assoc]

theorem two_mul_pow_le {largest shallow deep : Nat} (le : shallow ≤ deep) :
    2 * (largest + 1) ^ shallow ≤ 2 * (largest + 1) ^ deep :=
  Nat.mul_le_mul_left 2 (Nat.pow_le_pow_right (Nat.succ_pos largest) le)

/-- A value has fewer nodes than its depth and the largest of its lengths leave room for. -/
theorem nodeCount_lt {value : Value} {largest : Nat}
    (bounded : ∀ size ∈ value.lengths, size ≤ largest) :
    value.nodeCount < 2 * (largest + 1) ^ value.depth := by
  induction value using Value.induction with
  | array elements ih =>
      obtain ⟨small, inside⟩ := List.forall_mem_cons.mp bounded
      rw [nodeCount, depth_array]
      split
      next empty => simp [empty, nodesOfElements]
      next nonempty =>
          rw [Nat.pow_succ]
          refine succ_lt_of_le_mul (Nat.pow_pos (Nat.succ_pos _)) small (nodesOfElements_le ?_)
          intro element member
          have deep := depthElements_le_iff.mp (Nat.le_refl _) element member
          have below := ih element member fun size sizeMember =>
            inside size (mem_lengthsOfElements.mpr ⟨element, member, sizeMember⟩)
          exact Nat.lt_of_lt_of_le below (two_mul_pow_le deep)
  | map entries ih =>
      obtain ⟨small, inside⟩ := List.forall_mem_cons.mp bounded
      rw [nodeCount, depth_map]
      split
      next empty => simp [empty, nodesOfEntries]
      next nonempty =>
          rw [Nat.pow_succ]
          refine succ_lt_of_le_mul (Nat.pow_pos (Nat.succ_pos _)) small (nodesOfEntries_le ?_)
          intro entry member
          have deep := depthEntries_le_iff.mp (Nat.le_refl _) entry member
          have below := ih entry member fun size sizeMember =>
            inside size (mem_lengthsOfEntries.mpr ⟨entry, member, .inr sizeMember⟩)
          exact Nat.lt_of_lt_of_le below (two_mul_pow_le deep)
  | _ => simp [nodeCount, depth]

end DataSection.Value
