import DataSection.Proofs.Section.Limit
import DataSection.Proofs.Section.Recognition

/-!
# Chains of pointers

A pointer is read as the item that it leads to, and costs one level.  Its own end is the
end of its bytes, so nothing of where the other item stands comes through.  The same holds
of a chain of pointers, which costs one level for each of them.
-/

namespace DataSection.Section

variable {data : Section} {levels length start middle target stop : Nat}

/-! ## Pointers -/

/-- A complete pointer between two offsets, which leads to `target`. -/
def PointerAt (data : Section) (start target stop : Nat) : Prop :=
  ∃ field middle low, Control data start Kind.pointer.code field middle ∧
    low.length = field / 8 % 4 + 1 ∧ data.Occupies middle low.toByteArray stop ∧
    target = pointerNumber field low + data.base + Format.pointerBias low.length ∧
    target < Format.offsetRange

theorem pointerAt_iff :
    data.PointerAt start target stop ↔
      ∃ header, data.header start = .ok header ∧ header.kind = .pointer ∧
        data.pointer header = .ok (target, stop) := by
  constructor
  · rintro ⟨field, middle, low, control, rest⟩
    refine ⟨⟨.pointer, field, middle⟩, header_of_control rfl control, rfl, ?_⟩
    exact pointer_eq_ok_iff.mpr ⟨low, rest⟩
  · rintro ⟨⟨kind, field, middle⟩, found, rfl, reached⟩
    obtain ⟨low, rest⟩ := pointer_eq_ok_iff.mp reached
    exact ⟨field, middle, low, header_eq_ok_iff.mp found, rest⟩

namespace PointerAt

variable (pointer : data.PointerAt start target stop)
include pointer

/-- A pointer leads to one place and has one end. -/
theorem unique {otherTarget otherStop : Nat} (other : data.PointerAt start otherTarget otherStop) :
    otherTarget = target ∧ otherStop = stop := by
  obtain ⟨header, found, -, reached⟩ := pointerAt_iff.mp pointer
  obtain ⟨otherHeader, otherFound, -, otherReached⟩ := pointerAt_iff.mp other
  cases found.symm.trans otherFound
  cases reached.symm.trans otherReached
  exact ⟨rfl, rfl⟩

/-- No limit decides where a pointer leads. -/
theorem withLimit (limit : Nat) : (data.withLimit limit).PointerAt start target stop := by
  obtain ⟨header, found, kind, reached⟩ := pointerAt_iff.mp pointer
  exact pointerAt_iff.mpr ⟨header, found, kind, reached⟩

theorem decodeAt_zero : data.decodeAt 0 start = .error (.tooDeep data.limit) := by
  obtain ⟨header, found, kind, reached⟩ := pointerAt_iff.mp pointer
  rw [decodeAt_eq_decodeNode, decodeNode_pointer found kind, reached]
  rfl

/-- A pointer gives the value of the item it leads to, read with one level less. -/
theorem decodeAt_succ :
    data.decodeAt (levels + 1) start =
      (data.decodeAt levels target).map fun found => (found.1, stop) := by
  obtain ⟨header, found, kind, reached⟩ := pointerAt_iff.mp pointer
  rw [decodeAt_eq_decodeNode, decodeNode_pointer found kind, reached]
  rfl

theorem resolve_zero : data.resolve 0 start = .error (.tooDeep data.limit) := by
  obtain ⟨header, found, kind, -⟩ := pointerAt_iff.mp pointer
  rw [resolve_eq_bind, found]
  simp only [bind, Except.bind, kind, if_true, descend_zero]

theorem lookupAt_zero (path : Path) :
    data.lookupAt path 0 start = .error (.tooDeep data.limit) := by
  cases path with
  | nil => rw [lookupAt, pointer.decodeAt_zero, Except.map_error]
  | cons step path =>
      rw [lookupAt, pointer.resolve_zero]
      rfl

theorem lookupAt_succ (path : Path) :
    data.lookupAt path (levels + 1) start = data.lookupAt path levels target := by
  obtain ⟨header, found, kind, reached⟩ := pointerAt_iff.mp pointer
  exact lookupAt_pointer found kind reached path

/-- Skipping a pointer needs no level and ends behind its own bytes. -/
theorem skipAt (levels : Nat) : data.skipAt levels start = .ok stop := by
  obtain ⟨header, found, kind, reached⟩ := pointerAt_iff.mp pointer
  rw [skipAt_eq_skipNode, skipNode_pointer found kind, reached, Except.map_ok]

end PointerAt

/-! ## Chains -/

/-- So many pointers, each leading to the next one and the last one to `target`. -/
inductive Chain (data : Section) : (length start target : Nat) → Prop where
  | nil (offset : Nat) : Chain data 0 offset offset
  | cons {length start middle target stop : Nat} :
      data.PointerAt start middle stop → Chain data length middle target →
      Chain data (length + 1) start target

theorem Chain.withLimit (chain : data.Chain length start target) (limit : Nat) :
    (data.withLimit limit).Chain length start target := by
  induction chain with
  | nil offset => exact .nil offset
  | cons first _ ih => exact .cons (first.withLimit limit) ih

/-- The value at the end of a chain is read at its beginning, with a level more for each
pointer.  Only the first pointer says where the item ends. -/
theorem PointerAt.decodeAt_chain (first : data.PointerAt start middle stop)
    (rest : data.Chain length middle target) (levels : Nat) :
    data.decodeAt (levels + length + 1) start =
      (data.decodeAt levels target).map fun found => (found.1, stop) := by
  induction rest generalizing start stop with
  | nil offset => exact first.decodeAt_succ
  | @cons length middle second target behind next _ ih =>
      rw [first.decodeAt_succ, ← Nat.add_assoc, ih next]
      cases data.decodeAt levels target <;> rfl

theorem Chain.lookupAt (chain : data.Chain length start target) (path : Path) (levels : Nat) :
    data.lookupAt path (levels + length) start = data.lookupAt path levels target := by
  induction chain with
  | nil offset => rfl
  | cons first _ ih => rw [← Nat.add_assoc, first.lookupAt_succ, ih]

/-- With too few levels for its pointers, a chain of at least one ends nowhere. -/
theorem PointerAt.tooDeep_chain (first : data.PointerAt start middle stop)
    (rest : data.Chain length middle target) (few : levels ≤ length) :
    data.decodeAt levels start = .error (.tooDeep data.limit) ∧
      ∀ path, data.lookupAt path levels start = .error (.tooDeep data.limit) := by
  induction levels generalizing start middle stop length with
  | zero => exact ⟨first.decodeAt_zero, first.lookupAt_zero⟩
  | succ levels ih =>
      cases rest with
      | nil => exact absurd few (Nat.not_succ_le_zero levels)
      | cons next rest =>
          obtain ⟨decoded, lookedUp⟩ := ih next rest (Nat.le_of_succ_le_succ few)
          constructor
          · rw [first.decodeAt_succ, decoded, Except.map_error]
          · intro path
            rw [first.lookupAt_succ, lookedUp]

/-- Reading the first of some pointers gives what reading the item gives to which they lead,
with a level more for each pointer, and ends where the first pointer does.  Errors are the same
but for the limit that they report. -/
theorem PointerAt.decode_chain (first : data.PointerAt start middle stop)
    (rest : data.Chain length middle target) (limit : Nat) :
    (data.withLimit (limit + length + 1)).decode start =
      (((data.withLimit limit).decode target).map fun found => (found.1, stop)).mapError
        (ReadError.withLimit (limit + length + 1)) := by
  have pointer := first.withLimit (limit + length + 1)
  have chain := rest.withLimit (limit + length + 1)
  rw [decode, decode, limit_withLimit, limit_withLimit, pointer.decodeAt_chain chain,
    decodeAt_withLimit data limit]
  cases (data.withLimit limit).decodeAt limit target <;> rfl

/-- Looking up from the first of some pointers gives what it gives from the item to which they
lead. -/
theorem PointerAt.lookup_chain (first : data.PointerAt start middle stop)
    (rest : data.Chain length middle target) (path : Path) (limit : Nat) :
    (data.withLimit (limit + length + 1)).lookup start path =
      ((data.withLimit limit).lookup target path).mapError
        (ReadError.withLimit (limit + length + 1)) := by
  have pointer := first.withLimit (limit + length + 1)
  have chain := rest.withLimit (limit + length + 1)
  rw [lookup, lookup, limit_withLimit, limit_withLimit, pointer.lookupAt_succ, chain.lookupAt,
    lookupAt_withLimit data path limit]

/-! ## Circles -/

theorem Chain.append {further : Nat} (chain : data.Chain length start middle)
    (rest : data.Chain further middle target) : data.Chain (length + further) start target := by
  induction chain with
  | nil offset => rwa [Nat.zero_add]
  | cons first _ ih =>
      rw [Nat.add_right_comm]
      exact .cons first (ih rest)

/-- A circle of pointers is followed any number of times. -/
theorem Chain.rounds (circle : data.Chain length start start) (count : Nat) :
    data.Chain (count * length) start start := by
  induction count with
  | zero =>
      rw [Nat.zero_mul]
      exact .nil start
  | succ count ih =>
      rw [Nat.succ_mul]
      exact ih.append circle

end DataSection.Section
