import Mathlib.Algebra.Group.Nat.Defs
import DataSection.Proofs.Encoding.PointerForms
import DataSection.Proofs.Encoding.RoundTrip
import DataSection.Proofs.Section.Nodes

/-!
# Amplification

How many nodes a value has that is read from a section of a given size.  Without pointers there
are no more nodes than bytes.  With them the limit alone bounds the nodes, by a factor that is
out of all proportion and has to be: a tower of arrays, each of nothing but pointers to the
array below, gives the width to the power of its height, and two levels of the limit are enough
for a storey.
-/

namespace DataSection

/-! ## Towers -/

/-- An array of so many pointers to one offset. -/
def storey (width target : Nat) : List UInt8 :=
  Encoding.control .array (Encoding.sizeBits width) ++ Encoding.sizeBytes width ++
    (List.replicate width (Encoding.pointer (UInt32.ofNat target))).flatten

/-- Storeys one behind the other. -/
structure Tower where
  bytes : List UInt8
  /-- Where the last of them starts. -/
  top : Nat

namespace Tower

/-- The number zero. -/
def ground : Tower :=
  ⟨Encoding.control .uint16 0, 0⟩

/-- Another storey, of pointers to the last one. -/
def raise (width : Nat) (tower : Tower) : Tower :=
  ⟨tower.bytes ++ storey width tower.top, tower.bytes.length⟩

/-- So many storeys above the ground. -/
def build (width : Nat) : (storeys : Nat) → Tower
  | 0 => ground
  | storeys + 1 => (build width storeys).raise width

/-- The value that stands at the top: an array of the value one storey below, again and again. -/
def value (width : Nat) : (storeys : Nat) → Value
  | 0 => .uint16 0
  | storeys + 1 => .array (List.replicate width (value width storeys))

end Tower

namespace Value

theorem nodesOfElements_replicate (count : Nat) (element : Value) :
    nodesOfElements (List.replicate count element) = count * element.nodeCount := by
  induction count with
  | zero => rw [Nat.zero_mul]; rfl
  | succ count ih =>
      rw [List.replicate_succ, nodesOfElements, ih, Nat.succ_mul, Nat.add_comm]

end Value

namespace Tower

variable {width storeys levels : Nat} {tower : Tower} {below : Value}

/-- Every storey multiplies the nodes by the width. -/
theorem pow_le_nodeCount (width storeys : Nat) :
    width ^ storeys ≤ (value width storeys).nodeCount := by
  induction storeys with
  | zero => exact Nat.le_refl 1
  | succ storeys ih =>
      rw [value, Value.nodeCount, Value.nodesOfElements_replicate, Nat.pow_succ, Nat.mul_comm]
      exact Nat.le_succ_of_le (Nat.mul_le_mul_left width ih)

/-- Every storey adds five bytes for its header, and as many for each pointer. -/
theorem length_storey_le (width target : Nat) : (storey width target).length ≤ 5 + width * 5 := by
  have extra := Format.extraBytes_le width
  have pointer := Format.pointerWidth_le (UInt32.ofNat target).toNat
  have pointers : width * (Encoding.pointer (UInt32.ofNat target)).length ≤ width * 5 := by
    apply Nat.mul_le_mul_left
    rw [Encoding.length_pointer]
    omega
  rw [storey, List.length_append, List.length_append, Encoding.length_control,
    Encoding.length_sizeBytes, List.length_flatten, List.map_replicate, List.sum_replicate_nat]
  split <;> omega

theorem length_build_le (width storeys : Nat) :
    (build width storeys).bytes.length ≤ storeys * (5 + width * 5) + 1 := by
  induction storeys with
  | zero => rw [Nat.zero_mul]; exact Nat.le_refl 1
  | succ storeys ih =>
      have step := length_storey_le width (build width storeys).top
      rw [build, raise, List.length_append, Nat.succ_mul]
      omega

theorem top_lt_length (width storeys : Nat) :
    (build width storeys).top < (build width storeys).bytes.length := by
  cases storeys with
  | zero => exact Nat.zero_lt_one
  | succ storeys =>
      have control : 0 < (storey width (build width storeys).top).length := by
        rw [storey, List.length_append, List.length_append, Encoding.length_control]
        split <;> omega
      rw [build, raise, List.length_append]
      exact Nat.lt_add_of_pos_right control

/-! ## Reading towers -/

/-- Wherever the tower stands at the beginning, so many levels are enough to read the value at
its top. -/
def Shows (tower : Tower) (levels : Nat) (value : Value) : Prop :=
  ∀ data : Section, data.base = 0 → data.Holds 0 tower.bytes.toByteArray →
    data.decodeAt levels tower.top = .ok (value, tower.bytes.length)

theorem shows_ground : ground.Shows 0 (.uint16 0) := by
  intro data _ held
  have stands : data.Stands 0 (.uint16 0) 1 := ⟨_, rfl, held, rfl⟩
  exact stands.decodeAt_leaf rfl 0

end Tower

namespace Section

/-- Pointers one behind the other are read as their value again and again. -/
theorem row_of_pointers {data : Section} {target : UInt32} {count levels start next : Nat}
    {value : Value}
    (held : data.Holds start (List.replicate count (Encoding.pointer target)).flatten.toByteArray)
    (inside : target.toNat + data.base < Format.offsetRange)
    (below : data.decodeAt levels (target.toNat + data.base) = .ok (value, next)) :
    Row (Reads (data.decodeAt (levels + 1))) start (List.replicate count value)
      (start + (List.replicate count (Encoding.pointer target)).flatten.length) := by
  induction count generalizing start with
  | zero => exact .nil start
  | succ count ih =>
      rw [List.replicate_succ, List.flatten_cons, List.toByteArray_append, holds_append] at held
      have first := decodeAt_pointer_of_holds held.1 inside below
      rw [List.replicate_succ, List.replicate_succ, List.flatten_cons, List.length_append,
        ← Nat.add_assoc, ← List.size_toByteArray]
      exact .cons first (ih held.2)

end Section

namespace Tower

variable {width storeys levels : Nat} {tower : Tower} {below : Value}

/-- A storey more needs two levels more, one for the array and one for its pointers. -/
theorem Shows.raise (shown : tower.Shows levels below) (small : width ≤ Format.maxSize)
    (addressable : tower.top < 2 ^ 32) :
    (tower.raise width).Shows (levels + 2) (.array (List.replicate width below)) := by
  intro data base held
  have target : (UInt32.ofNat tower.top).toNat + data.base = tower.top := by
    rw [base, UInt32.toNat_ofNat', Nat.mod_eq_of_lt addressable, Nat.add_zero]
  have inside : tower.top < Format.offsetRange := Nat.lt_trans addressable (by decide)
  rw [Tower.raise, List.toByteArray_append, Section.holds_append, List.size_toByteArray,
    Nat.zero_add] at held
  obtain ⟨standing, storeyHeld⟩ := held
  rw [storey, List.toByteArray_append] at storeyHeld
  obtain ⟨payload, found, pointers, stop⟩ :=
    Section.exists_payload_of_holds (Encoding.header_of_le .array small) rfl storeyHeld
  rw [← List.toByteArray_append, List.size_toByteArray, List.size_toByteArray] at stop
  have row := Section.row_of_pointers pointers (by rw [target]; exact inside)
    (by rw [target]; exact shown data base standing)
  rw [← stop] at row
  have decoded : data.decodeNode (data.decodeAt (levels + 1)) tower.bytes.length =
      .ok (.array (List.replicate width below), _) :=
    (Section.decodeNode_array_eq_ok_iff found rfl).mpr ⟨_, rfl, List.length_replicate, row⟩
  rw [Tower.raise, List.length_append]
  exact decoded

/-- If its offsets fit in pointers, a tower shows its value as soon as there are two levels for
each storey. -/
theorem shows_build (small : width ≤ Format.maxSize) (storeys : Nat)
    (addressable : (build width storeys).bytes.length ≤ 2 ^ 32) :
    (build width storeys).Shows (2 * storeys) (value width storeys) := by
  induction storeys with
  | zero => exact shows_ground
  | succ storeys ih =>
      rw [build, Tower.raise, List.length_append] at addressable
      have shorter : (build width storeys).bytes.length ≤ 2 ^ 32 := by omega
      exact (ih shorter).raise small (Nat.lt_of_lt_of_le (top_lt_length width storeys) shorter)

end Tower

namespace Section

/-! ## How much is read -/

/-- With two levels for each storey, a section that grows with the width times the height is read
as a value that grows with the width to the power of the height. -/
theorem exists_amplified {width storeys : Nat} (small : width ≤ Format.maxSize)
    (addressable : storeys * (5 + width * 5) < 2 ^ 32) :
    ∃ (data : Section) (offset next : Nat) (value : Value), data.limit = 2 * storeys ∧
      data.decode offset = .ok (value, next) ∧
      data.size ≤ storeys * (5 + width * 5) + 1 ∧ width ^ storeys ≤ value.nodeCount := by
  have short := Tower.length_build_le width storeys
  have shown := Tower.shows_build small storeys (by omega)
  let data : Section :=
    { bytes := (Tower.build width storeys).bytes.toByteArray, limit := 2 * storeys }
  refine ⟨data, _, _, _, rfl, shown data rfl (holds_whole _ 0 _), ?_,
    Tower.pow_le_nodeCount width storeys⟩
  rw [size, List.size_toByteArray]
  exact short

/-- What is read under the usual limit is bounded in proportion to the section, whatever its
bytes are.  Pointers in a circle need not be excluded, since nothing is read along them.  But the
factor for all sections at once is the largest tree that the levels and the sizes of headers leave
room for.  Without pointers it is one, and each pointer that follows another on a way down costs
the size of the section.  So towers of a few kilobytes, without any circle, give trees that nobody
could hold. -/
theorem nodeCount_le_factor_mul_size :
    (∃ factor, ∀ (data : Section) (offset next : Nat) (value : Value),
      data.limit = Format.defaultLimit → data.decode offset = .ok (value, next) →
        value.nodeCount ≤ factor * data.size) ∧
    (∀ (data : Section) (offset next pointers : Nat) (value : Value),
      data.NestsPointers pointers offset → data.decode offset = .ok (value, next) →
        value.nodeCount ≤ (next - offset) * data.size ^ pointers) ∧
    ∃ (data : Section) (offset next : Nat) (value : Value),
      data.limit = Format.defaultLimit ∧ ¬data.Recurs offset ∧
      data.decode offset = .ok (value, next) ∧
      data.size < 2 ^ 15 ∧ 16 ^ 256 ≤ value.nodeCount := by
  refine ⟨⟨2 * (Format.maxSize + 1) ^ Format.defaultLimit, ?_⟩, ?_, ?_⟩
  · intro data offset next value limit decoded
    rw [decode, limit] at decoded
    obtain ⟨forward, inside⟩ := skipAt_advances (skipAt_of_decodeAt decoded)
    calc value.nodeCount ≤ 2 * (Format.maxSize + 1) ^ Format.defaultLimit :=
          Nat.le_of_lt (nodeCount_lt_of_decodeAt decoded)
      _ ≤ 2 * (Format.maxSize + 1) ^ Format.defaultLimit * data.size :=
          Nat.le_mul_of_pos_right _ (by omega)
  · intro data offset next pointers value nests decoded
    exact nodeCount_le_mul_pow nests decoded
  · obtain ⟨data, offset, next, value, limit, decoded, size, nodes⟩ :=
      exists_amplified (by decide : 16 ≤ Format.maxSize) (by decide : 256 * (5 + 16 * 5) < 2 ^ 32)
    have straight : ¬data.Recurs offset := fun recurs => recurs.decodeAt_ne_ok _ _ _ decoded
    exact ⟨data, offset, next, value, limit, straight, decoded, by omega, nodes⟩

/-- A number, and behind it an array of two pointers to it. -/
def pointersToNumber : Section :=
  { bytes := ⟨#[0xA0, 0x02, 0x04, 0x20, 0x00, 0x20, 0x00]⟩ }

theorem nodeCount_le_pointersToNumber :
    pointersToNumber.limit = Format.defaultLimit ∧ pointersToNumber.NestsPointers 1 1 ∧
      pointersToNumber.decode 1 = .ok (.array [.uint16 0, .uint16 0], 7) ∧
      (∃ factor, (Value.array [.uint16 0, .uint16 0]).nodeCount ≤ factor * 7) ∧
      (Value.array [.uint16 0, .uint16 0]).nodeCount ≤ (7 - 1) * 7 ^ 1 := by
  have number : pointersToNumber.header 0 = .ok ⟨.uint16, 0, 1⟩ := rfl
  have array : pointersToNumber.header 1 = .ok ⟨.array, 2, 3⟩ := rfl
  have first : pointersToNumber.PointerAt 3 0 5 :=
    pointerAt_iff.mpr ⟨⟨.pointer, 0, 4⟩, rfl, rfl, rfl⟩
  have second : pointersToNumber.PointerAt 5 0 7 :=
    pointerAt_iff.mpr ⟨⟨.pointer, 0, 6⟩, rfl, rfl, rfl⟩
  have below := nestsPointers_of_leaf number rfl
  have nests : pointersToNumber.NestsPointers 1 1 := by
    refine nestsPointers_of_array array rfl ?_
    intro position levels item inside reached
    match position, inside with
    | 0, _ =>
        cases reached
        exact below.behind first
    | 1, _ =>
        have skipped : advance (pointersToNumber.skipAt 0) 1 3 = .ok 5 := rfl
        cases advance_skipAt_eq skipped reached
        exact below.behind second
  have decoded : pointersToNumber.decode 1 = .ok (.array [.uint16 0, .uint16 0], 7) := rfl
  obtain ⟨⟨factor, all⟩, byPointers, -⟩ := nodeCount_le_factor_mul_size
  exact ⟨rfl, nests, decoded, ⟨factor, all _ 1 7 _ rfl decoded⟩,
    byPointers _ 1 7 1 _ nests decoded⟩

end Section

end DataSection
