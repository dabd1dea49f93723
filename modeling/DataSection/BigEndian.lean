import DataSection.Instances

/-!
# Big-endian numerals

Numbers are written in base 256, most significant byte first.  `fixed` gives the
numeral of a chosen length and `minimal` the one that begins with no zero byte.

The main statements are that `value` reads both back and that a numeral is
determined by its length and its value, so no two payloads of one length agree.
-/

namespace DataSection.BigEndian

/-- The number that a list of bytes writes in base 256. -/
def value (digits : List UInt8) : Nat :=
  digits.foldl (fun total digit => total * 256 + digit.toNat) 0

/-- The last `width` digits of a number in base 256. -/
def fixed : (width number : Nat) → List UInt8
  | 0, _ => []
  | width + 1, number => fixed width (number / 256) ++ [UInt8.ofNat number]

/-- The number of digits that a number needs.  Zero needs none. -/
def width (number : Nat) : Nat :=
  if number = 0 then 0 else number.log2 / 8 + 1

/-- The numeral without leading zero bytes. -/
def minimal (number : Nat) : List UInt8 :=
  fixed (width number) number

/-- Induction from the least significant digit, the order in which numerals are
built. -/
@[elab_as_elim] theorem induction_concat {motive : List UInt8 → Prop}
    (digits : List UInt8) (nil : motive [])
    (concat : ∀ digits digit, motive digits → motive (digits ++ [digit])) :
    motive digits := by
  rw [← digits.reverse_reverse]
  induction digits.reverse with
  | nil => exact nil
  | cons digit digits ih => simpa using concat digits.reverse digit ih

@[simp] theorem value_nil : value [] = 0 := rfl

@[simp] theorem value_concat (digits : List UInt8) (digit : UInt8) :
    value (digits ++ [digit]) = value digits * 256 + digit.toNat := by
  simp [value]

@[simp] theorem length_fixed (width number : Nat) :
    (fixed width number).length = width := by
  induction width generalizing number with
  | zero => rfl
  | succ width ih => simp [fixed, ih]

/-- A numeral of fixed length keeps the number up to its own range. -/
@[simp] theorem value_fixed (width number : Nat) :
    value (fixed width number) = number % 256 ^ width := by
  induction width generalizing number with
  | zero => simp [fixed, Nat.mod_one]
  | succ width ih =>
      rw [fixed, value_concat, ih, Nat.pow_succ, Nat.mul_comm (256 ^ width) 256,
        Nat.mod_mul]
      simp only [UInt8.toNat_ofNat']
      omega

theorem value_lt (digits : List UInt8) : value digits < 256 ^ digits.length := by
  induction digits using induction_concat with
  | nil => simp
  | concat digits digit ih =>
      have bound := digit.toNat_lt
      rw [value_concat, List.length_append, List.length_singleton, Nat.pow_succ]
      omega

/-- Reading a payload and writing it at the same length reproduces it. -/
@[simp] theorem fixed_value (digits : List UInt8) :
    fixed digits.length (value digits) = digits := by
  induction digits using induction_concat with
  | nil => rfl
  | concat digits digit ih =>
      have bound := digit.toNat_lt
      have high : (value digits * 256 + digit.toNat) / 256 = value digits := by omega
      have low : UInt8.ofNat (value digits * 256 + digit.toNat) = digit := by
        apply UInt8.toNat_inj.mp
        simp only [UInt8.toNat_ofNat']
        omega
      rw [List.length_append, List.length_singleton, value_concat, fixed, high, low, ih]

/-- Two numerals of one length with one value are the same. -/
theorem eq_of_value_eq {left right : List UInt8} (lengths : left.length = right.length)
    (values : value left = value right) : left = right := by
  rw [← fixed_value left, ← fixed_value right, lengths, values]

@[simp] theorem width_zero : width 0 = 0 := rfl

/-- A number fits in `digits` bytes exactly when its width is at most that. -/
theorem width_le_iff (number digits : Nat) :
    width number ≤ digits ↔ number < 256 ^ digits := by
  unfold width
  split
  next zero =>
      rw [zero]
      exact iff_of_true (Nat.zero_le digits) (Nat.pow_pos (by decide))
  next nonzero =>
      rw [show (256 : Nat) = 2 ^ 8 from rfl, ← Nat.pow_mul,
        ← Nat.log2_lt nonzero]
      omega

theorem lt_pow_width (number : Nat) : number < 256 ^ width number :=
  (width_le_iff number (width number)).mp (Nat.le_refl _)

@[simp] theorem value_minimal (number : Nat) : value (minimal number) = number := by
  rw [minimal, value_fixed, Nat.mod_eq_of_lt (lt_pow_width number)]

@[simp] theorem length_minimal (number : Nat) :
    (minimal number).length = width number := by
  simp [minimal]

/-- No numeral of the same value is shorter. -/
theorem length_minimal_le (digits : List UInt8) :
    (minimal (value digits)).length ≤ digits.length := by
  rw [length_minimal]
  exact (width_le_iff _ _).mpr (value_lt digits)

end DataSection.BigEndian
