import DataSection.Binary
import Mathlib.Data.Nat.Basic

/-!
# Equality of floats on their bits

Equality of floats is defined on the numbers that their patterns stand for.  Since no two
patterns of one format stand for the same, it can be told from the bits: two floats are
equal if they have the same bits and are no NaN, or if both are zero but for the sign.
-/

namespace DataSection.Binary

namespace Number

/-- Whether a number is a zero of either sign. -/
def isZero : Number → Bool
  | .finite _ significand _ => significand == 0
  | _ => false

/-- Two numbers are equal if they are the same and no NaN, or both zero. -/
theorem equals_eq_true_iff {left right : Number} :
    left.equals right = true ↔
      left.isNaN = false ∧ left = right ∨ left.isZero = true ∧ right.isZero = true := by
  cases left <;> cases right <;> (simp [equals, isNaN, isZero]; try grind)

end Number

namespace Format

variable {format : Format} {left right bits : Nat}

/-- What two patterns have in common that stand for the same. -/
theorem fields_eq_of_decode_eq (same : format.decode left = format.decode right) :
    left % 2 ^ format.fractionBits = right % 2 ^ format.fractionBits ∧
      left / 2 ^ format.fractionBits % 2 ^ format.exponentBits =
        right / 2 ^ format.fractionBits % 2 ^ format.exponentBits ∧
      left / 2 ^ (format.fractionBits + format.exponentBits) % 2 =
        right / 2 ^ (format.fractionBits + format.exponentBits) % 2 := by
  have leftFraction := Nat.mod_lt left (Nat.two_pow_pos format.fractionBits)
  have rightFraction := Nat.mod_lt right (Nat.two_pow_pos format.fractionBits)
  have signs : ∀ first second : Nat,
      ((first % 2 == 1) = (second % 2 == 1)) ↔ first % 2 = second % 2 := by
    intro first second
    rw [Bool.eq_iff_iff, beq_iff_eq, beq_iff_eq]
    omega
  simp only [decode] at same
  -- Numbers from different branches differ in their constructor, or in whether the
  -- significand has the bit that a fraction lacks.
  split at same <;> split at same <;> split at same <;> try split at same
  all_goals
    simp only [Number.infinite.injEq, Number.nan.injEq, Number.finite.injEq, reduceCtorEq,
      signs] at same
  all_goals omega

/-- No two patterns that fit into the format stand for the same. -/
theorem decode_injective
    (leftFits : left < 2 ^ (format.fractionBits + format.exponentBits + 1))
    (rightFits : right < 2 ^ (format.fractionBits + format.exponentBits + 1))
    (same : format.decode left = format.decode right) : left = right := by
  obtain ⟨fractions, exponents, signs⟩ := fields_eq_of_decode_eq same
  have single : ∀ bits, bits < 2 ^ (format.fractionBits + format.exponentBits + 1) →
      bits / 2 ^ (format.fractionBits + format.exponentBits) < 2 := by
    intro bits fits
    rw [Nat.div_lt_iff_lt_mul (Nat.two_pow_pos _)]
    rwa [Nat.pow_succ, Nat.mul_comm] at fits
  rw [Nat.mod_eq_of_lt (single left leftFits), Nat.mod_eq_of_lt (single right rightFits),
    Nat.pow_add, ← Nat.div_div_eq_div_mul, ← Nat.div_div_eq_div_mul] at signs
  have high : left / 2 ^ format.fractionBits = right / 2 ^ format.fractionBits := by
    rw [← Nat.div_add_mod (left / 2 ^ format.fractionBits) (2 ^ format.exponentBits), signs,
      exponents, Nat.div_add_mod]
  rw [← Nat.div_add_mod left (2 ^ format.fractionBits), high, fractions, Nat.div_add_mod]

/-- The zeros are the patterns without any bit but that of the sign. -/
theorem isZero_decode_iff (positive : 0 < format.exponentBits) :
    (format.decode bits).isZero = true ↔
      bits % 2 ^ (format.fractionBits + format.exponentBits) = 0 := by
  have two : 2 ≤ 2 ^ format.exponentBits := Nat.pow_le_pow_right (by decide : 0 < 2) positive
  have fraction := Nat.two_pow_pos format.fractionBits
  rw [Nat.pow_add, Nat.mod_mul, Nat.add_eq_zero_iff, Nat.mul_eq_zero]
  simp only [decode]
  split
  · split <;> simp only [Number.isZero, Bool.false_eq_true, false_iff] <;> omega
  · split <;> simp only [Number.isZero, beq_iff_eq] <;> omega

/-- Equality of what patterns stand for, told from the patterns. -/
theorem decode_equals_iff (positive : 0 < format.exponentBits)
    (leftFits : left < 2 ^ (format.fractionBits + format.exponentBits + 1))
    (rightFits : right < 2 ^ (format.fractionBits + format.exponentBits + 1)) :
    (format.decode left).equals (format.decode right) = true ↔
      (format.decode left).isNaN = false ∧ left = right ∨
        left % 2 ^ (format.fractionBits + format.exponentBits) = 0 ∧
          right % 2 ^ (format.fractionBits + format.exponentBits) = 0 := by
  rw [Number.equals_eq_true_iff, isZero_decode_iff positive, isZero_decode_iff positive]
  apply or_congr_left
  apply and_congr_right
  intro number
  exact ⟨decode_injective leftFits rightFits, congrArg format.decode⟩

end Format

end DataSection.Binary
