import DataSection.Binary
import DataSection.Text.Utf8
import DataSection.Value.Basic

/-!
# What a value holds

Each function gives the content of a value if it is of the kind asked for.  Integers
of all widths answer alike, provided that the number fits.
-/

namespace DataSection.Value

/-- The text of a string that is UTF-8. -/
def asText? : Value → Option String
  | .string text => (Text.read text).toOption
  | _ => none

/-- The bytes of a string or a byte array. -/
def asBytes? : Value → Option ByteArray
  | .string text => some text
  | .bytes content => some content
  | _ => none

/-- The flag that a boolean is. -/
def asBoolean? : Value → Option Bool
  | .boolean flag => some flag
  | _ => none

/-- The number that an integer of any width is. -/
def asInteger? : Value → Option Int
  | .uint16 number => some number.toNat
  | .uint32 number => some number.toNat
  | .uint64 number => some number.toNat
  | .uint128 number => some number.toNat
  | .int32 number => some number.toInt
  | _ => none

/-- The number that an integer is, if it fits into 64 bits without sign. -/
def asUInt64? (value : Value) : Option UInt64 :=
  match value.asInteger? with
  | some number =>
      if 0 ≤ number ∧ number < 2 ^ 64 then some (UInt64.ofNat number.toNat) else none
  | none => none

/-- The number that an integer is, if it fits into 64 bits with sign. -/
def asInt64? (value : Value) : Option Int64 :=
  match value.asInteger? with
  | some number =>
      if -2 ^ 63 ≤ number ∧ number < 2 ^ 63 then some (Int64.ofInt number) else none
  | none => none

/-- The bits of a double, or of the double with the value of a float. -/
def asDouble? : Value → Option UInt64
  | .double bits => some bits
  | .float bits => some (Binary.Format.single.decode bits.toNat).toDouble
  | _ => none

/-- The entries of a map. -/
def asMap? : Value → Option (Dictionary Value)
  | .map entries => some entries
  | _ => none

/-- The elements of an array. -/
def asArray? : Value → Option (List Value)
  | .array elements => some elements
  | _ => none

/-- Every unsigned integer below the range of a machine word is found again. -/
theorem asUInt64?_eq_some_iff {value : Value} {number : UInt64} :
    value.asUInt64? = some number ↔ value.asInteger? = some (number.toNat : Int) := by
  have bound := number.toNat_lt
  unfold asUInt64?
  cases value.asInteger? with
  | none => simp
  | some held =>
      simp only [Option.some.injEq]
      split
      next fits =>
          obtain ⟨natural, rfl⟩ := Int.eq_ofNat_of_zero_le fits.1
          have small : natural < 2 ^ 64 := by omega
          rw [Option.some.injEq, ← UInt64.toNat_inj]
          simp only [Int.toNat_natCast, UInt64.toNat_ofNat']
          omega
      next misfit =>
          simp only [reduceCtorEq, false_iff]
          omega

end DataSection.Value
