import DataSection.Instances

/-!
# Binary floating-point numbers

A float is kept as its bit pattern.  `Format.decode` says which number a pattern
stands for, and equality and widening are defined on that number, so both are
exact and neither depends on how a processor rounds.
-/

namespace DataSection.Binary

/-- What a floating-point bit pattern stands for.  A finite number is
`significand * 2 ^ exponent`, with a sign. -/
inductive Number where
  | finite (negative : Bool) (significand : Nat) (exponent : Int)
  | infinite (negative : Bool)
  | nan (negative : Bool) (payload : Nat)
  deriving DecidableEq

/-- The widths of the two fields below the sign. -/
structure Format where
  exponentBits : Nat
  fractionBits : Nat
  deriving DecidableEq

/-- The 32-bit interchange format. -/
def Format.single : Format := ⟨8, 23⟩

/-- The 64-bit interchange format. -/
def Format.double : Format := ⟨11, 52⟩

namespace Format

/-- The exponent of the last place of a number whose exponent field is one. -/
def lowestExponent (format : Format) : Int :=
  2 - (2 ^ (format.exponentBits - 1) : Nat) - format.fractionBits

/-- The number that a bit pattern stands for. -/
def decode (format : Format) (bits : Nat) : Number :=
  let fraction := bits % 2 ^ format.fractionBits
  let exponent := bits / 2 ^ format.fractionBits % 2 ^ format.exponentBits
  let negative := bits / 2 ^ (format.fractionBits + format.exponentBits) % 2 == 1
  if exponent = 2 ^ format.exponentBits - 1 then
    if fraction = 0 then .infinite negative else .nan negative fraction
  else if exponent = 0 then
    .finite negative fraction format.lowestExponent
  else
    .finite negative (fraction + 2 ^ format.fractionBits)
      (format.lowestExponent + (exponent - 1 : Nat))

end Format

namespace Number

/-- Whether two numbers of one format are equal: zeros of both signs are, and a
NaN equals nothing. -/
def equals : Number → Number → Bool
  | .finite negative significand exponent, .finite negative' significand' exponent' =>
      (significand == 0 && significand' == 0) ||
        (negative == negative' && significand == significand' && exponent == exponent')
  | .infinite negative, .infinite negative' => negative == negative'
  | _, _ => false

/-- Whether the pattern stands for no number. -/
def isNaN : Number → Bool
  | .nan _ _ => true
  | _ => false

/-- The double with the value of a number that single precision can hold.  Every
single, the subnormal ones too, is a normal double; a NaN keeps its payload in
the high bits and becomes quiet. -/
def toDouble (number : Number) : UInt64 :=
  let sign (negative : Bool) : Nat := if negative then 2 ^ 63 else 0
  match number with
  | .finite negative 0 _ => UInt64.ofNat (sign negative)
  | .finite negative significand exponent =>
      let top := significand.log2
      let field := (exponent + top + 1023).toNat
      UInt64.ofNat
        (sign negative + field * 2 ^ 52 + (significand - 2 ^ top) * 2 ^ (52 - top))
  | .infinite negative => UInt64.ofNat (sign negative + 2047 * 2 ^ 52)
  | .nan negative payload =>
      UInt64.ofNat (sign negative + 2047 * 2 ^ 52 + (payload * 2 ^ 29 ||| 2 ^ 51))

/-- A number equals itself unless it is a NaN. -/
@[simp] theorem equals_self (number : Number) : number.equals number = !number.isNaN := by
  cases number <;> simp [equals, isNaN]

theorem equals_comm (left right : Number) : left.equals right = right.equals left := by
  rw [Bool.eq_iff_iff]
  cases left <;> cases right <;> simp [equals] <;> grind

theorem equals_trans {left middle right : Number} (first : left.equals middle = true)
    (second : middle.equals right = true) : left.equals right = true := by
  cases left <;> cases middle <;> cases right <;> simp_all [equals]
  -- Only finite numbers are left, of which each is zero or has the parts of the next.
  grind

end Number

end DataSection.Binary
