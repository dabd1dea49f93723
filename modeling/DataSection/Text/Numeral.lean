import DataSection.Instances

/-!
# Numbers as text

Decimal texts are read into natural numbers below a limit, and numbers are written
in hexadecimal.
-/

namespace DataSection.Text

/-- The value of a decimal digit. -/
def digitValue? (char : Char) : Option Nat :=
  if '0' ≤ char ∧ char ≤ '9' then some (char.toNat - '0'.toNat) else none

/-- The number that digits write behind the digits of `number`. -/
def digitsFrom? (number : Nat) : List Char → Option Nat
  | [] => some number
  | char :: rest =>
      match digitValue? char with
      | none => none
      | some digit => digitsFrom? (number * 10 + digit) rest

/-- The number that a text of at least one digit writes. -/
def digits? : List Char → Option Nat
  | [] => none
  | first :: rest => digitsFrom? 0 (first :: rest)

/-- The position that a text names: digits, perhaps behind one plus sign, for a
number that a machine word holds. -/
def position? (text : String) : Option Nat :=
  let digits := match text.toList with
    | '+' :: rest => rest
    | all => all
  (digits? digits).filter (· < 2 ^ 64)

/-- The hexadecimal digits of a number. -/
def hex (number : Nat) : String :=
  String.ofList (Nat.toDigits 16 number)

/-- The hexadecimal digits of a number, of which there are at least `width`. -/
def paddedHex (width number : Nat) : String :=
  let digits := Nat.toDigits 16 number
  String.ofList (List.replicate (width - digits.length) '0' ++ digits)

end DataSection.Text
