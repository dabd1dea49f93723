import DataSection.Binary

/-!
# Shortest decimals

The decimal of a float is the one with the fewest digits that rounds to it, and of
those the nearest.  Fewest digits means the coarsest grid of multiples of a power of
ten that has a point in the interval of reals that round to the float, so the grids
are tried from coarse to fine.
-/

namespace DataSection.Decimal

/-- The reals that round to a float: those from `low` to `high`, all in units of
`2 ^ exponent`. -/
structure Interval where
  low : Nat
  middle : Nat
  high : Nat
  exponent : Int
  /-- Whether the ends round to the float, too. -/
  closed : Bool

/-- The interval of a finite float.  The gap below the smallest significand of a
binary exponent is half as wide as the one above, unless the exponent is the
lowest. -/
def Interval.ofFinite (format : Binary.Format) (significand : Nat) (exponent : Int) :
    Interval :=
  let narrow := significand = 2 ^ format.fractionBits ∧ format.lowestExponent < exponent
  { low := 4 * significand - (if narrow then 1 else 2)
    middle := 4 * significand
    high := 4 * significand + 2
    exponent := exponent - 2
    closed := significand % 2 == 0 }

/-- The quotient that compares multiples of `2 ^ binary` with multiples of
`10 ^ decimal`: a number of the former over the first factor is one of the latter
over the second. -/
def scale (binary decimal : Int) : Nat × Nat :=
  (2 ^ binary.toNat * 10 ^ (-decimal).toNat, 2 ^ (-binary).toNat * 10 ^ decimal.toNat)

/-- The multiple of `10 ^ power` in an interval that is nearest to its middle, if
there is one.  The upper of two equally near ones counts. -/
def nearestMultiple? (interval : Interval) (power : Int) : Option Nat :=
  let (up, down) := scale interval.exponent power
  let inside (count : Nat) : Bool :=
    if interval.closed then
      interval.low * up ≤ count * down && count * down ≤ interval.high * up
    else
      interval.low * up < count * down && count * down < interval.high * up
  let below := interval.middle * up / down
  let above := below + 1
  match inside below && 0 < below, inside above with
  | true, true =>
      let belowIsNearer := interval.middle * up - below * down < above * down - interval.middle * up
      some (if belowIsNearer then below else above)
  | true, false => some below
  | false, true => some above
  | false, false => none

/-- The first grid with a point in an interval, from `10 ^ power` on downward, and
the point. -/
def firstMultiple? (interval : Interval) : (steps : Nat) → (power : Int) → Option (Nat × Int)
  | 0, _ => none
  | steps + 1, power =>
      match nearestMultiple? interval power with
      | some count => some (count, power)
      | none => firstMultiple? interval steps (power - 1)

/-- The shortest decimal of a positive float, as a number of units of a power of
ten.  No double is as large as the first power, and the last is finer than all. -/
def shortest (format : Binary.Format) (significand : Nat) (exponent : Int) : Nat × Int :=
  (firstMultiple? (.ofFinite format significand exponent) 700 310).getD (0, 0)

/-- How decimals are written. -/
structure Style where
  /-- Numbers below this power of ten are written with an exponent. -/
  lowestPositional : Int
  /-- Numbers of this power of ten and above are written with an exponent. -/
  firstAbove : Int

/-- Zeros in a row. -/
def zeros (count : Nat) : List Char :=
  List.replicate count '0'

/-- The text of `count * 10 ^ power`, for a number that no higher power divides.
Without an exponent it has at least one decimal. -/
def render (style : Style) (count : Nat) (power : Int) : String :=
  let digits := Nat.toDigits 10 count
  -- The power of ten of the first digit.
  let top := power + digits.length - 1
  String.ofList <|
    if top < style.lowestPositional ∨ style.firstAbove ≤ top then
      let fraction := digits.drop 1
      digits.take 1 ++ (if fraction.isEmpty then [] else '.' :: fraction) ++
        'e' :: (toString top).toList
    else if 0 ≤ power then
      digits ++ zeros power.toNat ++ ['.', '0']
    else if 0 ≤ top then
      let whole := top.toNat + 1
      digits.take whole ++ '.' :: digits.drop whole
    else
      '0' :: '.' :: zeros (-top - 1).toNat ++ digits

/-- The text of a floating-point number. -/
def text (format : Binary.Format) (style : Style) : Binary.Number → String
  | .nan _ _ => "NaN"
  | .infinite negative => if negative then "-inf" else "inf"
  | .finite negative significand exponent =>
      let sign := if negative then "-" else ""
      if significand = 0 then
        sign ++ "0.0"
      else
        let (count, power) := shortest format significand exponent
        sign ++ render style count power

end DataSection.Decimal
