import DataSection.Binary
import DataSection.Value.Basic

/-!
# Equality of values

Values are compared as what they mean: maps as sets of entries, floats as numbers,
of which a NaN equals nothing.  Values of different kinds are never equal, even if
they hold the same number.
-/

namespace DataSection.Value

mutual

/-- Whether two values mean the same. -/
def equals : Value → Value → Bool
  | .string left, .string right => decide (left = right)
  | .double left, .double right =>
      (Binary.Format.double.decode left.toNat).equals (Binary.Format.double.decode right.toNat)
  | .bytes left, .bytes right => decide (left = right)
  | .uint16 left, .uint16 right => left == right
  | .uint32 left, .uint32 right => left == right
  | .map ⟨left⟩, .map ⟨right⟩ => left.length == right.length && equalEntries left right
  | .int32 left, .int32 right => left == right
  | .uint64 left, .uint64 right => left == right
  | .uint128 left, .uint128 right => left == right
  | .array left, .array right => equalElements left right
  | .boolean left, .boolean right => left == right
  | .float left, .float right =>
      (Binary.Format.single.decode left.toNat).equals (Binary.Format.single.decode right.toNat)
  | _, _ => false

/-- Whether two lists have equal elements at equal positions. -/
def equalElements : List Value → List Value → Bool
  | [], [] => true
  | left :: lefts, right :: rights => left.equals right && equalElements lefts rights
  | _, _ => false

/-- Whether every entry of the left list has an equal one under the same key on the
right. -/
def equalEntries : List (ByteArray × Value) → List (ByteArray × Value) → Bool
  | [], _ => true
  | (key, left) :: lefts, rights =>
      (match Dictionary.find? key rights with
        | some right => left.equals right
        | none => false) && equalEntries lefts rights

end

end DataSection.Value

namespace DataSection.Dictionary

/-- Whether two dictionaries of values hold equal values under equal keys. -/
def equals (left right : Dictionary Value) : Bool :=
  (Value.map left).equals (.map right)

end DataSection.Dictionary
