import DataSection.Text.Utf8
import DataSection.Value.Basic

/-!
# Checking the strings of a value

Reading a value does not look into its strings.  `checkStrings` does: it counts those
that are UTF-8 and stops at the first that is not.
-/

namespace DataSection.Value

mutual

/-- The number of strings, keys included, if all of them are UTF-8. -/
def checkStrings : Value → Except ReadError Nat
  | .string text => (Text.check text).map fun _ => 1
  | .array elements => checkElements elements 0
  | .map ⟨entries⟩ => checkEntries entries 0
  | _ => .ok 0

/-- The number of strings in elements, added to `count`. -/
def checkElements : List Value → (count : Nat) → Except ReadError Nat
  | [], count => .ok count
  | element :: rest, count =>
      match element.checkStrings with
      | .error error => .error error
      | .ok more => checkElements rest (count + more)

/-- The number of strings in entries, added to `count`. -/
def checkEntries : List (ByteArray × Value) → (count : Nat) → Except ReadError Nat
  | [], count => .ok count
  | (key, value) :: rest, count =>
      match Text.check key with
      | .error error => .error error
      | .ok () =>
          match value.checkStrings with
          | .error error => .error error
          | .ok more => checkEntries rest (count + 1 + more)

end

end DataSection.Value
