import DataSection.Path
import DataSection.Text.Numeral
import DataSection.Value.Basic

/-!
# Walking along paths

`walk` follows the steps of a path through a value.  `getPath` follows texts, each of
which is a key where the walk stands on a map and a position where it stands on an
array.
-/

namespace DataSection.Value

/-- The value under a key, if the value is a map. -/
def get? (value : Value) (key : String) : Option Value :=
  match value with
  | .map entries => entries.get? key.toUTF8
  | _ => none

/-- The element at a position, if the value is an array. -/
def element? (value : Value) (position : Nat) : Option Value :=
  match value with
  | .array elements => elements[position]?
  | _ => none

/-- The value to which a step leads. -/
def step? (value : Value) : Step → Option Value
  | .key text => value.get? text
  | .index position => value.element? position

/-- The value at the end of a path. -/
def walk (value : Value) : Path → Option Value
  | [] => some value
  | step :: path =>
      match value.step? step with
      | none => none
      | some next => next.walk path

/-- The step that a text means where a walk stands on a value. -/
def readStep? (value : Value) (text : String) : Option Step :=
  match value with
  | .map _ => some (.key text)
  | .array _ => (Text.position? text).map .index
  | _ => none

/-- The value at the end of a path of texts. -/
def getPath (value : Value) : List String → Option Value
  | [] => some value
  | text :: texts =>
      match (value.readStep? text).bind value.step? with
      | none => none
      | some next => next.getPath texts

/-- The path that texts mean from a value on, if the walk along them ends. -/
def readPath? (value : Value) : List String → Option Path
  | [] => some []
  | text :: texts =>
      match value.readStep? text with
      | none => none
      | some step =>
          match value.step? step with
          | none => none
          | some next => (next.readPath? texts).map (step :: ·)

@[simp] theorem walk_nil (value : Value) : value.walk [] = some value := rfl

theorem walk_cons (value : Value) (step : Step) (path : Path) :
    value.walk (step :: path) = (value.step? step).bind (·.walk path) := by
  rw [walk]
  cases value.step? step <;> rfl

theorem walk_append (value : Value) (first second : Path) :
    value.walk (first ++ second) = (value.walk first).bind (·.walk second) := by
  induction first generalizing value with
  | nil => rfl
  | cons step path ih =>
      rw [List.cons_append, walk_cons, walk_cons]
      cases value.step? step with
      | none => rfl
      | some next => exact ih next

end DataSection.Value
