import DataSection.Section.Decode

/-!
# Skipping values

`skip` finds the end of an item without building its value.  It follows no pointer
and looks at no scalar payload, so it reads on where reading the value would stop
with a size that the kind does not allow or a key that is no string.
-/

namespace DataSection.Section

/-- Take `count` steps of which each starts where the one before it ends. -/
def advance (step : Nat → Except ReadError Nat) :
    (count offset : Nat) → Except ReadError Nat
  | 0, offset => .ok offset
  | count + 1, offset =>
      match step offset with
      | .error error => .error error
      | .ok next => advance step count next

/-- Skip the item at an offset, and all items in it by `step`. -/
def skipNode (data : Section) (step : Nat → Except ReadError Nat) (offset : Nat) :
    Except ReadError Nat := do
  let header ← data.header offset
  match header.kind with
  | .pointer => do
      let (_, next) ← data.pointer header
      return next
  | .boolean => return header.payload
  | .array => advance step header.size header.payload
  | .map => advance step (2 * header.size) header.payload
  | _ => do
      let (_, next) ← data.content header
      return next

/-- The offset behind the item at an offset, with so many levels left below it. -/
def skipAt (data : Section) : (levels offset : Nat) → Except ReadError Nat
  | 0, offset => data.skipNode (fun _ => .error (.tooDeep data.limit)) offset
  | levels + 1, offset => data.skipNode (data.skipAt levels) offset

/-- The offset behind the item at an offset. -/
def skip (data : Section) (offset : Nat) : Except ReadError Nat :=
  data.skipAt data.limit offset

end DataSection.Section
