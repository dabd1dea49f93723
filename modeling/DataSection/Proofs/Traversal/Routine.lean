import DataSection.Section.Lookup

/-!
# Traversals that may never end

Reading, skipping and looking up are functions, and so they always end.  Here they are stated
once more without anything that bounds them: each calls itself on whatever offset the bytes name,
and counts how deep it is instead of how many levels are left.  Such a routine is a least fixed
point, which has no outcome where it never ends.

The count of depths is a word.  The largest one is followed by zero.

A routine records every call it makes, also where it fails.  That it ends with an outcome after
certain calls is put together from its parts.
-/

namespace DataSection

/-- What a routine records. -/
inductive Call where
  /-- A value is read. -/
  | read (depth offset : Nat)
  /-- An item is skipped. -/
  | skip (depth offset : Nat)
  /-- A pointer on the way of a path is followed to a target. -/
  | hop (depth target : Nat)
  deriving DecidableEq

namespace Call

/-- The depth at which a call is made. -/
def depth : Call → Nat
  | read depth _ | skip depth _ | hop depth _ => depth

/-- The offset to which a call goes. -/
def offset : Call → Nat
  | read _ offset | skip _ offset | hop _ offset => offset

/-- Whether a pointer on the way of a path is followed. -/
def isHop : Call → Bool
  | hop _ _ => true
  | _ => false

/-- The number of pointers that are followed on the way of a path. -/
def hops (calls : List Call) : Nat :=
  calls.countP isHop

end Call

/-- Work that may fail or never end, with the calls that it makes on the way. -/
abbrev Routine (α : Type) := ExceptT ReadError (StateT (List Call) Option) α

namespace Routine

/-- Note a call. -/
def record (call : Call) : Routine Unit :=
  modify (· ++ [call])

/-- The rounds of a loop. -/
def rounds (count : Nat) : List Unit :=
  List.replicate count ()

/-- A routine ends with an outcome, after certain calls. -/
def Ends {α : Type} (routine : Routine α) (outcome : Except ReadError α) (calls : List Call) :
    Prop :=
  ∀ log, routine.run.run log = some (outcome, log ++ calls)

/-- A routine ends with an outcome, after whatever calls. -/
def EndsWith {α : Type} (routine : Routine α) (outcome : Except ReadError α) : Prop :=
  ∃ calls, Ends routine outcome calls

section Ends

variable {α β : Type} {routine : Routine α} {next : α → Routine β}
variable {outcome other : Except ReadError α} {calls more : List Call}

theorem ends_pure (result : α) : Ends (pure result) (.ok result) [] := by
  intro log
  rw [List.append_nil]
  rfl

theorem ends_throw (error : ReadError) : Ends (throw error : Routine α) (.error error) [] := by
  intro log
  rw [List.append_nil]
  rfl

theorem ends_ofExcept (outcome : Except ReadError α) :
    Ends (ofExcept outcome) outcome [] := by
  cases outcome with
  | ok result => exact ends_pure result
  | error error => exact ends_throw error

theorem ofExcept_ok_bind (result : α) (next : α → Routine β) :
    (ofExcept (.ok result : Except ReadError α) : Routine α) >>= next = next result :=
  pure_bind result next

theorem ends_record (call : Call) : Ends (record call) (.ok ()) [call] := by
  intro log
  rfl

/-- What is done next adds its calls to those before. -/
theorem Ends.bind {result : α} {last : Except ReadError β}
    (first : Ends routine (.ok result) calls) (rest : Ends (next result) last more) :
    Ends (routine >>= next) last (calls ++ more) := by
  intro log
  rw [ExceptT.run_bind, StateT.run_bind, first log, ← List.append_assoc]
  exact rest (log ++ calls)

/-- Behind an error nothing is done. -/
theorem Ends.bind_error {error : ReadError} (first : Ends routine (.error error) calls) :
    Ends (routine >>= next) (.error error) calls := by
  intro log
  rw [ExceptT.run_bind, StateT.run_bind, first log]
  rfl

/-- A routine ends in one way. -/
theorem Ends.unique (ends : Ends routine outcome calls) (others : Ends routine other more) :
    outcome = other ∧ calls = more := by
  have same := (ends []).symm.trans (others [])
  rwa [Option.some.injEq, Prod.mk.injEq] at same

theorem EndsWith.unique (ends : EndsWith routine outcome) (others : EndsWith routine other) :
    outcome = other := by
  obtain ⟨calls, ends⟩ := ends
  obtain ⟨more, others⟩ := others
  exact (ends.unique others).1

/-- What is recorded first stands in front. -/
theorem Ends.record {rest : Routine α} (ends : Ends rest outcome calls) (call : Call) :
    Ends (Routine.record call >>= fun _ => rest) outcome (call :: calls) :=
  (ends_record call).bind ends

end Ends

end Routine

namespace Section

open Routine (record rounds)

/-- The depth one further down. -/
def deeper (depth : Nat) : Nat :=
  (depth + 1) % Format.offsetRange

/-- The depth below an item that leads to so many others, which has to be within the limit if
there is an item at it. -/
def enter (data : Section) (items depth : Nat) : Routine Nat :=
  if 0 < items ∧ data.limit < deeper depth then
    throw (.tooDeep data.limit)
  else
    return deeper depth

/-- Skip the item at an offset. -/
def skipping (data : Section) (depth offset : Nat) : Routine Nat := do
  record (.skip depth offset)
  let header ← ofExcept (data.header offset)
  match header.kind with
  | .array =>
      let depth ← data.enter header.size depth
      (rounds header.size).foldlM (fun offset _ => data |>.skipping depth offset) header.payload
  | .map =>
      let depth ← data.enter (2 * header.size) depth
      (rounds (2 * header.size)).foldlM (fun offset _ => data |>.skipping depth offset)
        header.payload
  | _ => ofExcept (data.skipAt 0 offset)  -- Pointers and leaves call nothing.
partial_fixpoint

/-- The string that a value is that stands as a key. -/
def asKey (offset : Nat) (found : Value × Nat) : Except ReadError (ByteArray × Nat) :=
  key (fun _ => .ok found) offset

theorem key_eq_bind_asKey (read : Nat → Except ReadError (Value × Nat)) (offset : Nat) :
    key read offset = read offset >>= asKey offset := by
  rw [key]
  cases read offset with
  | error error => rfl
  | ok found => rfl

/-- Read the value at an offset. -/
def reading (data : Section) (depth offset : Nat) : Routine (Value × Nat) := do
  record (.read depth offset)
  let header ← ofExcept (data.header offset)
  match header.kind with
  | .pointer =>
      let (target, next) ← ofExcept (data.pointer header)
      let depth ← data.enter 1 depth
      let (value, _) ← data |>.reading depth target
      return (value, next)
  | .array =>
      let depth ← data.enter header.size depth
      let (elements, next) ← (rounds header.size).foldlM (fun (elements, offset) _ => do
        let (element, next) ← data |>.reading depth offset
        return (element :: elements, next)) ([], header.payload)
      return (.array elements.reverse, next)
  | .map =>
      let depth ← data.enter header.size depth
      let (entries, next) ← (rounds header.size).foldlM (fun (entries, offset) _ => do
        let found ← data |>.reading depth offset
        let (key, start) ← ofExcept (asKey offset found)
        let (value, next) ← data |>.reading depth start
        return ((key, value) :: entries, next)) ([], header.payload)
      return (.map (Dictionary.ofList entries.reverse), next)
  | _ => ofExcept (data.decodeAt 0 offset)  -- Leaves call nothing.
partial_fixpoint

/-- Follow pointers from an offset to the first item that is none. -/
def resolving (data : Section) (depth offset : Nat) : Routine (Header × Nat) := do
  let header ← ofExcept (data.header offset)
  if header.kind = .pointer then
    let depth ← data.enter 1 depth
    let (target, _) ← ofExcept (data.pointer header)
    record (.hop depth target)
    data |>.resolving depth target
  else
    return (header, depth)
partial_fixpoint

/-- Find where a step leads from the item with a header, if it leads anywhere. -/
def stepping (data : Section) (depth : Nat) (header : Header) : Step → Routine (Option Nat)
  | .key text =>
      if header.kind = .map then do
        let (found, _) ← (rounds header.size).foldlM (fun (found, offset) _ => do
          let candidate ← data.reading depth offset
          let (held, start) ← ofExcept (asKey offset candidate)
          let next ← data.skipping depth start
          return (if held = text.toUTF8 then some start else found, next)) (none, header.payload)
        return found
      else
        return none
  | .index position =>
      if header.kind = .array ∧ position < header.size then do
        let start ← (rounds position).foldlM (fun offset _ => data.skipping depth offset)
          header.payload
        return some start
      else
        return none

/-- Look up the value at the end of a path from an offset. -/
def lookingUp (data : Section) : (path : Path) → (depth offset : Nat) → Routine (Option Value)
  | [], depth, offset => do
      let (value, _) ← data.reading depth offset
      return some value
  | step :: path, depth, offset => do
      let (header, depth) ← data.resolving depth offset
      let depth ← data.enter 1 depth
      match ← data.stepping depth header step with
      | none => return none
      | some next => data.lookingUp path depth next

end Section

end DataSection
