import DataSection.Section.Decode

/-!
# Reading one value after the other

A cursor reads the values that stand behind one another from an offset to the end
of the bytes.  It stops at the end or behind its first error.
-/

namespace DataSection

/-- A place in a section from which to read on. -/
structure Cursor where
  data : Section
  offset : Nat
  /-- Whether reading has failed. -/
  failed : Bool := false

/-- What a cursor yields: a value and its offset, or why it cannot be read. -/
abbrev Cursor.Item := Except ReadError (Nat × Value)

namespace Cursor

/-- The next item, if there is one, and the cursor behind it. -/
def next (cursor : Cursor) : Option Item × Cursor :=
  if cursor.failed || cursor.data.size ≤ cursor.offset then
    (none, cursor)
  else
    match cursor.data.decode cursor.offset with
    | .ok (value, next) => (some (.ok (cursor.offset, value)), { cursor with offset := next })
    | .error error => (some (.error error), { cursor with failed := true })

/-- The next `count` items, or all if there are fewer, and the cursor behind them.
`items` are those yielded so far, the last one first. -/
def take : (count : Nat) → Cursor → (items : List Item) → List Item × Cursor
  | 0, cursor, items => (items.reverse, cursor)
  | count + 1, cursor, items =>
      match cursor.next with
      | (none, cursor) => (items.reverse, cursor)
      | (some item, cursor) => take count cursor (item :: items)

/-- A cursor that has not failed yields something exactly before the end. -/
theorem fst_next_eq_none_iff {cursor : Cursor} :
    cursor.next.1 = none ↔ cursor.failed = true ∨ cursor.data.size ≤ cursor.offset := by
  unfold next
  split
  next stopped => simpa using stopped
  next running =>
      simp only [Bool.or_eq_true, decide_eq_true_eq] at running
      split <;> simp [running]

end Cursor

namespace Section

/-- A cursor at an offset. -/
def cursor (data : Section) (offset : Nat) : Cursor :=
  { data, offset }

/-- All items from an offset on.  Each takes at least one byte, so there are no more
than there are bytes. -/
def items (data : Section) (offset : Nat) : List Cursor.Item :=
  ((data.cursor offset).take (data.size - offset) []).1

end Section

end DataSection
