import DataSection.Proofs.Encoding.RoundTrip
import DataSection.Proofs.Section.Items
import DataSection.Proofs.Traversal.Limit

/-!
# A cursor tiles the section

From an offset on, a cursor yields the values that stand one behind the other, each where
the one before it ends, until the section ends or a value cannot be read.  Nothing is left
out between two items, nothing is yielded twice, and behind the last item nothing comes any
more.

A run is found by induction on the bytes that are left, of which every item takes some.  So
it does not matter what a pointer leads to: the run goes on behind the pointer itself.
-/

namespace DataSection

namespace Cursor

variable {cursor : Cursor} {items : List Item}

/-- The cursor behind so many items. -/
def after : (count : Nat) → Cursor → Cursor
  | 0, cursor => cursor
  | count + 1, cursor => after count cursor.next.2

end Cursor

namespace Section

variable {data : Section} {start stop offset next : Nat} {value : Value}
variable {rows : List (Nat × Value)}

/-! ## Runs -/

end Section

end DataSection
