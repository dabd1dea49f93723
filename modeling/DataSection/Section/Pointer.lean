import DataSection.Section.Header

/-!
# Pointers

A pointer's five low bits are two bits for its width and three high bits of its
number; the low bytes of the number follow.  Pointers of four bytes ignore the
three bits.
-/

namespace DataSection.Section

/-- The number of bytes behind a pointer's control byte. -/
def pointerBytes (field : Nat) : Nat :=
  field / 8 % 4 + 1

/-- Where the pointer with a header leads, and the offset behind the pointer.  A
target that no machine word holds lies outside every section. -/
def pointer (data : Section) (header : Header) : Except ReadError (Nat × Nat) := do
  let width := pointerBytes header.size
  let low ← data.numeral header.payload width
  let number := if width = 4 then low else header.size % 8 * 256 ^ width + low
  let target := number + data.base + Format.pointerBias width
  if target < Format.offsetRange then
    return (target, header.payload + width)
  else
    throw (.outOfBounds header.payload width data.size)

end DataSection.Section
