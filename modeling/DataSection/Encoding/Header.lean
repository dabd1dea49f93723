import DataSection.BigEndian
import DataSection.Error
import DataSection.Format

/-!
# Writing headers and pointers

Both are written in their shortest form.  A header fails exactly if its size is
larger than any header can express; a pointer to a 32-bit offset never fails.
-/

namespace DataSection.Encoding

/-- The control byte of a kind with five low bits, and the byte that names the kind
if it is extended. -/
def control (kind : Kind) (field : Nat) : List UInt8 :=
  if kind.isExtended then
    [UInt8.ofNat field, UInt8.ofNat (kind.code - 7)]
  else
    [UInt8.ofNat (kind.code * 32 + field)]

/-- The header of an item. -/
def header (kind : Kind) (size : Nat) : Except WriteError (List UInt8) :=
  if size ≤ Format.maxSize then
    let extra := Format.extraBytes size
    let field := if extra = 0 then size else Format.sizeCode extra
    .ok (control kind field ++ BigEndian.fixed extra (size - Format.sizeBase extra))
  else
    .error (.sizeTooLarge size)

/-- The pointer to an offset. -/
def pointer (target : UInt32) : List UInt8 :=
  let width := Format.pointerWidth target.toNat
  let number := target.toNat - Format.pointerBias width
  let high := if width = 4 then 0 else number / 256 ^ width
  control .pointer ((width - 1) * 8 + high) ++ BigEndian.fixed width number

/-- A header can be written exactly if its size is not too large. -/
theorem header_eq_error_iff {kind : Kind} {size : Nat} {error : WriteError} :
    header kind size = .error error ↔ Format.maxSize < size ∧ error = .sizeTooLarge size := by
  unfold header
  split
  next small => simp [Nat.not_lt.mpr small]
  next large => simp [Nat.not_le.mp large, eq_comm]

end DataSection.Encoding
