import DataSection.Section.Basic

/-!
# Headers

An item begins with a control byte, whose three high bits are its kind and whose
five low bits are its size.  Zero kind bits announce a byte with the kind less
seven, and size bits above 28 announce one to three size bytes.  Pointers and
booleans use the five low bits for their own content and have no size.
-/

namespace DataSection

/-- What the first bytes of an item say. -/
structure Header where
  kind : Kind
  /-- The payload size of a scalar, the length of a container, or the five low bits
  of the control byte for the kinds that own them. -/
  size : Nat
  /-- Where the payload starts. -/
  payload : Nat
  deriving DecidableEq

namespace Section

/-- The code of the kind at an offset whose control byte is `control`, and the
offset behind it. -/
def kindCode (data : Section) (control : UInt8) (offset : Nat) :
    Except ReadError (Nat × Nat) :=
  if control.toNat / 32 = 0 then do
    let extension ← data.byteAt (offset + 1)
    return (7 + extension.toNat, offset + 2)
  else
    return (control.toNat / 32, offset + 1)

/-- The size that size bits announce, whose size bytes stand at an offset, and the
offset behind them. -/
def sizeField (data : Section) (field offset : Nat) : Except ReadError (Nat × Nat) :=
  if field ≤ Format.maxInlineSize then
    return (field, offset)
  else do
    let extra := field - Format.maxInlineSize
    let number ← data.numeral offset extra
    return (Format.sizeBase extra + number, offset + extra)

/-- The header at an offset. -/
def header (data : Section) (offset : Nat) : Except ReadError Header := do
  let control ← data.byteAt offset
  let (code, next) ← data.kindCode control offset
  match Kind.ofCode? code with
  | none => throw (.unknownKind code offset)
  | some kind =>
      let field := control.toNat % 32
      if kind.ownsSizeBits then
        return ⟨kind, field, next⟩
      else
        let (size, payload) ← data.sizeField field next
        return ⟨kind, size, payload⟩

end Section

end DataSection
