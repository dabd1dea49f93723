import DataSection.Section.Pointer
import DataSection.Value.Basic

/-!
# Reading values

`decodeAt` reads the value at an offset and says where the item ends, which for a
pointer is the end of the pointer itself and not of the value it leads to.

Reading recurses on the levels that are left.  A container without items costs
none, because nothing is read below it.
-/

namespace DataSection

/-- Whether a payload of this size can hold a value of the kind. -/
def Kind.allowsSize (kind : Kind) (size : Nat) : Bool :=
  match kind, kind.maxPayload? with
  | .double, some exact | .float, some exact => size == exact
  | _, some largest => size ≤ largest
  | _, none => true

namespace Section

variable {α : Type}

/-- Read `count` items of which each starts where the one before it ends.  `items`
are those read so far, the last one first. -/
def collect (read : Nat → Except ReadError (α × Nat)) :
    (count offset : Nat) → (items : List α) → Except ReadError (List α × Nat)
  | 0, offset, items => .ok (items.reverse, offset)
  | count + 1, offset, items =>
      match read offset with
      | .error error => .error error
      | .ok (item, next) => collect read count next (item :: items)

/-- The bytes of a payload, and the offset behind it. -/
def content (data : Section) (header : Header) : Except ReadError (ByteArray × Nat) := do
  let content ← data.slice header.payload header.size
  return (content, header.payload + header.size)

/-- The number in a payload, and the offset behind it. -/
def number (data : Section) (header : Header) : Except ReadError (Nat × Nat) :=
  if header.kind.allowsSize header.size then do
    let number ← data.numeral header.payload header.size
    return (number, header.payload + header.size)
  else
    throw (.invalidSize header.kind header.size header.payload)

/-- The string that stands as a key at an offset, where `read` reads values. -/
def key (read : Nat → Except ReadError (Value × Nat)) (offset : Nat) :
    Except ReadError (ByteArray × Nat) :=
  match read offset with
  | .error error => .error error
  | .ok (.string text, next) => .ok (text, next)
  | .ok (other, _) => .error (.invalidKey offset other.kind)

/-- The key and the value behind it at an offset. -/
def entry (read : Nat → Except ReadError (Value × Nat)) (offset : Nat) :
    Except ReadError ((ByteArray × Value) × Nat) := do
  let (key, next) ← key read offset
  let (value, next) ← read next
  return ((key, value), next)

/-- Read the item at an offset, and all items below it by `read`. -/
def decodeNode (data : Section) (read : Nat → Except ReadError (Value × Nat))
    (offset : Nat) : Except ReadError (Value × Nat) := do
  let header ← data.header offset
  match header.kind with
  | .pointer => do
      let (target, next) ← data.pointer header
      let (value, _) ← read target
      return (value, next)
  | .array => do
      let (elements, next) ← collect read header.size header.payload []
      return (.array elements, next)
  | .map => do
      let (entries, next) ← collect (entry read) header.size header.payload []
      return (.map (Dictionary.ofList entries), next)
  | .boolean => return (.boolean (header.size != 0), header.payload)
  | .string => do
      let (text, next) ← data.content header
      return (.string text, next)
  | .bytes => do
      let (content, next) ← data.content header
      return (.bytes content, next)
  | .double => do
      let (bits, next) ← data.number header
      return (.double (UInt64.ofNat bits), next)
  | .float => do
      let (bits, next) ← data.number header
      return (.float (UInt32.ofNat bits), next)
  | .uint16 => do
      let (number, next) ← data.number header
      return (.uint16 (UInt16.ofNat number), next)
  | .uint32 => do
      let (number, next) ← data.number header
      return (.uint32 (UInt32.ofNat number), next)
  | .uint64 => do
      let (number, next) ← data.number header
      return (.uint64 (UInt64.ofNat number), next)
  | .uint128 => do
      let (number, next) ← data.number header
      return (.uint128 (BitVec.ofNat 128 number), next)
  | .int32 => do
      -- A short payload is padded with zeros, so only four bytes give a negative number.
      let (number, next) ← data.number header
      return (.int32 (UInt32.ofNat number).toInt32, next)

/-- The value at an offset and the offset behind the item, with so many levels left
below it. -/
def decodeAt (data : Section) : (levels offset : Nat) → Except ReadError (Value × Nat)
  | 0, offset => data.decodeNode (fun _ => .error (.tooDeep data.limit)) offset
  | levels + 1, offset => data.decodeNode (data.decodeAt levels) offset

/-- The value at an offset and the offset behind the item. -/
def decode (data : Section) (offset : Nat) : Except ReadError (Value × Nat) :=
  data.decodeAt data.limit offset

/-- The value at an offset. -/
def value (data : Section) (offset : Nat) : Except ReadError Value :=
  (data.decode offset).map Prod.fst

end Section

end DataSection
