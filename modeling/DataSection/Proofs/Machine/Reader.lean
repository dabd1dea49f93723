import DataSection.Path
import DataSection.Section.Cursor
import DataSection.Proofs.Dictionary.Indexed

/-!
# Reading on a machine

A machine has no numbers.  It holds offsets, sizes and depths as words of 64 bits, puts
numerals together in a word of 128 bits, and adds codes of kinds in a word of 16 bits.  It
counts how deep it is instead of how many levels are left, follows pointers in a loop, and
finds the entries of a dictionary by their positions.

Here reading, skipping, looking up and reading one value after the other are carried out
with these words.  Every addition, shift, narrowing and access is a checked operation.  The
sums whose overflow is asked for, and a doubling that stops at the largest word, are not,
because no result of theirs is wrong.

Calls within one another, and rounds along pointers, are counted by `frames`.  A machine that
runs out of them traps as well.
-/

namespace DataSection

/-- The words in which a machine counts bytes, items and levels. -/
abbrev Size := BitVec 64

/-- A section in the memory of a machine. -/
structure Machine where
  bytes : ByteArray
  base : Size
  limit : Size

/-- What reading comes to on a machine: a result or an error, unless it traps. -/
abbrev Run (α : Type) := ExceptT ReadError Checked α

/-- Stop without an answer. -/
def Run.trap {α : Type} (reason : Trap) : Run α :=
  ExceptT.mk (.error reason)

namespace Machine

/-- The header of an item, in words. -/
structure Opening where
  kind : Kind
  size : Size
  payload : Size

/-! ## Bytes -/

/-- The number of bytes. -/
def length (machine : Machine) : Size :=
  BitVec.ofNat 64 machine.bytes.size

/-- The byte at an offset. -/
def byteAt (machine : Machine) (offset : Size) : Run UInt8 :=
  match machine.bytes.data[offset.toNat]? with
  | some byte => return byte
  | none => throw (.outOfBounds offset.toNat 1 machine.length.toNat)

/-- The bytes between two offsets, which have to stand in this order and lie inside. -/
def range (machine : Machine) (start stop : Size) : Checked ByteArray :=
  if start.toNat ≤ stop.toNat ∧ stop.toNat ≤ machine.bytes.size then
    .ok (machine.bytes.extract start.toNat stop.toNat)
  else
    .error .outOfRange

/-- So many bytes from an offset on. -/
def slice (machine : Machine) (offset count : Size) : Run ByteArray :=
  match (Word.sum? offset count).filter fun stop => stop ≤ machine.length with
  | some stop => machine.range offset stop
  | none => throw (.outOfBounds offset.toNat count.toNat machine.length.toNat)

/-- A numeral with one more digit. -/
def shiftIn (number : BitVec 128) (digit : UInt8) : Checked (BitVec 128) := do
  let shifted ← Word.shiftUp 8 number
  return shifted ||| digit.toBitVec.setWidth 128

/-- The number that bytes write behind what stands for their highest digits. -/
def numeral (high : BitVec 128) (digits : ByteArray) : Checked (BitVec 128) :=
  digits.data.toList.foldlM shiftIn high

/-- Bytes copied into a word of `count` bytes. -/
def copy (count : Nat) (content : ByteArray) : Checked (BitVec (8 * count)) :=
  if content.size = count then
    .ok (BitVec.ofNat (8 * count) (BigEndian.value content.data.toList))
  else
    .error .unequalLengths

/-! ## Headers -/

/-- The code of the kind that a control byte announces, and the offset behind it.  `next` is
the offset behind the control byte. -/
def kindCode (machine : Machine) (control : UInt8) (next : Size) : Run (BitVec 16 × Size) := do
  let code : BitVec 16 := (control.toBitVec >>> 5).setWidth 16
  if code = 0 then
    let extension ← machine.byteAt next
    let code ← Word.add 7 (extension.toBitVec.setWidth 16)
    let next ← Word.add next 1
    return (code, next)
  else
    return (code, next)

/-- How many size bytes follow size bits above the inline ones, and where their sizes start. -/
def sizeForm (field : BitVec 8) : Size × Size :=
  match field.toNat with
  | 29 => (1, 29)
  | 30 => (2, 285)
  | _ => (3, 65821)

/-- The size that size bits announce, and the offset behind the size bytes. -/
def sizeField (machine : Machine) (field : BitVec 8) (offset : Size) : Run (Size × Size) :=
  if field.toNat ≤ Format.maxInlineSize then
    return (field.setWidth 64, offset)
  else do
    let (extra, base) := sizeForm field
    let digits ← machine.slice offset extra
    let number ← numeral 0 digits
    let number ← Word.narrow 64 number
    let size ← Word.add base number
    let next ← Word.add offset extra
    return (size, next)

/-- The header at an offset. -/
def opening (machine : Machine) (offset : Size) : Run Opening := do
  let control ← machine.byteAt offset
  let next ← Word.add offset 1
  let (code, next) ← machine.kindCode control next
  match Kind.ofCode? code.toNat with
  | none => throw (.unknownKind code.toNat offset.toNat)
  | some kind =>
      let field := control.toBitVec &&& 0x1F
      if kind.ownsSizeBits then
        return ⟨kind, field.setWidth 64, next⟩
      else
        let (size, payload) ← machine.sizeField field next
        return ⟨kind, size, payload⟩

/-! ## Payloads -/

/-- The bytes of a payload, and the offset behind it. -/
def content (machine : Machine) (opening : Opening) : Run (ByteArray × Size) := do
  let content ← machine.slice opening.payload opening.size
  let next ← Word.add opening.payload opening.size
  return (content, next)

/-- The error that refuses the size of a payload. -/
def Opening.invalidSize (opening : Opening) : ReadError :=
  .invalidSize opening.kind opening.size.toNat opening.payload.toNat

/-- The word in a payload that has to have so many bytes, and the offset behind it. -/
def word (machine : Machine) (count : Nat) (opening : Opening) :
    Run (BitVec (8 * count) × Size) :=
  if opening.size.toNat ≠ count then
    throw opening.invalidSize
  else do
    let (content, next) ← machine.content opening
    let word ← copy count content
    return (word, next)

/-- The number in a payload that may be short, and the offset behind it. -/
def number (machine : Machine) (opening : Opening) : Run (BitVec 128 × Size) :=
  if opening.kind.maxPayload?.getD 0 < opening.size.toNat then
    throw opening.invalidSize
  else do
    let (content, next) ← machine.content opening
    let number ← numeral 0 content
    return (number, next)

/-! ## Pointers -/

/-- The smallest offsets that pointers of one to four bytes express. -/
def biases : Array Size := #[0, 2048, 526336, 0]

/-- The entry of the table at a position. -/
def biasAt (position : Size) : Checked Size :=
  match biases[position.toNat]? with
  | some bias => .ok bias
  | none => .error .outOfRange

/-- Where a pointer leads that has this number and so many bytes, if a word holds it. -/
def target? (machine : Machine) (number width : Size) : Checked (Option Size) :=
  match Word.sum? number machine.base with
  | none => return none
  | some number => do
      let position ← Word.sub width 1
      let bias ← biasAt position
      return Word.sum? number bias

/-- Where the pointer with a header leads, and the offset behind the pointer. -/
def pointer (machine : Machine) (opening : Opening) : Run (Size × Size) := do
  let width ← Word.add (opening.size >>> 3 &&& 3) 1
  let digits ← machine.slice opening.payload width
  let high := if width = 4 then 0 else (opening.size &&& 7).setWidth 128
  let number ← numeral high digits
  let number ← Word.narrow 64 number
  match ← machine.target? number width with
  | none => throw (.outOfBounds opening.payload.toNat width.toNat machine.length.toNat)
  | some target =>
      let next ← Word.add opening.payload width
      return (target, next)

/-! ## Depth -/

/-- The depth below an item that leads to so many others.  It is counted in any case, and
has to be within the limit if there is an item at it. -/
def enter (machine : Machine) (items depth : Size) : Run Size := do
  let depth ← Word.add depth 1
  if items ≠ 0 ∧ machine.limit < depth then
    throw (.tooDeep machine.limit.toNat)
  else
    return depth

/-- Take `count` steps of which each starts where the one before it ends. -/
def gather {σ : Type} (step : σ → Size → Run (σ × Size)) :
    (count : Nat) → (soFar : σ) → (offset : Size) → Run (σ × Size)
  | 0, soFar, offset => return (soFar, offset)
  | count + 1, soFar, offset => do
      let (soFar, next) ← step soFar offset
      gather step count soFar next

/-! ## Reading -/

/-- One more element. -/
def element (read : Size → Run (Value × Size)) (soFar : Array Value) (offset : Size) :
    Run (Array Value × Size) := do
  let (element, next) ← read offset
  return (soFar.push element, next)

/-- The string that stands as a key at an offset. -/
def key (read : Size → Run (Value × Size)) (offset : Size) : Run (ByteArray × Size) := do
  match ← read offset with
  | (.string text, next) => return (text, next)
  | (other, _) => throw (.invalidKey offset.toNat other.kind)

/-- One more key and the value behind it, which replaces the one under an equal key. -/
def entry (read : Size → Run (Value × Size)) (soFar : Dictionary.Indexed Value) (offset : Size) :
    Run (Dictionary.Indexed Value × Size) := do
  let (key, next) ← key read offset
  let (value, next) ← read next
  let (_, soFar) ← soFar.insert key value
  return (soFar, next)

/-- For how many items to make room: no more than there are bytes left. -/
def room (machine : Machine) (opening : Opening) : Nat :=
  min opening.size.toNat (machine.length.toNat - opening.payload.toNat)

section Below

variable (machine : Machine) (read : (offset depth : Size) → Run (Value × Size))
variable (opening : Opening) (depth : Size)

/-- The value that a pointer leads to, and the offset behind the pointer. -/
def pointee : Run (Value × Size) := do
  let (target, next) ← machine.pointer opening
  let depth ← machine.enter 1 depth
  let (value, _) ← read target depth
  return (value, next)

/-- An array, and the offset behind its last element. -/
def array : Run (Value × Size) := do
  let depth ← machine.enter opening.size depth
  let (elements, next) ← gather (element fun offset => read offset depth)
    opening.size.toNat (Array.emptyWithCapacity (machine.room opening)) opening.payload
  return (.array elements.toList, next)

/-- A map, and the offset behind its last entry. -/
def map : Run (Value × Size) := do
  let depth ← machine.enter opening.size depth
  let (dictionary, next) ← gather (entry fun offset => read offset depth)
    opening.size.toNat (.withCapacity (machine.room opening / 2)) opening.payload
  return (.map ⟨dictionary.entries.toList⟩, next)

end Below

/-- Read the item at an offset, and all items below it by `read`. -/
def decodeNode (machine : Machine) (read : (offset depth : Size) → Run (Value × Size))
    (offset depth : Size) : Run (Value × Size) := do
  let opening ← machine.opening offset
  match opening.kind with
  | .pointer => machine.pointee read opening depth
  | .array => machine.array read opening depth
  | .map => machine.map read opening depth
  | .boolean => return (.boolean (opening.size != 0), opening.payload)
  | .string => do
      let (text, next) ← machine.content opening
      return (.string text, next)
  | .bytes => do
      let (content, next) ← machine.content opening
      return (.bytes content, next)
  | .double => do
      let (bits, next) ← machine.word 8 opening
      return (.double (.ofBitVec bits), next)
  | .float => do
      let (bits, next) ← machine.word 4 opening
      return (.float (.ofBitVec bits), next)
  | .uint16 => do
      let (number, next) ← machine.number opening
      let number ← Word.narrow 16 number
      return (.uint16 (.ofBitVec number), next)
  | .uint32 => do
      let (number, next) ← machine.number opening
      let number ← Word.narrow 32 number
      return (.uint32 (.ofBitVec number), next)
  | .uint64 => do
      let (number, next) ← machine.number opening
      let number ← Word.narrow 64 number
      return (.uint64 (.ofBitVec number), next)
  | .uint128 => do
      let (number, next) ← machine.number opening
      return (.uint128 number, next)
  | .int32 => do
      let (number, next) ← machine.number opening
      let number ← Word.narrow 32 number
      return (.int32 (UInt32.ofBitVec number).toInt32, next)

/-- The value at an offset and a depth, and the offset behind the item. -/
def decodeAt (machine : Machine) : (frames : Nat) → (offset depth : Size) → Run (Value × Size)
  | 0, _, _ => .trap .exhausted
  | frames + 1, offset, depth => machine.decodeNode (machine.decodeAt frames) offset depth

/-! ## Skipping -/

/-- A step that keeps nothing. -/
def pass (step : Size → Run Size) (_ : Unit) (offset : Size) : Run (Unit × Size) := do
  let next ← step offset
  return ((), next)

/-- Take `count` steps of which each starts where the one before it ends, and keep nothing. -/
def advance (step : Size → Run Size) (count : Nat) (offset : Size) : Run Size := do
  let (_, next) ← gather (pass step) count () offset
  return next

/-- Skip so many items from an offset on, which stand below an item at this depth. -/
def skipItems (machine : Machine) (step : (offset depth : Size) → Run Size)
    (items offset depth : Size) : Run Size := do
  let depth ← machine.enter items depth
  advance (fun offset => step offset depth) items.toNat offset

/-- Skip the item at an offset, and all items in it by `step`. -/
def skipNode (machine : Machine) (step : (offset depth : Size) → Run Size)
    (offset depth : Size) : Run Size := do
  let opening ← machine.opening offset
  match opening.kind with
  | .pointer => do
      let (_, next) ← machine.pointer opening
      return next
  | .boolean => return opening.payload
  | .array => machine.skipItems step opening.size opening.payload depth
  | .map => machine.skipItems step (Word.twice opening.size) opening.payload depth
  | _ => do
      let (_, next) ← machine.content opening
      return next

/-- The offset behind the item at an offset and a depth. -/
def skipAt (machine : Machine) : (frames : Nat) → (offset depth : Size) → Run Size
  | 0, _, _ => .trap .exhausted
  | frames + 1, offset, depth => machine.skipNode (machine.skipAt frames) offset depth

/-! ## Looking up -/

/-- One step of a path. -/
inductive Step where
  | key (text : String)
  | index (position : Size)

/-- The header of the first item that is no pointer, on the way from an offset along
pointers, and the depth there. -/
def resolve (machine : Machine) : (frames : Nat) → (offset depth : Size) → Run (Opening × Size)
  | 0, _, _ => .trap .exhausted
  | frames + 1, offset, depth => do
      let opening ← machine.opening offset
      if opening.kind = .pointer then
        let depth ← machine.enter 1 depth
        let (target, _) ← machine.pointer opening
        machine.resolve frames target depth
      else
        return (opening, depth)

/-- Where the value of the entry at an offset starts if its key is the one that is wanted,
or else of the last one before it. -/
def candidate (machine : Machine) (frames : Nat) (depth : Size) (wanted : ByteArray)
    (found : Option Size) (offset : Size) : Run (Option Size × Size) := do
  let (held, start) ← key (fun offset => machine.decodeAt frames offset depth) offset
  let next ← machine.skipAt frames start depth
  return (if held = wanted then some start else found, next)

/-- The offset to which a step leads from the item with a header, if it leads anywhere. -/
def child (machine : Machine) (frames : Nat) (depth : Size) (opening : Opening) :
    Step → Run (Option Size)
  | .key text =>
      if opening.kind = .map then do
        let (found, _) ← gather (machine.candidate frames depth text.toUTF8)
          opening.size.toNat none opening.payload
        return found
      else
        return none
  | .index position =>
      if opening.kind = .array ∧ position < opening.size then do
        let start ← advance (fun offset => machine.skipAt frames offset depth)
          position.toNat opening.payload
        return some start
      else
        return none

/-- The value at the end of a path from an offset and a depth. -/
def lookupAt (machine : Machine) (frames : Nat) :
    (path : List Step) → (offset depth : Size) → Run (Option Value)
  | [], offset, depth => do
      let (value, _) ← machine.decodeAt frames offset depth
      return some value
  | step :: path, offset, depth => do
      let (opening, depth) ← machine.resolve frames offset depth
      let depth ← machine.enter 1 depth
      match ← machine.child frames depth opening step with
      | none => return none
      | some start => machine.lookupAt frames path start depth

/-! ## From the top -/

/-- One frame for the top and one for each level below it. -/
def frames (machine : Machine) : Nat :=
  machine.limit.toNat + 1

/-- The value at an offset and the offset behind the item. -/
def decode (machine : Machine) (offset : Size) : Run (Value × Size) :=
  machine.decodeAt machine.frames offset 0

/-- The offset behind the item at an offset. -/
def skip (machine : Machine) (offset : Size) : Run Size :=
  machine.skipAt machine.frames offset 0

/-- The value at the end of a path from an offset, if there is one. -/
def lookup (machine : Machine) (offset : Size) (path : List Step) : Run (Option Value) :=
  machine.lookupAt machine.frames path offset 0

/-- A place from which to read on. -/
structure Cursor where
  machine : Machine
  offset : Size
  /-- Whether reading has failed. -/
  failed : Bool := false

namespace Cursor

/-- What a cursor yields: a value and its offset, or why it cannot be read. -/
abbrev Item := Except ReadError (Size × Value)

/-- The next item, if there is one, and the cursor behind it. -/
def next (cursor : Cursor) : Checked (Option Item × Cursor) :=
  if cursor.failed || cursor.machine.length ≤ cursor.offset then
    return (none, cursor)
  else do
    match ← (cursor.machine.decode cursor.offset).run with
    | .ok (value, next) =>
        return (some (.ok (cursor.offset, value)), { cursor with offset := next })
    | .error error => return (some (.error error), { cursor with failed := true })

/-- The next `count` items, or all if there are fewer, and the cursor behind them.  `items` are
those yielded so far, the last one first. -/
def take : (count : Nat) → Cursor → (items : List Item) → Checked (List Item × Cursor)
  | 0, cursor, items => return (items.reverse, cursor)
  | count + 1, cursor, items => do
      match ← cursor.next with
      | (none, cursor) => return (items.reverse, cursor)
      | (some item, cursor) => take count cursor (item :: items)

end Cursor

/-- A cursor at an offset. -/
def cursor (machine : Machine) (offset : Size) : Cursor :=
  { machine, offset }

/-! ## In numbers -/

/-- The section whose numbers the words of the machine stand for. -/
def data (machine : Machine) : Section where
  bytes := machine.bytes
  base := machine.base.toNat
  limit := machine.limit.toNat

/-- The header whose numbers the words stand for. -/
def Opening.header (opening : Opening) : Header :=
  ⟨opening.kind, opening.size.toNat, opening.payload.toNat⟩

/-- The step whose position the word stands for. -/
def Step.number : Step → DataSection.Step
  | .key text => .key text
  | .index position => .index position.toNat

/-- The cursor whose offset the word stands for. -/
def Cursor.number (cursor : Cursor) : DataSection.Cursor :=
  ⟨cursor.machine.data, cursor.offset.toNat, cursor.failed⟩

/-- The item whose offset the word stands for. -/
def Cursor.Item.number (item : Cursor.Item) : DataSection.Cursor.Item :=
  item.map fun result => (result.1.toNat, result.2)

end Machine

end DataSection
