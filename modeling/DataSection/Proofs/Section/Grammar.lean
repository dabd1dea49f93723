import DataSection.Proofs.Dictionary
import DataSection.Proofs.Section.Row
import DataSection.Section.Basic
import DataSection.Value.Basic

/-!
# The grammar of items

Which bytes are an item, and of which value, told as rules about the bytes and without a
reader.  The rules follow the format: a control with its kind and five bits, the size that
the bits announce, and behind it the payload or the items of a container.

Items of a container stand one behind the other and use up a level, and so does what a
pointer leads to, which may stand anywhere.  Many bytes are items of one value: numbers
may begin with zero bytes, sizes may be written long, every field but zero is true, and a
map may name its kind in a byte of its own.
-/

namespace DataSection.Section

variable (data : Section)

/-- The content stands in the section between two offsets. -/
def Occupies (start : Nat) (content : ByteArray) (stop : Nat) : Prop :=
  ∃ before after, data.bytes = before ++ content ++ after ∧ before.size = start ∧
    stop = start + content.size

/-! ## Headers -/

/-- A control between two offsets, with the code of a kind and five bits. -/
inductive Control : (start code field stop : Nat) → Prop where
  /-- A code that is not zero stands in the three high bits. -/
  | inline {start code field stop : Nat} {control : UInt8} :
      control.toNat = code * 32 + field → 1 ≤ code → field < 32 →
      data.Occupies start [control].toByteArray stop → Control start code field stop
  /-- Behind three zero bits, a byte holds what the code has over seven. -/
  | extended {start code field stop : Nat} {control extension : UInt8} :
      control.toNat = field → field < 32 → code = 7 + extension.toNat →
      data.Occupies start [control, extension].toByteArray stop → Control start code field stop

/-- The size that five bits announce, and the bytes between two offsets that complete it. -/
inductive SizeBytes : (field start size stop : Nat) → Prop where
  | inline {start size : Nat} : size ≤ 28 → SizeBytes size start size start
  | one {start stop : Nat} {digits : List UInt8} :
      digits.length = 1 → data.Occupies start digits.toByteArray stop →
      SizeBytes 29 start (29 + BigEndian.value digits) stop
  | two {start stop : Nat} {digits : List UInt8} :
      digits.length = 2 → data.Occupies start digits.toByteArray stop →
      SizeBytes 30 start (285 + BigEndian.value digits) stop
  | three {start stop : Nat} {digits : List UInt8} :
      digits.length = 3 → data.Occupies start digits.toByteArray stop →
      SizeBytes 31 start (65821 + BigEndian.value digits) stop

/-- A header between two offsets, of a kind that has a size. -/
def Opens (kind : Kind) (start size stop : Nat) : Prop :=
  ∃ field middle, Control data start kind.code field middle ∧
    SizeBytes data field middle size stop

/-! ## Payloads -/

/-- The number that a pointer holds in its five bits and the bytes behind its control.  Up
to three bytes are continued by the low three bits; four bytes are the number. -/
def pointerNumber (field : Nat) (low : List UInt8) : Nat :=
  if low.length = 4 then BigEndian.value low
  else BigEndian.value (UInt8.ofNat (field % 8) :: low)

/-- The value that a payload stands for in an item of a kind.  A short number has zeros on
its left. -/
inductive Denotes : Kind → ByteArray → Value → Prop where
  | string (payload : ByteArray) : Denotes .string payload (.string payload)
  | bytes (payload : ByteArray) : Denotes .bytes payload (.bytes payload)
  | double {payload : ByteArray} {bits : UInt64} : payload.size = 8 →
      bits.toNat = BigEndian.value payload.data.toList → Denotes .double payload (.double bits)
  | float {payload : ByteArray} {bits : UInt32} : payload.size = 4 →
      bits.toNat = BigEndian.value payload.data.toList → Denotes .float payload (.float bits)
  | uint16 {payload : ByteArray} {number : UInt16} : payload.size ≤ 2 →
      number.toNat = BigEndian.value payload.data.toList →
      Denotes .uint16 payload (.uint16 number)
  | uint32 {payload : ByteArray} {number : UInt32} : payload.size ≤ 4 →
      number.toNat = BigEndian.value payload.data.toList →
      Denotes .uint32 payload (.uint32 number)
  | uint64 {payload : ByteArray} {number : UInt64} : payload.size ≤ 8 →
      number.toNat = BigEndian.value payload.data.toList →
      Denotes .uint64 payload (.uint64 number)
  | uint128 {payload : ByteArray} {number : BitVec 128} : payload.size ≤ 16 →
      number.toNat = BigEndian.value payload.data.toList →
      Denotes .uint128 payload (.uint128 number)
  /-- The number is read in two's complement, of which four bytes hold the sign. -/
  | int32 {payload : ByteArray} {number : Int32} : payload.size ≤ 4 →
      number.toInt = (BigEndian.value payload.data.toList : Int).bmod (2 ^ 32) →
      Denotes .int32 payload (.int32 number)

/-! ## Items -/

mutual

/-- An item of the value between two offsets, with so many levels left below it. -/
inductive Wire : (levels start : Nat) → Value → (stop : Nat) → Prop where
  | boolean {levels start field stop : Nat} :
      Control data start Kind.boolean.code field stop →
      Wire levels start (.boolean (field != 0)) stop
  | scalar {levels start middle stop : Nat} {kind : Kind} {payload : ByteArray} {value : Value} :
      Opens data kind start payload.size middle → data.Occupies middle payload stop →
      Denotes kind payload value → Wire levels start value stop
  | emptyArray {levels start stop : Nat} :
      Opens data .array start 0 stop → Wire levels start (.array []) stop
  | array {levels start middle stop : Nat} {elements : List Value} :
      elements ≠ [] → Opens data .array start elements.length middle →
      WireElements levels middle elements stop → Wire (levels + 1) start (.array elements) stop
  | emptyMap {levels start stop : Nat} :
      Opens data .map start 0 stop → Wire levels start (.map .empty) stop
  | map {levels start middle stop : Nat} {pairs : List (ByteArray × Value)}
      {entries : Dictionary Value} :
      pairs ≠ [] → Opens data .map start pairs.length middle →
      WirePairs levels middle pairs stop → Dictionary.Collects pairs entries →
      Wire (levels + 1) start (.map entries) stop
  /-- A pointer ends behind its own bytes, wherever the item ends that it leads to. -/
  | pointer {levels start field middle target behind stop : Nat} {low : List UInt8}
      {value : Value} :
      Control data start Kind.pointer.code field middle →
      low.length = field / 8 % 4 + 1 → data.Occupies middle low.toByteArray stop →
      target = pointerNumber field low + data.base + Format.pointerBias low.length →
      target < 2 ^ 64 → Wire levels target value behind → Wire (levels + 1) start value stop

/-- Items of the elements, one behind the other. -/
inductive WireElements : (levels start : Nat) → List Value → (stop : Nat) → Prop where
  | nil {levels start : Nat} : WireElements levels start [] start
  | cons {levels start middle stop : Nat} {element : Value} {rest : List Value} :
      Wire levels start element middle → WireElements levels middle rest stop →
      WireElements levels start (element :: rest) stop

/-- Items of the pairs, one behind the other, each an item of a string and one of a value. -/
inductive WirePairs : (levels start : Nat) → List (ByteArray × Value) → (stop : Nat) → Prop where
  | nil {levels start : Nat} : WirePairs levels start [] start
  | cons {levels start middle behind stop : Nat} {key : ByteArray} {value : Value}
      {rest : List (ByteArray × Value)} :
      Wire levels start (.string key) middle → Wire levels middle value behind →
      WirePairs levels behind rest stop → WirePairs levels start ((key, value) :: rest) stop

end

end DataSection.Section
