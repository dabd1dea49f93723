import DataSection.Encoding.Header
import DataSection.Value.Basic

/-!
# Writing values

Every value has one encoding: each header in its shortest form, each number without
leading zero bytes, and the entries of a map in their order.  `writeOnto` appends it
to bytes that are already there, and the main statement is that those bytes have no
influence on it.
-/

namespace DataSection

namespace Encoding

/-- Append the header of an item. -/
def writeHeader (kind : Kind) (size : Nat) (out : ByteArray) : Except WriteError ByteArray :=
  match header kind size with
  | .error error => .error error
  | .ok bytes => .ok (out ++ bytes.toByteArray)

/-- Append an item whose payload is a byte array. -/
def writeContent (kind : Kind) (content out : ByteArray) : Except WriteError ByteArray :=
  match writeHeader kind content.size out with
  | .error error => .error error
  | .ok out => .ok (out ++ content)

/-- Append an item whose payload is a short numeral. -/
def writeNumeral (kind : Kind) (digits : List UInt8) (out : ByteArray) :
    Except WriteError ByteArray :=
  writeContent kind digits.toByteArray out

end Encoding

namespace Value

open Encoding

mutual

/-- Append the encoding of a value. -/
def writeOnto : Value → ByteArray → Except WriteError ByteArray
  | .string text, out => writeContent .string text out
  | .bytes content, out => writeContent .bytes content out
  | .double bits, out => writeNumeral .double (BigEndian.fixed 8 bits.toNat) out
  | .float bits, out => writeNumeral .float (BigEndian.fixed 4 bits.toNat) out
  | .uint16 number, out => writeNumeral .uint16 (BigEndian.minimal number.toNat) out
  | .uint32 number, out => writeNumeral .uint32 (BigEndian.minimal number.toNat) out
  | .uint64 number, out => writeNumeral .uint64 (BigEndian.minimal number.toNat) out
  | .uint128 number, out => writeNumeral .uint128 (BigEndian.minimal number.toNat) out
  -- The bit pattern of a negative number has all four bytes, so the sign survives.
  | .int32 number, out => writeNumeral .int32 (BigEndian.minimal number.toUInt32.toNat) out
  | .boolean flag, out => writeHeader .boolean (if flag then 1 else 0) out
  | .array elements, out =>
      match writeHeader .array elements.length out with
      | .error error => .error error
      | .ok out => writeElements elements out
  | .map ⟨entries⟩, out =>
      match writeHeader .map entries.length out with
      | .error error => .error error
      | .ok out => writeEntries entries out

/-- Append the encodings of the elements of an array. -/
def writeElements : List Value → ByteArray → Except WriteError ByteArray
  | [], out => .ok out
  | element :: rest, out =>
      match element.writeOnto out with
      | .error error => .error error
      | .ok out => writeElements rest out

/-- Append the encodings of the entries of a map, each key before its value. -/
def writeEntries : List (ByteArray × Value) → ByteArray → Except WriteError ByteArray
  | [], out => .ok out
  | (key, value) :: rest, out =>
      match writeContent .string key out with
      | .error error => .error error
      | .ok out =>
          match value.writeOnto out with
          | .error error => .error error
          | .ok out => writeEntries rest out

end

/-- The encoding of a value. -/
def encode (value : Value) : Except WriteError ByteArray :=
  value.writeOnto .empty

/-- The encodings of the elements of an array, one behind the other. -/
def encodeElements (elements : List Value) : Except WriteError ByteArray :=
  writeElements elements .empty

/-- The encodings of the entries of a map, one behind the other. -/
def encodeEntries (entries : List (ByteArray × Value)) : Except WriteError ByteArray :=
  writeEntries entries .empty

end Value

namespace Encoding

/-- The encoding of an item whose payload is a byte array. -/
def content (kind : Kind) (content : ByteArray) : Except WriteError ByteArray :=
  (header kind content.size).map fun bytes => bytes.toByteArray ++ content

theorem writeHeader_eq (kind : Kind) (size : Nat) (out : ByteArray) :
    writeHeader kind size out =
      (header kind size).map fun bytes => out ++ bytes.toByteArray := by
  unfold writeHeader
  cases header kind size <;> rfl

theorem writeContent_eq (kind : Kind) (bytes out : ByteArray) :
    writeContent kind bytes out = (content kind bytes).map (out ++ ·) := by
  simp only [writeContent, writeHeader_eq, content]
  cases header kind bytes.size <;> simp [Except.map, ByteArray.append_assoc]

end Encoding

namespace Value

open Encoding

private theorem writeElements_eq_of {elements : List Value}
    (ih : ∀ element ∈ elements, ∀ out, element.writeOnto out = element.encode.map (out ++ ·))
    (out : ByteArray) : writeElements elements out = (encodeElements elements).map (out ++ ·) := by
  induction elements generalizing out with
  | nil => simp [writeElements, encodeElements, Except.map]
  | cons element rest rest_ih =>
      have tail := rest_ih fun element member => ih element (List.mem_cons_of_mem _ member)
      have head := ih element List.mem_cons_self
      simp only [writeElements, encodeElements, head]
      cases element.encode with
      | error _ => rfl
      | ok bytes =>
          simp only [Except.map, tail, ByteArray.empty_append]
          cases encodeElements rest <;> simp [ByteArray.append_assoc]

private theorem writeEntries_eq_of {entries : List (ByteArray × Value)}
    (ih : ∀ entry ∈ entries, ∀ out, entry.2.writeOnto out = entry.2.encode.map (out ++ ·))
    (out : ByteArray) : writeEntries entries out = (encodeEntries entries).map (out ++ ·) := by
  induction entries generalizing out with
  | nil => simp [writeEntries, encodeEntries, Except.map]
  | cons entry rest rest_ih =>
      have tail := rest_ih fun entry member => ih entry (List.mem_cons_of_mem _ member)
      have head := ih entry List.mem_cons_self
      obtain ⟨key, value⟩ := entry
      simp only [writeEntries, encodeEntries, writeContent_eq, head]
      cases content .string key with
      | error _ => rfl
      | ok keyBytes =>
          cases value.encode with
          | error _ => rfl
          | ok bytes =>
              simp only [Except.map, tail, ByteArray.empty_append]
              cases encodeEntries rest <;> simp [ByteArray.append_assoc]

/-- What is there already has no influence on what is appended. -/
theorem writeOnto_eq (value : Value) (out : ByteArray) :
    value.writeOnto out = value.encode.map (out ++ ·) := by
  induction value using Value.induction generalizing out with
  | array elements ih =>
      simp only [encode, writeOnto, writeHeader_eq]
      cases header .array elements.length with
      | error _ => rfl
      | ok bytes =>
          simp only [Except.map, writeElements_eq_of ih]
          cases encodeElements elements <;> simp [ByteArray.append_assoc]
  | map entries ih =>
      simp only [encode, writeOnto, writeHeader_eq]
      cases header .map entries.length with
      | error _ => rfl
      | ok bytes =>
          simp only [Except.map, writeEntries_eq_of ih]
          cases encodeEntries entries <;> simp [ByteArray.append_assoc]
  | boolean flag =>
      simp only [encode, writeOnto, writeHeader_eq]
      cases header .boolean (if flag then 1 else 0) <;> simp [Except.map]
  | _ =>
      simp only [encode, writeOnto, writeNumeral, writeContent_eq]
      generalize content _ _ = written
      cases written <;> simp [Except.map]

theorem writeElements_eq (elements : List Value) (out : ByteArray) :
    writeElements elements out = (encodeElements elements).map (out ++ ·) :=
  writeElements_eq_of (fun element _ => writeOnto_eq element) out

theorem writeEntries_eq (entries : List (ByteArray × Value)) (out : ByteArray) :
    writeEntries entries out = (encodeEntries entries).map (out ++ ·) :=
  writeEntries_eq_of (fun entry _ => writeOnto_eq entry.2) out

end Value

end DataSection
