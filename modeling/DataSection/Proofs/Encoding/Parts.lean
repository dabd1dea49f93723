import DataSection.Encoding.Value
import DataSection.Proofs.Section.Item

/-!
# The parts of an encoding

What the encoding of a value begins with and what stands behind that: text and numbers are
a header and a payload, and a container is a header and the encodings of its items in
their order.  `writeOnto` appends all of it to one accumulator, which these statements
are without.
-/

namespace DataSection

theorem Kind.le_maxPayload_of_allowsSize {kind : Kind} {size : Nat}
    (numeral : kind.isNumber = true) (allowed : kind.allowsSize size = true) :
    size ≤ kind.maxPayload?.getD 0 := by
  cases kind with
  | double | float => exact Nat.le_of_eq (eq_of_beq allowed)
  | uint16 | uint32 | uint64 | uint128 | int32 => exact of_decide_eq_true allowed
  | _ => cases numeral

namespace Encoding

/-- A header, and what stands behind it. -/
def headed (kind : Kind) (size : Nat) (body : Except WriteError ByteArray) :
    Except WriteError ByteArray :=
  match header kind size with
  | .error error => .error error
  | .ok written => body.map (written.toByteArray ++ ·)

theorem headed_eq_ok_iff {kind : Kind} {size : Nat} {body : Except WriteError ByteArray}
    {encoding : ByteArray} :
    headed kind size body = .ok encoding ↔
      ∃ written content, header kind size = .ok written ∧ body = .ok content ∧
        written.toByteArray ++ content = encoding := by
  unfold headed
  cases header kind size <;> simp

/-- The digits in which a number is written.  Floats keep all their bytes, and integers have
no leading zero bytes. -/
def digits (kind : Kind) (number : Nat) : List UInt8 :=
  match kind with
  | .double => BigEndian.fixed 8 number
  | .float => BigEndian.fixed 4 number
  | _ => BigEndian.minimal number

theorem digits_of_isInteger {kind : Kind} (integer : kind.isInteger = true) (number : Nat) :
    digits kind number = BigEndian.minimal number := by
  cases kind with
  | uint16 | uint32 | uint64 | uint128 | int32 => rfl
  | _ => cases integer

/-- Digits have a size that their kind allows, if another such size has room for the number. -/
theorem allowsSize_digits {kind : Kind} {size number : Nat} (numeral : kind.isNumber = true)
    (allowed : kind.allowsSize size = true) (fits : number < 256 ^ size) :
    kind.allowsSize (digits kind number).length = true := by
  have short : BigEndian.width number ≤ size := (BigEndian.width_le_iff number size).mpr fits
  cases kind with
  | double | float => simp [digits, Kind.allowsSize, Kind.maxPayload?]
  | uint16 | uint32 | uint64 | uint128 | int32 =>
      rw [digits_of_isInteger rfl, BigEndian.length_minimal]
      exact decide_eq_true (Nat.le_trans short (of_decide_eq_true allowed))
  | _ => cases numeral

theorem value_digits {kind : Kind} {size number : Nat} (numeral : kind.isNumber = true)
    (allowed : kind.allowsSize size = true) (fits : number < 256 ^ size) :
    BigEndian.value (digits kind number) = number := by
  cases kind with
  | double | float =>
      have equal := eq_of_beq allowed
      rw [equal] at fits
      rw [digits, BigEndian.value_fixed, Nat.mod_eq_of_lt fits]
  | uint16 | uint32 | uint64 | uint128 | int32 => rw [digits_of_isInteger rfl, BigEndian.value_minimal]
  | _ => cases numeral

end Encoding

namespace Value

open Encoding

/-! ## Scalars -/

theorem encode_boolean (flag : Bool) :
    (boolean flag).encode =
      (header .boolean (if flag then 1 else 0)).map List.toByteArray := by
  simp only [encode, writeOnto, writeHeader_eq, ByteArray.empty_append]

/-- The encoding of a string is that of a key. -/
theorem encode_string (text : ByteArray) : (string text).encode = content .string text := by
  simp only [encode, writeOnto, writeContent_eq, ByteArray.empty_append]
  cases content .string text <;> rfl

theorem encode_bytes (payload : ByteArray) : (bytes payload).encode = content .bytes payload := by
  simp only [encode, writeOnto, writeContent_eq, ByteArray.empty_append]
  cases content .bytes payload <;> rfl

theorem encode_of_isText {value : Value} (text : value.kind.isText = true) :
    ∃ payload, value.encode = content value.kind payload ∧ ofText value.kind payload = value := by
  cases value with
  | string payload => exact ⟨payload, encode_string payload, rfl⟩
  | bytes payload => exact ⟨payload, encode_bytes payload, rfl⟩
  | _ => cases text

/-- A number is written with the digits of its kind if it fits into a payload that the kind
allows. -/
theorem encode_ofNumber {kind : Kind} {size number : Nat} (numeral : kind.isNumber = true)
    (allowed : kind.allowsSize size = true) (fits : number < 256 ^ size) :
    (ofNumber kind number).encode = content kind (digits kind number).toByteArray := by
  have small : number < 256 ^ kind.maxPayload?.getD 0 :=
    Nat.lt_of_lt_of_le fits
      (Nat.pow_le_pow_right (by decide) (Kind.le_maxPayload_of_allowsSize numeral allowed))
  have written : ∀ out,
      (ofNumber kind number).writeOnto out = writeNumeral kind (digits kind number) out := by
    intro out
    cases kind with
    | double | float | uint16 | uint32 | uint64 | uint128 | int32 =>
        simp only [Kind.maxPayload?, Option.getD_some] at small
        simp only [ofNumber, writeOnto, digits, UInt16.toNat_ofNat', UInt32.toNat_ofNat',
          UInt64.toNat_ofNat', BitVec.toNat_ofNat, UInt32.toUInt32_toInt32, Nat.mod_eq_of_lt small]
    | _ => cases numeral
  simp only [encode, written, writeNumeral, writeContent_eq, ByteArray.empty_append]
  cases content kind (digits kind number).toByteArray <;> rfl

/-- Every number is one that fits into the largest payload of its kind. -/
theorem exists_ofNumber {value : Value} (numeral : value.kind.isNumber = true) :
    ∃ size number, value.kind.allowsSize size = true ∧ number < 256 ^ size ∧
      ofNumber value.kind number = value := by
  cases value with
  | double bits => exact ⟨8, bits.toNat, rfl, bits.toNat_lt, by simp [ofNumber, kind]⟩
  | float bits => exact ⟨4, bits.toNat, rfl, bits.toNat_lt, by simp [ofNumber, kind]⟩
  | uint16 bits => exact ⟨2, bits.toNat, rfl, bits.toNat_lt, by simp [ofNumber, kind]⟩
  | uint32 bits => exact ⟨4, bits.toNat, rfl, bits.toNat_lt, by simp [ofNumber, kind]⟩
  | uint64 bits => exact ⟨8, bits.toNat, rfl, bits.toNat_lt, by simp [ofNumber, kind]⟩
  | uint128 bits => exact ⟨16, bits.toNat, rfl, bits.isLt, by simp [ofNumber, kind]⟩
  | int32 bits =>
      exact ⟨4, bits.toUInt32.toNat, rfl, bits.toUInt32.toNat_lt, by simp [ofNumber, kind]⟩
  | _ => cases numeral

/-- The digits are the payload of a number, of a size that its kind allows, and give the
number back. -/
structure HasDigits (value : Value) (digits : List UInt8) : Prop where
  written : value.encode = content value.kind digits.toByteArray
  allowed : value.kind.allowsSize digits.length = true
  read : ofNumber value.kind (BigEndian.value digits) = value

theorem exists_hasDigits {value : Value} (numeral : value.kind.isNumber = true) :
    ∃ digits, value.HasDigits digits := by
  obtain ⟨size, number, allowed, fits, read⟩ := exists_ofNumber numeral
  refine ⟨digits value.kind number, ?_, allowsSize_digits numeral allowed fits, ?_⟩
  · rw [← encode_ofNumber numeral allowed fits, read]
  · rw [value_digits numeral allowed fits, read]

/-! ## Containers -/

theorem encode_array (elements : List Value) :
    (array elements).encode = headed .array elements.length (encodeElements elements) := by
  simp only [encode, writeOnto, writeHeader_eq, ByteArray.empty_append, headed]
  cases header .array elements.length with
  | error error => rfl
  | ok written => exact writeElements_eq elements written.toByteArray

theorem encode_map (entries : List (ByteArray × Value)) :
    (map ⟨entries⟩).encode = headed .map entries.length (encodeEntries entries) := by
  simp only [encode, writeOnto, writeHeader_eq, ByteArray.empty_append, headed]
  cases header .map entries.length with
  | error error => rfl
  | ok written => exact writeEntries_eq entries written.toByteArray

/-- An array is written as a header with its length and the elements behind it. -/
theorem encode_array_eq_ok_iff {elements : List Value} {encoding : ByteArray} :
    (array elements).encode = .ok encoding ↔
      ∃ written body, header .array elements.length = .ok written ∧
        encodeElements elements = .ok body ∧ written.toByteArray ++ body = encoding := by
  rw [encode_array, headed_eq_ok_iff]

/-- A map is written as a header with its number of entries and these behind it. -/
theorem encode_map_eq_ok_iff {entries : List (ByteArray × Value)} {encoding : ByteArray} :
    (map ⟨entries⟩).encode = .ok encoding ↔
      ∃ written body, header .map entries.length = .ok written ∧
        encodeEntries entries = .ok body ∧ written.toByteArray ++ body = encoding := by
  rw [encode_map, headed_eq_ok_iff]

theorem encodeElements_cons_eq_ok_iff {element : Value} {rest : List Value} {body : ByteArray} :
    encodeElements (element :: rest) = .ok body ↔
      ∃ first last, element.encode = .ok first ∧ encodeElements rest = .ok last ∧
        first ++ last = body := by
  rw [encodeElements, writeElements, writeOnto_eq]
  cases element.encode <;> simp [writeElements_eq]

theorem encodeEntries_cons_eq_ok_iff {key : ByteArray} {value : Value}
    {rest : List (ByteArray × Value)} {body : ByteArray} :
    encodeEntries ((key, value) :: rest) = .ok body ↔
      ∃ first second last, (string key).encode = .ok first ∧ value.encode = .ok second ∧
        encodeEntries rest = .ok last ∧ first ++ (second ++ last) = body := by
  rw [encodeEntries, writeEntries, writeContent_eq, encode_string]
  cases content .string key with
  | error _ => simp
  | ok first =>
      simp only [Except.map_ok, ByteArray.empty_append, writeOnto_eq]
      cases value.encode <;> simp [writeEntries_eq, ByteArray.append_assoc]

theorem encodeEntries_append_eq_ok_iff {entries others : List (ByteArray × Value)}
    {body : ByteArray} :
    encodeEntries (entries ++ others) = .ok body ↔
      ∃ first last, encodeEntries entries = .ok first ∧ encodeEntries others = .ok last ∧
        first ++ last = body := by
  induction entries generalizing body with
  | nil =>
      have none : encodeEntries [] = .ok .empty := rfl
      simp [none]
  | cons head rest ih =>
      obtain ⟨key, value⟩ := head
      rw [List.cons_append, encodeEntries_cons_eq_ok_iff]
      constructor
      · intro written
        obtain ⟨keyBytes, valueBytes, _, keyWritten, valueWritten, restWritten, rfl⟩ := written
        obtain ⟨first, last, firstWritten, lastWritten, rfl⟩ := ih.mp restWritten
        refine ⟨keyBytes ++ (valueBytes ++ first), last, ?_, lastWritten, ?_⟩
        · exact encodeEntries_cons_eq_ok_iff.mpr
            ⟨keyBytes, valueBytes, first, keyWritten, valueWritten, firstWritten, rfl⟩
        · simp only [ByteArray.append_assoc]
      · intro written
        obtain ⟨_, last, firstWritten, lastWritten, rfl⟩ := written
        obtain ⟨keyBytes, valueBytes, first, keyWritten, valueWritten, restWritten, rfl⟩ :=
          encodeEntries_cons_eq_ok_iff.mp firstWritten
        refine ⟨keyBytes, valueBytes, first ++ last, keyWritten, valueWritten, ?_, ?_⟩
        · exact ih.mpr ⟨first, last, restWritten, lastWritten, rfl⟩
        · simp only [ByteArray.append_assoc]

end Value

end DataSection
