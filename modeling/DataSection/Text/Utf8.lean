import DataSection.Error

/-!
# Bytes as text

Strings of a section are bytes that claim to be UTF-8.  `validUpTo` is the length of
their longest beginning that is, and `lossy` reads all of them, with one replacement
character for each sequence that is broken.

A broken sequence is as long as the bytes that could still have become a character.
-/

namespace DataSection.Text

/-- The end of the whole characters from an offset on, of which there are at most
`steps`. -/
def validEnd (bytes : ByteArray) : (steps offset : Nat) → Nat
  | 0, offset => offset
  | steps + 1, offset =>
      match bytes.utf8DecodeChar? offset with
      | none => offset
      | some char => validEnd bytes steps (offset + char.utf8Size)

/-- The number of bytes before the first that belongs to no whole character. -/
def validUpTo (bytes : ByteArray) : Nat :=
  validEnd bytes bytes.size 0

/-- Succeeds if the bytes are UTF-8. -/
def check (bytes : ByteArray) : Except ReadError Unit :=
  let valid := validUpTo bytes
  if valid = bytes.size then .ok () else .error (.illFormedText valid)

/-- The text that bytes are, if they are UTF-8. -/
def read (bytes : ByteArray) : Except ReadError String :=
  match String.fromUTF8? bytes with
  | some text => .ok text
  | none => .error (.illFormedText (validUpTo bytes))

/-- The byte at an offset, or zero behind the end, where no sequence goes on. -/
def byteOrZero (bytes : ByteArray) (offset : Nat) : Nat :=
  if inside : offset < bytes.size then bytes[offset].toNat else 0

/-- Whether a byte continues a sequence. -/
def isContinuation (byte : Nat) : Bool :=
  0x80 ≤ byte && byte ≤ 0xBF

/-- Whether a byte can stand second behind the lead byte of a sequence of three or
four.  The narrower ranges leave out overlong forms, surrogates, and numbers above
the last code point. -/
def canFollow (lead second : Nat) : Bool :=
  if lead = 0xE0 then 0xA0 ≤ second && second ≤ 0xBF
  else if lead = 0xED then 0x80 ≤ second && second ≤ 0x9F
  else if lead = 0xF0 then 0x90 ≤ second && second ≤ 0xBF
  else if lead = 0xF4 then 0x80 ≤ second && second ≤ 0x8F
  else 0xE0 ≤ lead && lead ≤ 0xF4 && isContinuation second

/-- The number of bytes of the broken sequence at an offset. -/
def brokenSize (bytes : ByteArray) (offset : Nat) : Nat :=
  let lead := byteOrZero bytes offset
  if canFollow lead (byteOrZero bytes (offset + 1)) then
    if 0xF0 ≤ lead && isContinuation (byteOrZero bytes (offset + 2)) then 3 else 2
  else
    1

/-- Append the text of the bytes from an offset on.  Each of the `steps` takes at
least one byte. -/
def lossyFrom (bytes : ByteArray) : (steps offset : Nat) → (text : String) → String
  | 0, _, text => text
  | steps + 1, offset, text =>
      if offset < bytes.size then
        match bytes.utf8DecodeChar? offset with
        | some char => lossyFrom bytes steps (offset + char.utf8Size) (text.push char)
        | none =>
            lossyFrom bytes steps (offset + brokenSize bytes offset) (text.push '\uFFFD')
      else
        text

/-- The text of bytes, with a replacement character for each broken sequence. -/
def lossy (bytes : ByteArray) : String :=
  lossyFrom bytes bytes.size 0 ""

/-- The order of two byte strings by their first difference, where a string comes
behind its own beginnings. -/
def compareBytes : List UInt8 → List UInt8 → Ordering
  | [], [] => .eq
  | [], _ :: _ => .lt
  | _ :: _, [] => .gt
  | left :: lefts, right :: rights =>
      if left < right then .lt
      else if right < left then .gt
      else compareBytes lefts rights

/-- The order of two byte strings. -/
def compare (left right : ByteArray) : Ordering :=
  compareBytes left.data.toList right.data.toList

theorem compareBytes_eq_iff {left right : List UInt8} :
    compareBytes left right = .eq ↔ left = right := by
  induction left generalizing right with
  | nil => cases right <;> simp [compareBytes]
  | cons head tail ih =>
      cases right with
      | nil => simp [compareBytes]
      | cons other others =>
          simp only [compareBytes, List.cons.injEq]
          split
          next less => simp; exact fun equal => absurd equal (UInt8.ne_of_lt less)
          next notLess =>
              split
              next more => simp; exact fun equal => absurd equal.symm (UInt8.ne_of_lt more)
              next notMore =>
                  have equal : head = other :=
                    UInt8.le_antisymm (UInt8.not_lt.mp notMore) (UInt8.not_lt.mp notLess)
                  simp [equal, ih]

/-- Two byte strings stand at one place of the order only if they are equal. -/
theorem compare_eq_iff {left right : ByteArray} : compare left right = .eq ↔ left = right := by
  rw [compare, compareBytes_eq_iff, Array.toList_inj]
  exact ByteArray.ext_iff.symm

end DataSection.Text
