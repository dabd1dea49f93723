import DataSection.BigEndian
import DataSection.Error
import DataSection.Format

/-!
# Sections

A section is a byte array together with what is needed to read values from it:
the offset from which pointers count, and a limit on nesting.

All access to the bytes goes through `byteAt`, `slice` and `numeral`, each of which
fails exactly when it would leave the array.
-/

namespace DataSection

/-- A byte array that holds values. -/
structure Section where
  bytes : ByteArray
  /-- Added to the offset that a pointer expresses. -/
  base : Nat := 0
  /-- How many containers and pointers may lie between a value that is asked for
  and any value in it. -/
  limit : Nat := Format.defaultLimit

namespace Section

/-- The number of bytes. -/
def size (data : Section) : Nat :=
  data.bytes.size

/-- The byte at an offset. -/
def byteAt (data : Section) (offset : Nat) : Except ReadError UInt8 :=
  if inside : offset < data.bytes.size then
    .ok data.bytes[offset]
  else
    .error (.outOfBounds offset 1 data.size)

/-- The `length` bytes from an offset on. -/
def slice (data : Section) (offset length : Nat) : Except ReadError ByteArray :=
  if offset + length ≤ data.size then
    .ok (data.bytes.extract offset (offset + length))
  else
    .error (.outOfBounds offset length data.size)

/-- The number that the `length` bytes from an offset on write. -/
def numeral (data : Section) (offset length : Nat) : Except ReadError Nat :=
  (data.slice offset length).map fun digits => BigEndian.value digits.data.toList

theorem byteAt_eq_ok_iff {data : Section} {offset : Nat} {byte : UInt8} :
    data.byteAt offset = .ok byte ↔
      ∃ inside : offset < data.bytes.size, data.bytes[offset] = byte := by
  unfold byteAt
  split
  next inside => simp [inside]
  next outside => simp [outside]

theorem byteAt_eq_error_iff {data : Section} {offset : Nat} {error : ReadError} :
    data.byteAt offset = .error error ↔
      data.size ≤ offset ∧ error = .outOfBounds offset 1 data.size := by
  unfold byteAt size
  split
  next inside => simp [Nat.not_le.mpr inside]
  next outside => simp [Nat.not_lt.mp outside, eq_comm]

theorem slice_eq_ok_iff {data : Section} {offset length : Nat} {content : ByteArray} :
    data.slice offset length = .ok content ↔
      offset + length ≤ data.size ∧ data.bytes.extract offset (offset + length) = content := by
  unfold slice
  split
  next inside => simp [inside]
  next outside => simp [outside]

theorem slice_eq_error_iff {data : Section} {offset length : Nat} {error : ReadError} :
    data.slice offset length = .error error ↔
      data.size < offset + length ∧ error = .outOfBounds offset length data.size := by
  unfold slice
  split
  next inside => simp [Nat.not_lt.mpr inside]
  next outside => simp [Nat.not_le.mp outside, eq_comm]

/-- A slice has the length that was asked for. -/
theorem size_of_slice {data : Section} {offset length : Nat} {content : ByteArray}
    (read : data.slice offset length = .ok content) : content.size = length := by
  obtain ⟨inside, rfl⟩ := slice_eq_ok_iff.mp read
  rw [ByteArray.size_extract, Nat.min_eq_left (by exact inside)]
  omega

theorem numeral_eq_error_iff {data : Section} {offset length : Nat} {error : ReadError} :
    data.numeral offset length = .error error ↔
      data.size < offset + length ∧ error = .outOfBounds offset length data.size := by
  rw [← slice_eq_error_iff, numeral]
  cases data.slice offset length <;> simp [Except.map]

/-- A numeral of so many bytes is below that power of 256. -/
theorem numeral_lt {data : Section} {offset length number : Nat}
    (read : data.numeral offset length = .ok number) : number < 256 ^ length := by
  rw [numeral] at read
  cases sliced : data.slice offset length with
  | error _ => simp [sliced, Except.map] at read
  | ok content =>
      have bound := BigEndian.value_lt content.data.toList
      simp only [sliced, Except.map, Except.ok.injEq] at read
      rwa [read, Array.length_toList, ByteArray.size_data, size_of_slice sliced] at bound

end Section

end DataSection
