import DataSection.Encoding.Header
import DataSection.Proofs.Section.Holds
import DataSection.Section.Header

/-!
# Reading written headers

A header that stands in a section is read as the kind and the size it was written for,
with the payload behind it.  The control byte, the byte behind it that names an extended
kind, and the size bytes are read one after the other, as they were written.
-/

namespace DataSection

namespace Encoding

theorem length_control (kind : Kind) (field : Nat) :
    (control kind field).length = if kind.isExtended then 2 else 1 := by
  unfold control
  split <;> rfl

/-- The five bits in which a size is written. -/
def sizeBits (size : Nat) : Nat :=
  if Format.extraBytes size = 0 then size else Format.sizeCode (Format.extraBytes size)

/-- The bytes in which a size is written, as far as the bits do not hold it. -/
def sizeBytes (size : Nat) : List UInt8 :=
  BigEndian.fixed (Format.extraBytes size) (size - Format.sizeBase (Format.extraBytes size))

theorem sizeBits_lt (size : Nat) : sizeBits size < 32 := by
  have ranges := Format.extraBytes_cases size
  rw [sizeBits, Format.sizeCode, show Format.maxInlineSize = 28 from rfl]
  split <;> omega

@[simp] theorem length_sizeBytes (size : Nat) :
    (sizeBytes size).length = Format.extraBytes size :=
  BigEndian.length_fixed _ _

theorem header_of_le {size : Nat} (kind : Kind) (small : size ≤ Format.maxSize) :
    header kind size = .ok (control kind (sizeBits size) ++ sizeBytes size) :=
  if_pos small

theorem header_eq_ok_iff {kind : Kind} {size : Nat} {bytes : List UInt8} :
    header kind size = .ok bytes ↔
      size ≤ Format.maxSize ∧ control kind (sizeBits size) ++ sizeBytes size = bytes := by
  by_cases small : size ≤ Format.maxSize
  · simp only [header_of_le kind small, Except.ok.injEq, small, true_and]
  · simp only [header, small, if_false, reduceCtorEq, false_and]

end Encoding

namespace Section

variable {data : Section} {offset : Nat}

/-- A written control is read as its kind, with its five low bits. -/
theorem kindCode_of_holds {kind : Kind} {field : Nat} (small : field < 32)
    (held : data.Holds offset (Encoding.control kind field).toByteArray) :
    ∃ first, data.byteAt offset = .ok first ∧ first.toNat % 32 = field ∧
      data.kindCode first offset = .ok (kind.code, offset + (Encoding.control kind field).length) := by
  have positive := kind.code_pos
  have bounded := kind.code_le
  rw [Encoding.length_control]
  unfold Encoding.control at held
  split at held
  next extended =>
      have large : 7 < kind.code := by simpa [Kind.isExtended] using extended
      obtain ⟨control, rest⟩ := holds_cons.mp held
      have first : (UInt8.ofNat field).toNat = field := by
        rw [UInt8.toNat_ofNat']
        omega
      have second : (UInt8.ofNat (kind.code - 7)).toNat = kind.code - 7 := by
        rw [UInt8.toNat_ofNat']
        omega
      refine ⟨UInt8.ofNat field, control, by omega, ?_⟩
      rw [kindCode, if_pos (by omega), byteAt_of_holds rest, if_pos extended]
      simp only [bind, Except.bind, pure, Except.pure, second, Except.ok.injEq, Prod.mk.injEq,
        and_true]
      omega
  next inline =>
      have small : kind.code ≤ 7 := by simpa [Kind.isExtended] using inline
      have first : (UInt8.ofNat (kind.code * 32 + field)).toNat = kind.code * 32 + field := by
        rw [UInt8.toNat_ofNat']
        omega
      have high : (UInt8.ofNat (kind.code * 32 + field)).toNat / 32 = kind.code := by omega
      refine ⟨UInt8.ofNat (kind.code * 32 + field), byteAt_of_holds held, by omega, ?_⟩
      rw [kindCode, high, if_neg (by omega), if_neg inline]
      rfl

/-- Written size bytes are read as their size. -/
theorem sizeField_of_holds {size : Nat} (small : size ≤ Format.maxSize)
    (held : data.Holds offset (Encoding.sizeBytes size).toByteArray) :
    data.sizeField (Encoding.sizeBits size) offset =
      .ok (size, offset + Format.extraBytes size) := by
  have base := Format.sizeBase_extraBytes_le size
  have inlineBound : Format.maxInlineSize = 28 := rfl
  have ranges := Format.extraBytes_cases size
  by_cases inline : Format.extraBytes size = 0
  · rw [Encoding.sizeBits, if_pos inline, sizeField, if_pos (by omega), inline]
    rfl
  · have fits : size - Format.sizeBase (Format.extraBytes size) < 256 ^ Format.extraBytes size :=
      Format.sub_sizeBase_lt (by omega) small
    have read := numeral_of_holds held
    rw [Encoding.length_sizeBytes, Encoding.sizeBytes, BigEndian.value_fixed,
      Nat.mod_eq_of_lt fits] at read
    have extra : Format.sizeCode (Format.extraBytes size) - Format.maxInlineSize =
        Format.extraBytes size := Nat.add_sub_cancel_left ..
    have long : ¬Format.sizeCode (Format.extraBytes size) ≤ Format.maxInlineSize := by
      unfold Format.sizeCode
      omega
    rw [Encoding.sizeBits, if_neg inline, sizeField, if_neg long]
    simp only [extra, read, bind, Except.bind, pure, Except.pure, Nat.add_sub_cancel' base]

/-- A written header is read as its kind and its size.  The kinds that own their size
bits have room for small sizes only. -/
theorem header_of_holds {kind : Kind} {size : Nat} {bytes : List UInt8}
    (written : Encoding.header kind size = .ok bytes)
    (room : kind.ownsSizeBits = true → size ≤ Format.maxInlineSize)
    (held : data.Holds offset bytes.toByteArray) :
    data.header offset = .ok ⟨kind, size, offset + bytes.length⟩ := by
  obtain ⟨small, rfl⟩ := Encoding.header_eq_ok_iff.mp written
  rw [List.toByteArray_append, holds_append, List.size_toByteArray] at held
  obtain ⟨first, byte, low, code⟩ := kindCode_of_holds (Encoding.sizeBits_lt size) held.1
  have sizeRead := sizeField_of_holds small held.2
  rw [Section.header, byte, List.length_append, Encoding.length_sizeBytes, ← Nat.add_assoc]
  simp only [bind, Except.bind, code, Kind.ofCode?_code, low, pure, Except.pure]
  split
  next owned =>
      have none : Format.extraBytes size = 0 := if_pos (room owned)
      rw [Encoding.sizeBits, if_pos none, none, Nat.add_zero]
  next => rw [sizeRead]

end Section

end DataSection
