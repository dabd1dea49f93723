import DataSection.Proofs.Encoding.Header
import DataSection.Proofs.Section.Recognition

/-!
# Reading written pointers

A pointer that stands in a section is read as leading to the offset it was written for,
counted from the section's base.  The width decides how the offset is split into the three
bits of the control, the bytes behind it and the bias that those do not express.
-/

namespace DataSection

/-- The four widths, with the offsets that each is written for. -/
theorem Format.pointerWidth_cases (target : Nat) :
    (target < 2048 ∧ pointerWidth target = 1) ∨
      (2048 ≤ target ∧ target < 526336 ∧ pointerWidth target = 2) ∨
      (526336 ≤ target ∧ target < 526336 + 2 ^ 27 ∧ pointerWidth target = 3) ∨
      (526336 + 2 ^ 27 ≤ target ∧ pointerWidth target = 4) := by
  unfold pointerWidth
  simp only [show pointerBias 2 = 2048 from rfl, show pointerBias 3 = 526336 from rfl]
  repeat' split
  all_goals omega

namespace Encoding

/-- The parts of a written pointer: five bits that hold its width and three bits of its
number, and the bytes with the rest of the number, which is the offset less the bias. -/
theorem pointer_parts (target : UInt32) :
    ∃ width high digits, pointer target = control .pointer ((width - 1) * 8 + high) ++ digits ∧
      digits.length = width ∧ 1 ≤ width ∧ width ≤ 4 ∧ high < 8 ∧
      (if width = 4 then BigEndian.value digits
          else high * 256 ^ width + BigEndian.value digits) + Format.pointerBias width =
        target.toNat := by
  have range := target.toNat_lt
  unfold pointer
  rcases Format.pointerWidth_cases target.toNat with
    ⟨_, width⟩ | ⟨_, _, width⟩ | ⟨_, _, width⟩ | ⟨_, width⟩ <;> rw [width] <;>
    refine ⟨_, _, _, rfl, BigEndian.length_fixed _ _, by decide, by decide, ?_, ?_⟩ <;>
    simp [Format.pointerBias] <;> omega

end Encoding

namespace Section

variable {data : Section} {offset : Nat}

/-- A written pointer is read as leading to the offset it was written for. -/
theorem pointer_of_holds {target : UInt32}
    (held : data.Holds offset (Encoding.pointer target).toByteArray) :
    ∃ header, data.header offset = .ok header ∧ header.kind = .pointer ∧
      (target.toNat + data.base < Format.offsetRange →
        data.pointer header =
          .ok (target.toNat + data.base, offset + (Encoding.pointer target).length)) := by
  obtain ⟨width, high, digits, bytes, length, positive, bounded, small, number⟩ :=
    Encoding.pointer_parts target
  rw [bytes, List.toByteArray_append, holds_append, List.size_toByteArray] at held
  obtain ⟨first, byte, low, code⟩ := kindCode_of_holds (by omega) held.1
  have form := control_iff.mpr ⟨first, byte, low, code⟩
  refine ⟨_, header_of_control rfl form, rfl, ?_⟩
  intro inside
  apply pointer_eq_ok_iff.mpr
  refine ⟨digits, by dsimp only; omega, ?_, ?_, inside⟩
  · refine occupies_iff.mpr ⟨held.2, ?_⟩
    rw [bytes, List.length_append, List.size_toByteArray, Nat.add_assoc]
  · have high : ((width - 1) * 8 + high) % 8 = high := by omega
    rw [pointerNumber_eq, length, high, ← number]
    omega

/-- A written pointer is read as the value that it leads to, with one level more. -/
theorem decodeAt_pointer_of_holds {target : UInt32} {levels next : Nat} {value : Value}
    (held : data.Holds offset (Encoding.pointer target).toByteArray)
    (inside : target.toNat + data.base < Format.offsetRange)
    (below : data.decodeAt levels (target.toNat + data.base) = .ok (value, next)) :
    data.decodeAt (levels + 1) offset =
      .ok (value, offset + (Encoding.pointer target).toByteArray.size) := by
  obtain ⟨header, found, kind, leads⟩ := pointer_of_holds held
  rw [List.size_toByteArray]
  exact (decodeNode_pointer_eq_ok_iff found kind).mpr ⟨_, next, leads inside, below⟩

end Section

end DataSection
