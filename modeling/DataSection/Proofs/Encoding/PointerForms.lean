import DataSection.Proofs.Encoding.Pointer
import DataSection.Proofs.Encoding.Shortest

/-!
# The forms of a pointer

A pointer is written in as few bytes as any pointer to the same offset has.  Pointers of one
to three bytes express ranges of offsets that follow one another without a gap, so those have
one form each, which is the written one.  Pointers of four bytes express every offset, and
ignore three of their bits; they are the written form only of offsets behind all ranges, and
only if those bits are zero.
-/

namespace DataSection

namespace Format

/-- Each of the first three ranges ends where the next one starts. -/
theorem pointerWidth_eq_iff {width target : Nat} (positive : 1 ≤ width) (short : width ≤ 3) :
    pointerWidth target = width ↔
      pointerBias width ≤ target ∧ target < pointerBias width + 8 * 256 ^ width := by
  have ranges := pointerWidth_cases target
  have widths : width = 1 ∨ width = 2 ∨ width = 3 := by omega
  rcases widths with rfl | rfl | rfl <;> simp only [pointerBias] <;> omega

theorem pointerWidth_eq_four_iff {target : Nat} :
    pointerWidth target = 4 ↔ pointerBias 3 + 8 * 256 ^ 3 ≤ target := by
  have ranges := pointerWidth_cases target
  simp only [pointerBias]
  omega

theorem pointerWidth_le (target : Nat) : pointerWidth target ≤ 4 := by
  have ranges := pointerWidth_cases target
  omega

end Format

namespace Encoding

/-- The pointer to an offset, by the parts of the number that its width expresses. -/
theorem pointer_eq {target : UInt32} {high : Nat} {low : List UInt8}
    (width : Format.pointerWidth target.toNat = low.length)
    (number : target.toNat = high * 256 ^ low.length + BigEndian.value low +
      Format.pointerBias low.length)
    (absolute : low.length = 4 → high = 0) :
    pointer target = control .pointer ((low.length - 1) * 8 + high) ++ low := by
  have small := BigEndian.value_lt low
  have parts : (if low.length = 4 then 0
      else (high * 256 ^ low.length + BigEndian.value low) / 256 ^ low.length) = high := by
    split
    next four => exact (absolute four).symm
    next =>
        rw [Nat.mul_comm, Nat.mul_add_div (Nat.pow_pos (by decide)), Nat.div_eq_of_lt small,
          Nat.add_zero]
  have digits :
      BigEndian.fixed low.length (high * 256 ^ low.length + BigEndian.value low) = low := by
    apply BigEndian.eq_of_value_eq (BigEndian.length_fixed _ _)
    rw [BigEndian.value_fixed, Nat.mul_comm, Nat.mul_add_mod, Nat.mod_eq_of_lt small]
  rw [pointer, width, number, Nat.add_sub_cancel, parts, digits]

theorem length_pointer (target : UInt32) :
    (pointer target).length = 1 + Format.pointerWidth target.toNat := by
  rw [pointer, List.length_append, length_control, BigEndian.length_fixed]
  rfl

theorem control_pointer_injective {first second : Nat} (firstSmall : first < 32)
    (secondSmall : second < 32) :
    control .pointer first = control .pointer second ↔ first = second := by
  have code : Kind.pointer.code = 1 := rfl
  simp only [control, show Kind.pointer.isExtended = false from rfl, Bool.false_eq_true, if_false,
    List.singleton_inj, ← UInt8.toNat_inj, UInt8.toNat_ofNat', code]
  omega

end Encoding

namespace Section

variable {data : Section} {start field target stop : Nat}

/-- A complete pointer with these five low bits is read between two offsets, and leads to
`target`. -/
def ReadsPointer (data : Section) (start field target stop : Nat) : Prop :=
  ∃ payload, data.header start = .ok ⟨.pointer, field, payload⟩ ∧
    data.pointer ⟨.pointer, field, payload⟩ = .ok (target, stop)

/-- The kind of a pointer stands in its control. -/
theorem control_pointer_iff :
    Control data start Kind.pointer.code field stop ↔
      field < 32 ∧ data.Occupies start (Encoding.control .pointer field).toByteArray stop := by
  have written :
      Encoding.control .pointer field = [UInt8.ofNat (Kind.pointer.code * 32 + field)] := rfl
  have code : Kind.pointer.code = 1 := rfl
  rw [written]
  constructor
  · intro form
    cases form with
    | @inline control split _ small occupied =>
        have same : UInt8.ofNat (Kind.pointer.code * 32 + field) = control := by
          rw [← split, UInt8.ofNat_toNat]
        exact ⟨small, same ▸ occupied⟩
    | extended _ _ named _ => omega
  · rintro ⟨small, occupied⟩
    refine .inline ?_ (Nat.le_refl 1) small occupied
    rw [UInt8.toNat_ofNat', code]
    omega

/-- A pointer is a control and the low digits of its number. -/
theorem readsPointer_iff :
    data.ReadsPointer start field target stop ↔
      field < 32 ∧ ∃ low : List UInt8, low.length = pointerBytes field ∧
        data.Occupies start (Encoding.control .pointer field ++ low).toByteArray stop ∧
        target = pointerNumber field low + data.base + Format.pointerBias low.length ∧
        target < Format.offsetRange := by
  simp only [List.toByteArray_append, occupies_append]
  constructor
  · rintro ⟨payload, found, reached⟩
    obtain ⟨small, control⟩ := control_pointer_iff.mp (header_eq_ok_iff.mp found)
    obtain ⟨low, length, digits, leads⟩ := pointer_eq_ok_iff.mp reached
    exact ⟨small, low, length, ⟨payload, control, digits⟩, leads⟩
  · rintro ⟨small, low, length, ⟨payload, control, digits⟩, leads⟩
    refine ⟨payload, header_of_control rfl (control_pointer_iff.mpr ⟨small, control⟩), ?_⟩
    exact pointer_eq_ok_iff.mpr ⟨low, length, digits, leads⟩

/-- A pointer's number stays below what three bits and its bytes have room for. -/
theorem pointerNumber_lt (field : Nat) (low : List UInt8) :
    pointerNumber field low < 8 * 256 ^ low.length := by
  have digits := BigEndian.value_lt low
  have bits : field % 8 * 256 ^ low.length ≤ 7 * 256 ^ low.length :=
    Nat.mul_le_mul_right _ (Nat.le_of_lt_succ (Nat.mod_lt field (by decide)))
  rw [pointerNumber_eq]
  split <;> omega

theorem pointerBytes_cases (field : Nat) :
    pointerBytes field = 1 ∨ pointerBytes field = 2 ∨ pointerBytes field = 3 ∨
      pointerBytes field = 4 := by
  unfold pointerBytes
  omega

/-- The number of a pointer lies in the range of its width.  The widest has no range of its
own, but needs its width for nothing else than what lies behind the ranges. -/
theorem pointerWidth_number {low : List UInt8} (length : low.length = pointerBytes field) :
    let number := pointerNumber field low + Format.pointerBias low.length
    Format.pointerWidth number ≤ low.length ∧
      (low.length ≤ 3 → Format.pointerWidth number = low.length) := by
  have bound := pointerNumber_lt field low
  have positive : 1 ≤ low.length := by
    rw [length]
    exact Nat.succ_pos _
  have short : low.length ≤ 3 → Format.pointerWidth
      (pointerNumber field low + Format.pointerBias low.length) = low.length := by
    intro short
    exact (Format.pointerWidth_eq_iff positive short).mpr ⟨by omega, by omega⟩
  refine ⟨?_, short⟩
  by_cases few : low.length ≤ 3
  · exact Nat.le_of_eq (short few)
  · exact Nat.le_trans (Format.pointerWidth_le _) (by omega)

/-- A pointer takes one byte for its control and those that its bits ask for. -/
theorem ReadsPointer.exists_low (reads : data.ReadsPointer start field target stop) :
    ∃ low : List UInt8, low.length = pointerBytes field ∧ stop = start + 1 + low.length ∧
      data.bytes.extract start stop = (Encoding.control .pointer field ++ low).toByteArray ∧
      target = pointerNumber field low + data.base + Format.pointerBias low.length := by
  obtain ⟨-, low, length, occupied, leads, -⟩ := readsPointer_iff.mp reads
  obtain ⟨held, rfl⟩ := occupies_iff.mp occupied
  refine ⟨low, length, ?_, (holds_iff.mp held).2, leads⟩
  rw [List.size_toByteArray, List.length_append, Encoding.length_control, ← Nat.add_assoc]
  rfl

/-! ## Written pointers -/

/-- A written pointer is read wherever it stands. -/
theorem exists_readsPointer_of_holds {offset : UInt32}
    (held : data.Holds start (Encoding.pointer offset).toByteArray)
    (inside : offset.toNat + data.base < Format.offsetRange) :
    ∃ field, data.ReadsPointer start field (offset.toNat + data.base)
      (start + (Encoding.pointer offset).length) := by
  obtain ⟨⟨kind, field, payload⟩, found, pointer, leads⟩ := pointer_of_holds held
  cases pointer
  exact ⟨field, payload, found, leads inside⟩

/-- No pointer to the same offset is shorter than the written one. -/
theorem ReadsPointer.length_le {offset : UInt32}
    (reads : data.ReadsPointer start field (offset.toNat + data.base) stop) :
    start + (Encoding.pointer offset).length ≤ stop := by
  obtain ⟨low, length, rfl, -, leads⟩ := reads.exists_low
  have number : offset.toNat = pointerNumber field low + Format.pointerBias low.length := by omega
  have width := (pointerWidth_number length).1
  rw [Encoding.length_pointer, number]
  omega

/-! ## Read pointers -/

/-- Every pointer leads to an offset of 32 bits, counted from the base. -/
theorem ReadsPointer.exists_offset (reads : data.ReadsPointer start field target stop) :
    ∃ offset : UInt32, target = offset.toNat + data.base := by
  obtain ⟨low, length, -, -, leads⟩ := reads.exists_low
  have digits := BigEndian.value_lt low
  have number := pointerNumber_lt field low
  have small : pointerNumber field low + Format.pointerBias low.length < 2 ^ 32 := by
    rcases pointerBytes_cases field with width | width | width | width <;>
      rw [width] at length <;> rw [length] at digits number ⊢ <;>
      simp only [Format.pointerBias]
    · omega
    · omega
    · omega
    · rw [pointerNumber_eq, if_pos length]
      omega
  refine ⟨UInt32.ofNat (pointerNumber field low + Format.pointerBias low.length), ?_⟩
  rw [UInt32.toNat_ofNat', Nat.mod_eq_of_lt small]
  omega

/-- A pointer of one to three bytes is the written one. -/
theorem ReadsPointer.eq_written {offset : UInt32}
    (reads : data.ReadsPointer start field (offset.toNat + data.base) stop)
    (short : pointerBytes field ≤ 3) :
    (Encoding.pointer offset).toByteArray = data.bytes.extract start stop := by
  have small := (readsPointer_iff.mp reads).1
  obtain ⟨low, length, -, bytes, leads⟩ := reads.exists_low
  have number : offset.toNat = pointerNumber field low + Format.pointerBias low.length := by omega
  have width := (pointerWidth_number length).2 (length ▸ short)
  rw [← number] at width
  rw [pointerNumber_eq, if_neg (by omega)] at number
  have bits : (low.length - 1) * 8 + field % 8 = field := by
    rw [length, pointerBytes]
    omega
  rw [bytes, Encoding.pointer_eq width number (by omega), bits]

/-- A pointer of four bytes is the written one exactly if its unused bits are zero and no
shorter pointer expresses its offset. -/
theorem ReadsPointer.eq_written_iff {offset : UInt32}
    (reads : data.ReadsPointer start field (offset.toNat + data.base) stop)
    (long : pointerBytes field = 4) :
    (Encoding.pointer offset).toByteArray = data.bytes.extract start stop ↔
      field % 8 = 0 ∧ Format.pointerBias 3 + 8 * 256 ^ 3 ≤ offset.toNat := by
  have small := (readsPointer_iff.mp reads).1
  obtain ⟨low, length, -, bytes, leads⟩ := reads.exists_low
  rw [long] at length
  rw [bytes, List.toByteArray_inj, ← Format.pointerWidth_eq_four_iff]
  by_cases width : Format.pointerWidth offset.toNat = 4
  · have number : offset.toNat = 0 * 256 ^ low.length + BigEndian.value low +
        Format.pointerBias low.length := by
      rw [pointerNumber_eq, if_pos length] at leads
      omega
    rw [Encoding.pointer_eq (width.trans length.symm) number (fun _ => rfl), length,
      List.append_left_inj, Encoding.control_pointer_injective (by decide) small]
    simp only [pointerBytes] at long
    simp only [width, and_true]
    omega
  · have shorter : Encoding.pointer offset ≠ Encoding.control .pointer field ++ low := by
      intro same
      have lengths := congrArg List.length same
      rw [Encoding.length_pointer, List.length_append, Encoding.length_control, length] at lengths
      exact width (Nat.add_left_cancel lengths)
    simp only [shorter, width, and_false]

/-- A pointer of four bytes is longer than the written one if a shorter one expresses its
offset. -/
theorem ReadsPointer.length_lt {offset : UInt32}
    (reads : data.ReadsPointer start field (offset.toNat + data.base) stop)
    (long : pointerBytes field = 4)
    (small : offset.toNat < Format.pointerBias 3 + 8 * 256 ^ 3) :
    start + (Encoding.pointer offset).length < stop := by
  obtain ⟨low, length, rfl, -, -⟩ := reads.exists_low
  have width := Format.pointerWidth_le offset.toNat
  have notFour := mt Format.pointerWidth_eq_four_iff.mp (Nat.not_le.mpr small)
  rw [Encoding.length_pointer]
  omega

/-! ## Ranges -/

/-- The offsets that pointers of one to three bytes express are those for which such pointers
are written. -/
theorem exists_readsPointer_iff {width target : Nat} (positive : 1 ≤ width) (short : width ≤ 3) :
    (∃ data start field stop, Section.base data = 0 ∧ pointerBytes field = width ∧
        data.ReadsPointer start field target stop) ↔
      Format.pointerBias width ≤ target ∧ target < Format.pointerBias width + 8 * 256 ^ width := by
  rw [← Format.pointerWidth_eq_iff positive short]
  constructor
  · rintro ⟨data, start, field, stop, base, bytes, reads⟩
    obtain ⟨low, length, -, -, leads⟩ := reads.exists_low
    have number : target = pointerNumber field low + Format.pointerBias low.length := by omega
    rw [number, (pointerWidth_number length).2 (by omega), length, bytes]
  · intro needed
    have range := (Format.pointerWidth_eq_iff positive short).mp needed
    have small : target < 2 ^ 32 := by
      have widths : width = 1 ∨ width = 2 ∨ width = 3 := by omega
      rcases widths with rfl | rfl | rfl <;> simp only [Format.pointerBias] at range <;> omega
    have offset : (UInt32.ofNat target).toNat = target := by
      rw [UInt32.toNat_ofNat', Nat.mod_eq_of_lt small]
    have held := holds_whole (Encoding.pointer (UInt32.ofNat target)).toByteArray 0 0
    obtain ⟨field, reads⟩ := exists_readsPointer_of_holds held (by
      rw [offset]
      exact Nat.lt_trans small (by decide))
    obtain ⟨low, length, stop, -, -⟩ := reads.exists_low
    rw [Encoding.length_pointer, offset, needed] at stop
    rw [offset] at reads
    exact ⟨_, _, field, _, rfl, by omega, reads⟩

/-- The forms of pointers.

The pointer that is written for an offset of 32 bits is read, wherever it stands, as leading
to that offset from the base, and no pointer that leads there is shorter.  A pointer that is
read leads to an offset of 32 bits from the base.  If it has one to three bytes behind its
control, it is what is written for that offset; if it has four, only for an offset behind the
ranges of the others and with its unused bits zero, and for any other offset less is written.
Those ranges follow one another from zero on. -/
theorem pointers_written_and_read :
    (∀ (offset : UInt32) (before after : ByteArray) (base limit : Nat),
        offset.toNat + base < Format.offsetRange →
          (∃ field, ReadsPointer
            ⟨before ++ (Encoding.pointer offset).toByteArray ++ after, base, limit⟩ before.size
            field (offset.toNat + base) (before.size + (Encoding.pointer offset).length)) ∧
          ∀ (data : Section) (start field stop : Nat), data.base = base →
            data.ReadsPointer start field (offset.toNat + base) stop →
              start + (Encoding.pointer offset).length ≤ stop) ∧
      (∀ (data : Section) (start field target stop : Nat), data.base = 0 →
        data.ReadsPointer start field target stop →
          ∃ offset : UInt32, offset.toNat = target ∧ stop = start + 1 + pointerBytes field ∧
            (pointerBytes field ≤ 3 →
              (Encoding.pointer offset).toByteArray = data.bytes.extract start stop) ∧
            (pointerBytes field = 4 →
              ((Encoding.pointer offset).toByteArray = data.bytes.extract start stop ↔
                field % 8 = 0 ∧ 526336 + 2 ^ 27 ≤ target) ∧
              (target < 526336 + 2 ^ 27 → start + (Encoding.pointer offset).length < stop))) ∧
      (∀ width target, 1 ≤ width → width ≤ 3 →
        ((∃ data start field stop, Section.base data = 0 ∧ pointerBytes field = width ∧
            data.ReadsPointer start field target stop) ↔
          Format.pointerBias width ≤ target ∧
            target < Format.pointerBias width + 8 * 256 ^ width)) ∧
      Format.pointerBias 1 = 0 ∧
      Format.pointerBias 1 + 8 * 256 ^ 1 = Format.pointerBias 2 ∧
      Format.pointerBias 2 + 8 * 256 ^ 2 = Format.pointerBias 3 ∧
      Format.pointerBias 3 + 8 * 256 ^ 3 = 526336 + 2 ^ 27 := by
  refine ⟨?_, ?_, fun width target => exists_readsPointer_iff, rfl, rfl, rfl, rfl⟩
  · intro offset before after base limit inside
    refine ⟨exists_readsPointer_of_holds (holds_middle _ _ _ _ _) inside, ?_⟩
    intro data start field stop same reads
    subst same
    exact reads.length_le
  · intro data start field target stop zero reads
    obtain ⟨offset, rfl⟩ := reads.exists_offset
    obtain ⟨low, length, behind, -, -⟩ := reads.exists_low
    refine ⟨offset, by rw [zero, Nat.add_zero], by rw [behind, length], reads.eq_written, ?_⟩
    intro long
    rw [zero]
    exact ⟨reads.eq_written_iff long, reads.length_lt long⟩

/-- A pointer of four bytes to an offset that one byte expresses. -/
def widePointer : Section :=
  { bytes := ⟨#[0x38, 0x00, 0x00, 0x00, 0x05]⟩ }

theorem pointers_written_and_read_widePointer :
    (widePointer.ReadsPointer 0 24 5 5 ∧ 0 + (Encoding.pointer 5).length < 5) ∧
      Encoding.pointer 5 = [0x20, 0x05] ∧
      ∃ field,
        ReadsPointer ⟨.empty ++ (Encoding.pointer 5).toByteArray ++ .empty, 7, 0⟩ 0 field 12 2 := by
  obtain ⟨written, read, -⟩ := pointers_written_and_read
  have wide : widePointer.ReadsPointer 0 24 5 5 := ⟨1, rfl, rfl⟩
  obtain ⟨offset, equal, -, -, long⟩ := read widePointer 0 24 5 5 rfl wide
  have five : offset = 5 := UInt32.toNat_inj.mp equal
  subst five
  have shorter := (long rfl).2 (by decide)
  exact ⟨⟨wide, shorter⟩, rfl, (written 5 .empty .empty 7 0 (by decide)).1⟩

end Section

end DataSection
