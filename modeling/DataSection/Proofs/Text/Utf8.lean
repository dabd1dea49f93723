import DataSection.Text.Utf8
import Mathlib.Order.Bounds.Defs

/-!
# Well-formed UTF-8

UTF-8 writes a code in one to four bytes.  The lead byte says how many, and each byte behind it
carries six bits of the code.  A sequence of such a form is a character if no shorter one has its
code, and the code is a scalar value: not above the last one, and no surrogate.  Bytes are
well-formed if they are characters one behind the other, so a sequence that is cut off leaves
them ill-formed.

The characters in this sense are those that core writes and reads.  The main statement is that
`validUpTo` is the length of the longest beginning that is well-formed.
-/

namespace DataSection.Text

/-! ## Characters -/

/-- Whether a byte carries six bits behind a lead byte. -/
def IsTail (byte : UInt8) : Prop :=
  byte.toNat / 64 = 0b10

/-- A code in one of the four forms, which differ in the high bits of the lead byte. -/
inductive Form : (bytes : List UInt8) → (code : Nat) → Prop where
  | one {lead : UInt8} {code : Nat} :
      lead.toNat / 128 = 0 → code = lead.toNat → Form [lead] code
  | two {lead second : UInt8} {code : Nat} :
      lead.toNat / 32 = 0b110 → IsTail second →
      code = lead.toNat % 32 * 64 + second.toNat % 64 → Form [lead, second] code
  | three {lead second third : UInt8} {code : Nat} :
      lead.toNat / 16 = 0b1110 → IsTail second → IsTail third →
      code = (lead.toNat % 16 * 64 + second.toNat % 64) * 64 + third.toNat % 64 →
      Form [lead, second, third] code
  | four {lead second third fourth : UInt8} {code : Nat} :
      lead.toNat / 8 = 0b11110 → IsTail second → IsTail third → IsTail fourth →
      code = ((lead.toNat % 8 * 64 + second.toNat % 64) * 64 + third.toNat % 64) * 64 +
        fourth.toNat % 64 →
      Form [lead, second, third, fourth] code

/-- The shortest form of a scalar value. -/
def IsCharacter (bytes : List UInt8) : Prop :=
  ∃ code, Form bytes code ∧ (∀ other, Form other code → bytes.length ≤ other.length) ∧
    ¬(0xD800 ≤ code ∧ code ≤ 0xDFFF) ∧ code ≤ 0x10FFFF

/-- Characters one behind the other. -/
def WellFormed (bytes : ByteArray) : Prop :=
  ∃ characters : List (List UInt8), (∀ character ∈ characters, IsCharacter character) ∧
    bytes.data.toList = characters.flatten

variable {bytes other : List UInt8} {code : Nat}

/-- No two sequences of one length have one code. -/
theorem Form.eq_of_length_eq (form : Form bytes code) (otherForm : Form other code)
    (lengths : bytes.length = other.length) : bytes = other := by
  cases form <;> cases otherForm <;> simp only [List.length_cons, List.length_nil] at lengths
  all_goals first
    | contradiction
    | skip
  all_goals
    simp only [List.cons.injEq, and_true, ← UInt8.toNat_inj, IsTail] at *
    omega

/-- What core writes for a character is a form of its code. -/
theorem form_utf8EncodeChar (char : Char) : Form (String.utf8EncodeChar char) char.toNat := by
  have last : char.val.toNat < 0x110000 := by
    rcases char.valid with below | above <;> omega
  unfold String.utf8EncodeChar Char.toNat
  generalize char.val.toNat = code at last ⊢
  dsimp only
  split
  · refine .one ?_ ?_ <;> rw [UInt8.toNat_ofNat'] <;> omega
  split
  · refine .two ?_ ?_ ?_ <;> simp only [IsTail, UInt8.toNat_ofNat'] <;> omega
  split
  · refine .three ?_ ?_ ?_ ?_ <;> simp only [IsTail, UInt8.toNat_ofNat'] <;> omega
  · refine .four ?_ ?_ ?_ ?_ ?_ <;> simp only [IsTail, UInt8.toNat_ofNat'] <;> omega

/-- No form of a character's code is shorter than what core writes. -/
theorem Form.length_utf8EncodeChar_le {char : Char} (form : Form bytes char.toNat) :
    (String.utf8EncodeChar char).length ≤ bytes.length := by
  unfold Char.toNat at form
  unfold String.utf8EncodeChar
  generalize char.val.toNat = code at form ⊢
  simp only [apply_ite List.length, List.length_cons, List.length_nil]
  cases form
  all_goals
    simp only [List.length_cons, List.length_nil]
    repeat' split
    all_goals omega

/-- The characters are what core writes for one. -/
theorem isCharacter_iff : IsCharacter bytes ↔ ∃ char, bytes = String.utf8EncodeChar char := by
  constructor
  · rintro ⟨code, form, shortest, notSurrogate, last⟩
    have valid : code.isValidChar := by
      rcases Nat.lt_or_ge code 0xD800 with below | above
      · exact .inl below
      · exact .inr ⟨by omega, by omega⟩
    have same : (Char.ofNatAux code valid).toNat = code := rfl
    refine ⟨Char.ofNatAux code valid, ?_⟩
    rw [← same] at form shortest
    have written := form_utf8EncodeChar (Char.ofNatAux code valid)
    have lengths := Nat.le_antisymm (shortest _ written) form.length_utf8EncodeChar_le
    exact form.eq_of_length_eq written lengths
  · rintro ⟨char, rfl⟩
    refine ⟨char.toNat, form_utf8EncodeChar char, fun other => Form.length_utf8EncodeChar_le, ?_⟩
    unfold Char.toNat
    rcases char.valid with below | above <;> omega

/-! ## Well-formed bytes -/

/-- What core writes for characters. -/
def written (chars : List Char) : List UInt8 :=
  chars.flatMap String.utf8EncodeChar

theorem written_cons (char : Char) (chars : List Char) :
    written (char :: chars) = String.utf8EncodeChar char ++ written chars :=
  List.flatMap_cons

theorem wellFormed_iff {bytes : ByteArray} :
    WellFormed bytes ↔ ∃ chars, bytes.data.toList = written chars := by
  constructor
  · rintro ⟨characters, each, equal⟩
    rw [equal]
    clear equal
    induction characters with
    | nil => exact ⟨[], rfl⟩
    | cons character rest ih =>
        obtain ⟨char, rfl⟩ := isCharacter_iff.mp (each character List.mem_cons_self)
        obtain ⟨chars, equal⟩ := ih fun other member => each other (List.mem_cons_of_mem _ member)
        exact ⟨char :: chars, by rw [List.flatten_cons, written_cons, equal]⟩
  · rintro ⟨chars, equal⟩
    refine ⟨chars.map String.utf8EncodeChar, ?_, equal⟩
    intro character member
    obtain ⟨char, -, rfl⟩ := List.mem_map.mp member
    exact isCharacter_iff.mpr ⟨char, rfl⟩

/-- Well-formed bytes are those of texts. -/
theorem wellFormed_iff_isValidUTF8 {bytes : ByteArray} :
    WellFormed bytes ↔ bytes.IsValidUTF8 := by
  have core : ∀ chars : List Char, chars.utf8Encode.data.toList = written chars := by
    intro chars
    rw [List.utf8Encode, List.toList_data_toByteArray, written]
  rw [wellFormed_iff]
  constructor
  · rintro ⟨chars, equal⟩
    exact ⟨chars, ByteArray.ext (Array.toList_inj.mp (equal.trans (core chars).symm))⟩
  · rintro ⟨chars, rfl⟩
    exact ⟨chars, core chars⟩

/-! ## Characters in their place -/

theorem toList_data_extract (bytes : ByteArray) (start stop : Nat) :
    (bytes.extract start stop).data.toList = (bytes.data.toList.drop start).take (stop - start) := by
  simp [ByteArray.data_extract]

/-- A character is found at an offset if what core writes for it stands there. -/
theorem utf8DecodeChar?_eq_some_iff {bytes : ByteArray} {offset : Nat} {char : Char} :
    bytes.utf8DecodeChar? offset = some char ↔
      String.utf8EncodeChar char <+: bytes.data.toList.drop offset := by
  rw [ByteArray.utf8DecodeChar?_eq_utf8DecodeChar?_extract]
  have rest : (bytes.extract offset bytes.size).data.toList = bytes.data.toList.drop offset := by
    rw [toList_data_extract, List.take_of_length_le]
    simp
  constructor
  · intro found
    obtain ⟨behind, equal⟩ := ByteArray.exists_of_utf8DecodeChar?_eq_some found
    refine ⟨behind.data.toList, ?_⟩
    rw [← rest, equal]
    simp
  · rintro ⟨behind, equal⟩
    have split : bytes.extract offset bytes.size =
        (String.utf8EncodeChar char).toByteArray ++ behind.toByteArray := by
      apply ByteArray.ext
      apply Array.toList_inj.mp
      rw [rest, ← equal]
      simp
    rw [split]
    exact ByteArray.utf8DecodeChar?_utf8EncodeChar_append

/-- Characters from an offset on begin with the one that is found there. -/
theorem utf8DecodeChar?_of_written_cons {bytes : ByteArray} {offset : Nat} {char : Char}
    {chars : List Char} (begins : written (char :: chars) <+: bytes.data.toList.drop offset) :
    bytes.utf8DecodeChar? offset = some char ∧
      written chars <+: bytes.data.toList.drop (offset + char.utf8Size) := by
  obtain ⟨behind, equal⟩ := begins
  rw [written_cons, List.append_assoc] at equal
  refine ⟨utf8DecodeChar?_eq_some_iff.mpr ⟨_, equal⟩, behind, ?_⟩
  rw [← List.drop_drop, ← equal, ← String.length_utf8EncodeChar, List.drop_left]

theorem written_cons_of_utf8DecodeChar? {bytes : ByteArray} {offset : Nat} {char : Char}
    {chars : List Char} (found : bytes.utf8DecodeChar? offset = some char)
    (begins : written chars <+: bytes.data.toList.drop (offset + char.utf8Size)) :
    written (char :: chars) <+: bytes.data.toList.drop offset := by
  obtain ⟨behind, equal⟩ := utf8DecodeChar?_eq_some_iff.mp found
  rw [← List.drop_drop, ← equal, ← String.length_utf8EncodeChar, List.drop_left] at begins
  rw [written_cons, ← equal]
  exact (List.prefix_append_right_inj _).mpr begins

/-! ## The longest beginning -/

/-- From an offset on, `validEnd` passes over characters, and no others are longer. -/
theorem exists_written_validEnd (bytes : ByteArray) (steps offset : Nat)
    (enough : bytes.size ≤ offset + steps) :
    ∃ chars, validEnd bytes steps offset = offset + (written chars).length ∧
      written chars <+: bytes.data.toList.drop offset ∧
      ∀ others, written others <+: bytes.data.toList.drop offset →
        (written others).length ≤ (written chars).length := by
  induction steps generalizing offset with
  | zero =>
      refine ⟨[], rfl, List.nil_prefix, ?_⟩
      intro others begins
      rw [List.drop_eq_nil_of_le (by simpa using enough)] at begins
      exact begins.length_le
  | succ steps ih =>
      rw [validEnd]
      cases found : bytes.utf8DecodeChar? offset with
      | none =>
          refine ⟨[], rfl, List.nil_prefix, ?_⟩
          intro others begins
          cases others with
          | nil => exact Nat.le_refl _
          | cons char rest => cases found.symm.trans (utf8DecodeChar?_of_written_cons begins).1
      | some char =>
          have positive := char.utf8Size_pos
          obtain ⟨chars, ended, begins, longest⟩ := ih (offset + char.utf8Size) (by omega)
          have size : ∀ rest, (written (char :: rest)).length =
              char.utf8Size + (written rest).length := by
            intro rest
            rw [written_cons, List.length_append, String.length_utf8EncodeChar]
          refine ⟨char :: chars, ?_, written_cons_of_utf8DecodeChar? found begins, ?_⟩
          · rw [size, ← Nat.add_assoc]
            exact ended
          · intro others othersBegin
            cases others with
            | nil => exact Nat.zero_le _
            | cons other rest =>
                obtain ⟨same, behind⟩ := utf8DecodeChar?_of_written_cons othersBegin
                cases found.symm.trans same
                rw [size, size]
                exact Nat.add_le_add_left (longest rest behind) _

/-- A beginning is well-formed if characters of its length begin the bytes. -/
theorem wellFormed_extract_iff {bytes : ByteArray} {length : Nat} (inside : length ≤ bytes.size) :
    WellFormed (bytes.extract 0 length) ↔
      ∃ chars, (written chars).length = length ∧ written chars <+: bytes.data.toList := by
  rw [wellFormed_iff]
  simp only [toList_data_extract, List.drop_zero, Nat.sub_zero]
  constructor
  · rintro ⟨chars, equal⟩
    have whole : (bytes.data.toList.take length).length = length :=
      List.length_take_of_le (by simpa using inside)
    exact ⟨chars, equal ▸ whole, equal ▸ List.take_prefix _ _⟩
  · rintro ⟨chars, rfl, begins⟩
    exact ⟨chars, (List.prefix_iff_eq_take.mp begins).symm⟩

/-- The bytes before the first that belongs to no whole character are the longest well-formed
beginning. -/
theorem isGreatest_validUpTo (bytes : ByteArray) :
    IsGreatest {length | length ≤ bytes.size ∧ WellFormed (bytes.extract 0 length)}
      (validUpTo bytes) := by
  obtain ⟨chars, ended, begins, longest⟩ :=
    exists_written_validEnd bytes bytes.size 0 (Nat.le_add_left _ _)
  rw [Nat.zero_add] at ended
  rw [List.drop_zero] at begins longest
  have inside : validUpTo bytes ≤ bytes.size := by
    rw [validUpTo, ended]
    simpa using begins.length_le
  refine ⟨⟨inside, (wellFormed_extract_iff inside).mpr ⟨chars, ended.symm, begins⟩⟩, ?_⟩
  rintro length ⟨within, wellFormed⟩
  obtain ⟨others, rfl, othersBegin⟩ := (wellFormed_extract_iff within).mp wellFormed
  rw [validUpTo, ended]
  exact longest others othersBegin

/-- All bytes are the longest well-formed beginning exactly if they are well-formed. -/
theorem validUpTo_eq_size_iff {bytes : ByteArray} :
    validUpTo bytes = bytes.size ↔ WellFormed bytes := by
  obtain ⟨⟨inside, wellFormed⟩, longest⟩ := isGreatest_validUpTo bytes
  constructor
  · intro whole
    rwa [whole, ByteArray.extract_zero_size] at wellFormed
  · intro whole
    refine Nat.le_antisymm inside (longest ⟨Nat.le_refl _, ?_⟩)
    rwa [ByteArray.extract_zero_size]

theorem check_of_wellFormed {bytes : ByteArray} (wellFormed : WellFormed bytes) :
    check bytes = .ok () :=
  if_pos (validUpTo_eq_size_iff.mpr wellFormed)

/-- The check refuses ill-formed bytes with the length of their longest well-formed beginning. -/
theorem check_of_not_wellFormed {bytes : ByteArray} (illFormed : ¬WellFormed bytes) :
    check bytes = .error (.illFormedText (validUpTo bytes)) :=
  if_neg fun whole => illFormed (validUpTo_eq_size_iff.mp whole)

end DataSection.Text
