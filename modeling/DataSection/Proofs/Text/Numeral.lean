import DataSection.Format
import DataSection.Text.Numeral

/-!
# Texts that name positions

A text names a position if it is a decimal numeral of at least one digit, perhaps behind one
plus sign, for a number that a machine word holds.  Leading zeros do no harm, so a position
has many names.  One of them is the numeral in which it is written.
-/

namespace DataSection.Text

/-- A decimal numeral, perhaps behind one plus sign, for a number that a machine word holds. -/
def Names (text : String) (position : Nat) : Prop :=
  position < Format.offsetRange ∧
    ∃ digits, (text.toList = digits ∨ text.toList = '+' :: digits) ∧ digits ≠ [] ∧
      (∀ digit ∈ digits, digit.isDigit = true) ∧ Nat.ofDigitChars 10 digits 0 = position

variable {number result position : Nat} {chars : List Char} {text : String}

theorem digitValue?_eq (char : Char) :
    digitValue? char = if char.isDigit = true then some (char.toNat - '0'.toNat) else none := by
  have same : ('0' ≤ char ∧ char ≤ '9') ↔ char.isDigit = true := by
    simp only [Char.isDigit, Bool.and_eq_true, decide_eq_true_eq]
    rfl
  simp only [digitValue?, same]

/-- Digits are read one after the other, each as the last one of the number so far. -/
theorem digitsFrom?_eq_some_iff :
    digitsFrom? number chars = some result ↔
      (∀ char ∈ chars, char.isDigit = true) ∧ Nat.ofDigitChars 10 chars number = result := by
  induction chars generalizing number with
  | nil => simp [digitsFrom?]
  | cons char rest ih =>
      rw [digitsFrom?, digitValue?_eq, List.forall_mem_cons, Nat.ofDigitChars_cons]
      by_cases digit : char.isDigit = true
      · rw [if_pos digit, Nat.mul_comm 10 number]
        simp only [ih, digit, true_and]
      · simp [digit]

theorem digits?_eq_some_iff :
    digits? chars = some result ↔
      chars ≠ [] ∧ (∀ char ∈ chars, char.isDigit = true) ∧
        Nat.ofDigitChars 10 chars 0 = result := by
  cases chars with
  | nil => simp [digits?]
  | cons first rest =>
      rw [digits?, digitsFrom?_eq_some_iff]
      simp

theorem position?_eq_some_iff : position? text = some position ↔ Names text position := by
  rw [position?, Option.filter_eq_some_iff, decide_eq_true_eq]
  constructor
  · rintro ⟨parsed, small⟩
    split at parsed
    next digits signed => exact ⟨small, digits, .inr signed, digits?_eq_some_iff.mp parsed⟩
    next => exact ⟨small, text.toList, .inl rfl, digits?_eq_some_iff.mp parsed⟩
  · rintro ⟨small, digits, spelled, numeral⟩
    refine ⟨?_, small⟩
    have parsed := digits?_eq_some_iff.mpr numeral
    rcases spelled with plain | signed
    · rw [plain]
      split
      next rest sign =>
          -- The sign is no digit, so a numeral does not begin with it.
          have digit := numeral.2.1 '+' (List.mem_cons_self)
          cases digit
      next => exact parsed
    · rw [signed]
      exact parsed

/-- A position is named by the numeral in which it is written. -/
theorem names_toString (small : position < Format.offsetRange) :
    Names (toString position) position := by
  refine ⟨small, Nat.toDigits 10 position, .inl ?_, ?_, ?_, Nat.ofDigitChars_ten_toDigits⟩
  · rw [Nat.toString_eq_ofList_toDigits, String.toList_ofList]
  · exact List.ne_nil_of_length_pos Nat.length_toDigits_pos
  · intro digit member
    exact Nat.isDigit_of_mem_toDigits (by decide) (by decide) member

end DataSection.Text
