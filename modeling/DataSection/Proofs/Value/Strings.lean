import DataSection.Proofs.Text.Utf8
import DataSection.Value.Measure
import DataSection.Value.Strings

/-!
# The first string that is not text

`checkStrings` goes through a value as it nests and adds up what it counts in each branch, and
`strings` lists what stands there.  The check of a value is the check of that list, one string
behind the other, for what stands behind a failure is not reached in either.
-/

namespace DataSection

namespace Text

/-- The check of strings one behind the other, which adds their number to `count`. -/
def checkAll : List ByteArray → (count : Nat) → Except ReadError Nat
  | [], count => .ok count
  | text :: rest, count => check text >>= fun () => checkAll rest (count + 1)

variable {texts : List ByteArray}

/-- Strings in front are checked first, and the others add to their number. -/
theorem checkAll_append (front behind : List ByteArray) (count : Nat) :
    checkAll (front ++ behind) count = checkAll front count >>= checkAll behind := by
  induction front generalizing count with
  | nil => rfl
  | cons text rest ih =>
      rw [List.cons_append, checkAll, checkAll, bind_assoc]
      exact congrArg (check text >>= ·) (funext fun _ => ih (count + 1))

/-- What has been counted before only adds to the number. -/
theorem checkAll_count (texts : List ByteArray) (count : Nat) :
    checkAll texts count = checkAll texts 0 >>= fun more => .ok (count + more) := by
  induction texts generalizing count with
  | nil => rfl
  | cons text rest ih =>
      rw [checkAll, checkAll, bind_assoc, ih (count + 1), ih (0 + 1)]
      simp only [bind_assoc]
      refine congrArg (check text >>= ·) (funext fun _ =>
        congrArg (checkAll rest 0 >>= ·) (funext fun more => ?_))
      exact congrArg Except.ok (by omega)

theorem checkAll_of_wellFormed (wellFormed : ∀ text ∈ texts, WellFormed text) (count : Nat) :
    checkAll texts count = .ok (count + texts.length) := by
  induction texts generalizing count with
  | nil => rfl
  | cons text rest ih =>
      rw [List.forall_mem_cons] at wellFormed
      rw [checkAll, check_of_wellFormed wellFormed.1, List.length_cons, Nat.add_comm rest.length,
        ← Nat.add_assoc]
      exact ih wellFormed.2 (count + 1)

/-- Ill-formed bytes end the check, whatever stands behind them. -/
theorem checkAll_of_not_wellFormed {before : List ByteArray}
    (wellFormed : ∀ earlier ∈ before, WellFormed earlier) {text : ByteArray}
    (illFormed : ¬WellFormed text) (after : List ByteArray) (count : Nat) :
    checkAll (before ++ text :: after) count = .error (.illFormedText (validUpTo text)) := by
  rw [checkAll_append, checkAll_of_wellFormed wellFormed]
  exact congrArg (· >>= fun () => checkAll after (count + before.length + 1))
    (check_of_not_wellFormed illFormed)

/-- Either all strings are well-formed or one is the first that is not. -/
theorem exists_first_of_not_wellFormed (illFormed : ¬∀ text ∈ texts, WellFormed text) :
    ∃ before text after, texts = before ++ text :: after ∧
      (∀ earlier ∈ before, WellFormed earlier) ∧ ¬WellFormed text := by
  induction texts with
  | nil => exact absurd (List.forall_mem_nil _) illFormed
  | cons text rest ih =>
      by_cases first : WellFormed text
      · obtain ⟨before, other, after, rfl, earlier, later⟩ := ih fun all =>
          illFormed (List.forall_mem_cons.mpr ⟨first, all⟩)
        exact ⟨text :: before, other, after, rfl, List.forall_mem_cons.mpr ⟨first, earlier⟩, later⟩
      · exact ⟨[], text, rest, rfl, List.forall_mem_nil _, first⟩

end Text

namespace Value

open Text (checkAll checkAll_append checkAll_count)

/-- The check of elements is the check of their strings if that holds for each of them. -/
theorem checkElements_eq_checkAll {elements : List Value}
    (each : ∀ element ∈ elements, element.checkStrings = checkAll element.strings 0)
    (count : Nat) :
    checkElements elements count = checkAll (stringsOfElements elements) count := by
  induction elements generalizing count with
  | nil => rfl
  | cons element rest ih =>
      rw [List.forall_mem_cons] at each
      rw [checkElements, each.1, stringsOfElements, checkAll_append,
        checkAll_count element.strings count]
      cases checkAll element.strings 0 with
      | error error => rfl
      | ok more => exact ih each.2 (count + more)

/-- The check of entries is the check of their keys and strings if that holds for each value. -/
theorem checkEntries_eq_checkAll {entries : List (ByteArray × Value)}
    (each : ∀ entry ∈ entries, entry.2.checkStrings = checkAll entry.2.strings 0) (count : Nat) :
    checkEntries entries count = checkAll (stringsOfEntries entries) count := by
  induction entries generalizing count with
  | nil => rfl
  | cons entry rest ih =>
      obtain ⟨key, value⟩ := entry
      rw [List.forall_mem_cons] at each
      rw [checkEntries, each.1, stringsOfEntries, List.cons_append, checkAll]
      cases Text.check key with
      | error error => rfl
      | ok checked =>
          show _ = checkAll (value.strings ++ stringsOfEntries rest) (count + 1)
          rw [checkAll_append, checkAll_count value.strings (count + 1)]
          cases checkAll value.strings 0 with
          | error error => rfl
          | ok more => exact ih each.2 (count + 1 + more)

/-- The check of a value is the check of its strings, one behind the other. -/
theorem checkStrings_eq_checkAll (value : Value) :
    value.checkStrings = checkAll value.strings 0 := by
  induction value using Value.induction with
  | string text =>
      rw [checkStrings, strings, checkAll]
      cases Text.check text <;> rfl
  | map entries ih => exact checkEntries_eq_checkAll ih 0
  | array elements ih => exact checkElements_eq_checkAll ih 0
  | _ => rfl

/-- If all strings of a value are well-formed, the check counts them.  Otherwise it reports the
first that is not, with the length of the longest beginning of it that is. -/
theorem checkStrings_reports_first (value : Value) :
    ((∀ text ∈ value.strings, Text.WellFormed text) →
      value.checkStrings = .ok value.strings.length) ∧
    ((¬∀ text ∈ value.strings, Text.WellFormed text) →
      ∃ before text after valid, value.strings = before ++ text :: after ∧
        (∀ earlier ∈ before, Text.WellFormed earlier) ∧ ¬Text.WellFormed text ∧
        IsGreatest {length | length ≤ text.size ∧ Text.WellFormed (text.extract 0 length)} valid ∧
        value.checkStrings = .error (.illFormedText valid)) := by
  rw [checkStrings_eq_checkAll]
  constructor
  · intro wellFormed
    rw [Text.checkAll_of_wellFormed wellFormed, Nat.zero_add]
  · intro someIllFormed
    obtain ⟨before, text, after, split, wellFormed, illFormed⟩ :=
      Text.exists_first_of_not_wellFormed someIllFormed
    refine ⟨before, text, after, Text.validUpTo text, split, wellFormed, illFormed,
      Text.isGreatest_validUpTo text, ?_⟩
    rw [split]
    exact Text.checkAll_of_not_wellFormed wellFormed illFormed after 0

/-- A map with a key that is text.  Under it, one string ends inside a euro sign, between bytes
that are no string and a string that begins with a tail. -/
def brokenEuro : Value :=
  .map ⟨[(⟨#[0xC3, 0xA9]⟩,
    .array [.bytes ⟨#[0xFF]⟩, .string ⟨#[0x62, 0xE2, 0x82]⟩, .string ⟨#[0x80]⟩])]⟩

example : brokenEuro.checkStrings = .error (.illFormedText 1) := by
  rfl

/-- The text of the key is counted, and the string that is cut off is reported. -/
theorem checkStrings_brokenEuro :
    (string ⟨#[0xC3, 0xA9]⟩).checkStrings = .ok 1 ∧
    ∃ before text after valid, brokenEuro.strings = before ++ text :: after ∧
      (∀ earlier ∈ before, Text.WellFormed earlier) ∧ ¬Text.WellFormed text ∧
      IsGreatest {length | length ≤ text.size ∧ Text.WellFormed (text.extract 0 length)} valid ∧
      brokenEuro.checkStrings = .error (.illFormedText valid) := by
  have key : Text.WellFormed ⟨#[0xC3, 0xA9]⟩ := Text.validUpTo_eq_size_iff.mp rfl
  have cutOff : ¬Text.WellFormed ⟨#[0x62, 0xE2, 0x82]⟩ := fun whole =>
    absurd (Text.validUpTo_eq_size_iff.mpr whole) (by decide +kernel)
  exact ⟨(checkStrings_reports_first (string ⟨#[0xC3, 0xA9]⟩)).1 (by simpa [strings] using key),
    (checkStrings_reports_first brokenEuro).2 fun all =>
      cutOff (all _ (List.mem_cons_of_mem _ List.mem_cons_self))⟩

end Value

end DataSection
