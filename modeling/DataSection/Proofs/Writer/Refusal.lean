import DataSection.Proofs.Writer.Log

/-!
# Refused values

A value is refused if one of its texts, keys or containers is larger than any header can
tell, and the error names the first of them in the order of writing.  What was written of
the value until then stays out of the writer, so that a run goes on as if the call had not
been made: without all refused calls it gives the same answers to the others, and the same
section.
-/

namespace DataSection

namespace Encoding

theorem error?_eq_some_iff {α : Type} {outcome : Except WriteError α} {error : WriteError} :
    error? outcome = some error ↔ outcome = .error error := by
  cases outcome <;> simp [error?]

theorem refusal_eq_some_iff {sizes : List Nat} {error : WriteError} :
    refusal sizes = some error ↔
      ∃ size, sizes.find? (Format.maxSize < ·) = some size ∧ error = .sizeTooLarge size := by
  simp only [refusal, Option.map_eq_some_iff, @eq_comm _ error]

end Encoding

namespace Value

open Encoding

variable {value : Value} {error : WriteError}

/-- The first size, in the order of writing, that no header can name. -/
def oversize? (value : Value) : Option Nat :=
  value.lengths.find? (Format.maxSize < ·)

theorem oversize?_eq_some_iff {size : Nat} :
    value.oversize? = some size ↔
      ∃ before after, value.lengths = before ++ size :: after ∧
        (∀ earlier ∈ before, earlier ≤ Format.maxSize) ∧ Format.maxSize < size := by
  rw [oversize?, List.find?_eq_some_iff_append]
  simp only [decide_eq_true_eq, Bool.not_eq_true', decide_eq_false_iff_not, Nat.not_lt]
  constructor
  · intro first
    obtain ⟨large, before, after, equal, small⟩ := first
    exact ⟨before, after, equal, small, large⟩
  · intro first
    obtain ⟨before, after, equal, small, large⟩ := first
    exact ⟨large, before, after, equal, small⟩

/-- A value is refused with its first size that is too large. -/
theorem encode_eq_error_iff :
    value.encode = .error error ↔
      ∃ size, value.oversize? = some size ∧ error = .sizeTooLarge size := by
  rw [← error?_eq_some_iff, error?_encode, refusal_eq_some_iff]
  rfl

/-- A value is refused exactly if one of its sizes is too large. -/
theorem exists_encode_eq_error_iff :
    (∃ error, value.encode = .error error) ↔ ∃ size ∈ value.lengths, Format.maxSize < size := by
  have refused : (∃ error, value.encode = .error error) ↔
      ¬∃ encoding, value.encode = .ok encoding := by
    cases value.encode <;> simp
  rw [refused, exists_encode_iff]
  simp only [not_forall, Nat.not_le, exists_prop]

end Value

namespace Writer

variable {value : Value} {error : WriteError} {size : Nat}

/-! ## One call -/

/-- A refused value leaves every writer as it was. -/
theorem call_of_encode_eq_error (refused : value.encode = .error error) (writer : Writer) :
    writer.call (.value value) = (.error error, writer) := by
  simp only [call, add, refused]

/-- The calls behind a refused one answer as if it had not been made. -/
theorem run_of_encode_eq_error (refused : value.encode = .error error) (writer : Writer)
    (later : List Call) :
    writer.run (.value value :: later) =
      (.error error :: (writer.run later).1, (writer.run later).2) := by
  simp only [run, call_of_encode_eq_error refused]

/-! ## Runs -/

/-- Whether a call is to store a value that is refused. -/
def Call.isRefused : Call → Bool
  | .value value => value.oversize?.isSome
  | .pointer _ => false

/-- The calls but those that are refused. -/
def accepted (calls : List Call) : List Call :=
  calls.filter (!·.isRefused)

theorem Call.isRefused_iff {call : Call} :
    call.isRefused = true ↔
      ∃ value size, call = .value value ∧ value.oversize? = some size := by
  cases call with
  | value value => simp [isRefused, Option.isSome_iff_exists]
  | pointer target => simp [isRefused]

theorem call_of_isRefused {call : Call} (refused : call.isRefused = true) (writer : Writer) :
    (writer.call call).2 = writer := by
  obtain ⟨value, size, rfl, large⟩ := Call.isRefused_iff.mp refused
  rw [call_of_encode_eq_error (Value.encode_eq_error_iff.mpr ⟨size, large, rfl⟩)]

/-- Without the refused calls, a run writes the same section, and the others have the
results that they have with them. -/
theorem written_accepted (calls : List Call) :
    written (accepted calls) = written calls ∧
      log (accepted calls) = (log calls).filter (!·.1.isRefused) := by
  induction calls using List.reverseRecOn with
  | nil => exact ⟨rfl, rfl⟩
  | append_singleton calls call ih =>
      obtain ⟨sameWriter, sameLog⟩ := ih
      rw [accepted, List.filter_append, ← accepted, written_concat, log_concat,
        List.filter_append, ← sameLog]
      cases refused : call.isRefused with
      | true =>
          simp only [List.filter_cons, refused, Bool.not_true, Bool.false_eq_true, if_false,
            List.filter_nil, List.append_nil, and_true]
          rw [call_of_isRefused refused, sameWriter]
      | false =>
          simp only [List.filter_cons, refused, Bool.not_false, if_true, List.filter_nil,
            written_concat, log_concat, sameWriter, and_self]

/-- Writing fails exactly on values with a size that no header can name, and with the first
one in the order of writing.  It fails so on every writer, which it leaves as it was, and
the other calls of a run neither answer nor write otherwise than without the refused ones. -/
theorem refused_values_leave_no_trace :
    (∀ value : Value,
      ((∃ error, value.encode = .error error) ↔ ∃ size ∈ value.lengths, 16843036 < size) ∧
      ∀ error, value.encode = .error error ↔ ∃ before size after,
        value.lengths = before ++ size :: after ∧ (∀ earlier ∈ before, earlier ≤ 16843036) ∧
          16843036 < size ∧ error = .sizeTooLarge size) ∧
    (∀ (value : Value) (error : WriteError), value.encode = .error error →
      ∀ writer : Writer, writer.call (.value value) = (.error error, writer) ∧
        ∀ later, writer.run (.value value :: later) =
          (.error error :: (writer.run later).1, (writer.run later).2)) ∧
    ∀ calls, written (calls.filter (!·.isRefused)) = written calls ∧
      log (calls.filter (!·.isRefused)) = (log calls).filter (!·.1.isRefused) := by
  refine ⟨?_, ?_, written_accepted⟩
  · intro value
    refine ⟨Value.exists_encode_eq_error_iff, ?_⟩
    intro error
    rw [Value.encode_eq_error_iff]
    simp only [Value.oversize?_eq_some_iff, Format.maxSize_eq]
    constructor
    · intro refused
      obtain ⟨size, ⟨before, after, equal, small, large⟩, same⟩ := refused
      exact ⟨before, size, after, equal, small, large, same⟩
    · intro refused
      obtain ⟨before, size, after, equal, small, large, same⟩ := refused
      exact ⟨size, ⟨before, after, equal, small, large⟩, same⟩
  · intro value error refused writer
    exact ⟨call_of_encode_eq_error refused writer, run_of_encode_eq_error refused writer⟩

/-- So many zero bytes. -/
def zeroBytes (count : Nat) : Value :=
  .bytes ⟨Array.replicate count 0⟩

/-- An array of a short text and of two byte arrays that are too long. -/
def twoOversized : Value :=
  .array [.string ⟨#[0x61]⟩, zeroBytes 16843037, zeroBytes 16843038]

theorem twoOversized_leaves_no_trace :
    twoOversized.encode = .error (.sizeTooLarge 16843037) ∧
      (written [.value (.boolean true)]).call (.value twoOversized) =
        (.error (.sizeTooLarge 16843037), written [.value (.boolean true)]) ∧
      (run {} [.value twoOversized, .value (.boolean true), .value (.boolean true)]).1 =
        [.error (.sizeTooLarge 16843037), .ok 0, .ok 0] := by
  have lengths : twoOversized.lengths = [3, 1] ++ 16843037 :: [16843038] := by
    have size : ∀ count, ByteArray.size ⟨Array.replicate count 0⟩ = count := by
      intro count
      exact Array.size_replicate
    simp only [twoOversized, zeroBytes, Value.lengths, Value.lengthsOfElements, size]
    rfl
  obtain ⟨refusals, alone, -⟩ := refused_values_leave_no_trace
  have refused : twoOversized.encode = .error (.sizeTooLarge 16843037) := by
    refine ((refusals twoOversized).2 _).mpr ⟨[3, 1], 16843037, [16843038], lengths, ?_, ?_, rfl⟩
    · decide
    · decide
  have untouched := alone twoOversized _ refused
  refine ⟨refused, (untouched _).1, ?_⟩
  rw [(untouched {}).2]
  rfl

end Writer

end DataSection
