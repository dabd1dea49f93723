import DataSection.Proofs.Encoding.Header
import DataSection.Proofs.Encoding.Parts
import DataSection.Value.Measure

/-!
# What cannot be written

Writing a value fails exactly if a header would have to name a size that is too large, and
with the first such size in the order of writing.  Numbers and booleans have small headers,
so only texts, keys and containers count, which are those that `Value.lengths` lists.
-/

namespace DataSection

namespace Encoding

/-- The error of the first size that no header can name. -/
def refusal (sizes : List Nat) : Option WriteError :=
  (sizes.find? (Format.maxSize < ·)).map .sizeTooLarge

/-- Why an outcome is none. -/
def error? {α : Type} : Except WriteError α → Option WriteError
  | .error error => some error
  | .ok _ => none

@[simp] theorem refusal_nil : refusal [] = none := rfl

theorem refusal_cons_of_le {size : Nat} (small : size ≤ Format.maxSize) (sizes : List Nat) :
    refusal (size :: sizes) = refusal sizes := by
  rw [refusal, List.find?_cons_of_neg (by simpa using small), refusal]

theorem refusal_cons_of_lt {size : Nat} (large : Format.maxSize < size) (sizes : List Nat) :
    refusal (size :: sizes) = some (.sizeTooLarge size) := by
  rw [refusal, List.find?_cons_of_pos (by simpa using large)]
  rfl

theorem refusal_append (first second : List Nat) :
    refusal (first ++ second) = (refusal first).or (refusal second) := by
  simp only [refusal, List.find?_append, Option.map_or]

theorem refusal_cons (size : Nat) (sizes : List Nat) :
    refusal (size :: sizes) = (refusal [size]).or (refusal sizes) :=
  refusal_append [size] sizes

theorem refusal_eq_none_iff {sizes : List Nat} :
    refusal sizes = none ↔ ∀ size ∈ sizes, size ≤ Format.maxSize := by
  simp [refusal]

@[simp] theorem error?_map {α β : Type} (f : α → β) (outcome : Except WriteError α) :
    error? (outcome.map f) = error? outcome := by
  cases outcome <;> rfl

theorem error?_eq_none_iff {α : Type} {outcome : Except WriteError α} :
    error? outcome = none ↔ ∃ result, outcome = .ok result := by
  cases outcome <;> simp [error?]

theorem error?_header (kind : Kind) (size : Nat) : error? (header kind size) = refusal [size] := by
  cases written : header kind size with
  | error error =>
      obtain ⟨large, rfl⟩ := header_eq_error_iff.mp written
      rw [refusal_cons_of_lt large]
      rfl
  | ok bytes =>
      obtain ⟨small, -⟩ := header_eq_ok_iff.mp written
      rw [refusal_cons_of_le small]
      rfl

theorem error?_content (kind : Kind) (payload : ByteArray) :
    error? (content kind payload) = refusal [payload.size] := by
  rw [content, error?_map, error?_header]

/-- A header that names a size, and what stands behind it, fail at the first size that is
too large. -/
theorem error?_headed {kind : Kind} {size : Nat} {sizes : List Nat}
    {body : Except WriteError ByteArray} (rest : error? body = refusal sizes) :
    error? (headed kind size body) = refusal (size :: sizes) := by
  rw [refusal_cons, ← error?_header kind size, ← rest, headed]
  cases header kind size with
  | error error => rfl
  | ok written => exact error?_map _ body

end Encoding

/-- No number has more than sixteen bytes. -/
theorem Kind.le_of_allowsSize {kind : Kind} {size : Nat} (number : kind.isNumber = true)
    (allowed : kind.allowsSize size = true) : size ≤ 16 := by
  have largest : kind.maxPayload?.getD 0 ≤ 16 := by cases kind <;> decide
  exact Nat.le_trans (le_maxPayload_of_allowsSize number allowed) largest

namespace Value

open Encoding

/-- A number can be written. -/
theorem error?_encode_number {value : Value} (number : value.kind.isNumber = true) :
    error? value.encode = none := by
  obtain ⟨digits, hasDigits⟩ := exists_hasDigits number
  have short := Kind.le_of_allowsSize number hasDigits.allowed
  rw [hasDigits.written, error?_content, refusal_cons_of_le]
  · rfl
  · rw [List.size_toByteArray]
    exact Nat.le_trans short (by decide)

theorem error?_encodeElements {elements : List Value}
    (each : ∀ element ∈ elements, error? element.encode = refusal element.lengths) :
    error? (encodeElements elements) = refusal (lengthsOfElements elements) := by
  induction elements with
  | nil => rfl
  | cons element rest ih =>
      have first := each element List.mem_cons_self
      have others := ih fun other member => each other (List.mem_cons_of_mem _ member)
      rw [encodeElements, writeElements, writeOnto_eq, lengthsOfElements, refusal_append, ← first,
        ← others]
      cases element.encode with
      | error error => rfl
      | ok bytes =>
          simp only [Except.map_ok, writeElements_eq]
          exact error?_map _ _

theorem error?_encodeEntries {entries : List (ByteArray × Value)}
    (each : ∀ entry ∈ entries, error? entry.2.encode = refusal entry.2.lengths) :
    error? (encodeEntries entries) = refusal (lengthsOfEntries entries) := by
  induction entries with
  | nil => rfl
  | cons entry rest ih =>
      have first := each entry List.mem_cons_self
      have others := ih fun other member => each other (List.mem_cons_of_mem _ member)
      obtain ⟨key, value⟩ := entry
      rw [encodeEntries, writeEntries, writeContent_eq, lengthsOfEntries, List.cons_append,
        refusal_cons, refusal_append, ← error?_content .string key, ← first, ← others]
      cases content .string key with
      | error error => rfl
      | ok keyBytes =>
          simp only [Except.map_ok, writeOnto_eq]
          cases value.encode with
          | error error => rfl
          | ok bytes =>
              simp only [Except.map_ok, writeEntries_eq]
              exact error?_map _ _

/-- Writing a value fails exactly with its first size, in the order of writing, that no
header can name. -/
theorem error?_encode (value : Value) : error? value.encode = refusal value.lengths := by
  induction value using Value.induction with
  | string text => rw [encode_string, error?_content, lengths]
  | bytes payload => rw [encode_bytes, error?_content, lengths]
  | array elements ih =>
      rw [encode_array, lengths]
      exact error?_headed (error?_encodeElements ih)
  | map entries ih =>
      rw [encode_map, lengths]
      exact error?_headed (error?_encodeEntries ih)
  | boolean flag =>
      rw [encode_boolean, error?_map, error?_header]
      cases flag <;> rfl
  | _ => exact error?_encode_number rfl

/-- A value can be written exactly if none of its sizes is too large. -/
theorem exists_encode_iff {value : Value} :
    (∃ encoding, value.encode = .ok encoding) ↔ ∀ size ∈ value.lengths, size ≤ Format.maxSize := by
  rw [← error?_eq_none_iff, error?_encode, refusal_eq_none_iff]

end Value

end DataSection
