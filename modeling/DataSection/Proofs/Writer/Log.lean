import DataSection.Proofs.Encoding.Size
import DataSection.Proofs.Section.Row
import DataSection.Writer
import Mathlib.Data.List.Induction

/-!
# The log of a writer

A log has the calls that were made on a new writer, each with its result.  It says which
of them appended a record: every pointer did, and every value whose encoding no earlier
call had stored.

The main statement is that the log describes the writer.  The bytes are those of the
records, one behind the other, each at the offset that its call returned, and the table of
encodings has the offsets that were returned for them.
-/

namespace DataSection

namespace Writer

open Encoding

variable {writer after : Writer} {call : Call} {result : Except WriteError Nat}

/-! ## One call -/

/-- All that a call can do. -/
inductive Effect (writer : Writer) : Call → Except WriteError Nat → Writer → Prop where
  /-- The value cannot be written. -/
  | refused {value : Value} {error : WriteError} :
      value.encode = .error error → Effect writer (.value value) (.error error) writer
  /-- The encoding was stored before. -/
  | found {value : Value} {encoding : ByteArray} {offset : Nat} :
      value.encode = .ok encoding → writer.stored.get? encoding = some offset →
      Effect writer (.value value) (.ok offset) writer
  /-- The encoding is new. -/
  | stored {value : Value} {encoding : ByteArray} :
      value.encode = .ok encoding → writer.stored.get? encoding = none →
      writer.size < 2 ^ 32 →
      Effect writer (.value value) (.ok writer.size)
        ⟨writer.bytes ++ encoding, writer.stored.insert encoding writer.size⟩
  | pointer {target : UInt32} :
      writer.size < 2 ^ 32 →
      Effect writer (.pointer target) (.ok writer.size)
        ⟨writer.bytes ++ (Encoding.pointer target).toByteArray, writer.stored⟩
  /-- No 32-bit offset is left. -/
  | full {call : Call} :
      2 ^ 32 ≤ writer.size →
      Effect writer call (.error (.sectionTooLarge writer.size)) writer

theorem effect_call (writer : Writer) (call : Call) :
    Effect writer call (writer.call call).1 (writer.call call).2 := by
  cases call with
  | pointer target =>
      by_cases room : writer.size < 2 ^ 32
      · simp only [Writer.call, addPointer, nextOffset, if_pos room]
        exact .pointer room
      · simp only [Writer.call, addPointer, nextOffset, if_neg room]
        exact .full (Nat.not_lt.mp room)
  | value value =>
      cases encoded : value.encode with
      | error error =>
          simp only [Writer.call, add, encoded]
          exact .refused encoded
      | ok encoding =>
          cases held : writer.stored.get? encoding with
          | some offset =>
              simp only [Writer.call, add, encoded, held]
              exact .found encoded held
          | none =>
              by_cases room : writer.size < 2 ^ 32
              · simp only [Writer.call, add, encoded, held, nextOffset, if_pos room]
                exact .stored encoded held room
              · simp only [Writer.call, add, encoded, held, nextOffset, if_neg room]
                exact .full (Nat.not_lt.mp room)

/-- A call changes no byte that is there. -/
theorem Effect.exists_bytes (effect : Effect writer call result after) :
    ∃ more, after.bytes = writer.bytes ++ more := by
  cases effect with
  | stored => exact ⟨_, rfl⟩
  | pointer => exact ⟨_, rfl⟩
  | _ => exact ⟨.empty, ByteArray.append_empty.symm⟩

/-! ## Runs -/

theorem run_append (writer : Writer) (first rest : List Call) :
    writer.run (first ++ rest) =
      ((writer.run first).1 ++ ((writer.run first).2.run rest).1,
        ((writer.run first).2.run rest).2) := by
  induction first generalizing writer with
  | nil => rfl
  | cons call first ih => simp only [List.cons_append, run, ih]

theorem length_run (writer : Writer) (calls : List Call) :
    (writer.run calls).1.length = calls.length := by
  induction calls generalizing writer with
  | nil => rfl
  | cons call rest ih => simp only [run, List.length_cons, ih]

/-- No call changes a byte that is there. -/
theorem exists_bytes_run (writer : Writer) (calls : List Call) :
    ∃ more, (writer.run calls).2.bytes = writer.bytes ++ more := by
  induction calls generalizing writer with
  | nil => exact ⟨.empty, ByteArray.append_empty.symm⟩
  | cons call rest ih =>
      obtain ⟨first, firstBytes⟩ := (effect_call writer call).exists_bytes
      obtain ⟨more, moreBytes⟩ := ih (writer.call call).2
      exact ⟨first ++ more, by simp only [run, moreBytes, firstBytes, ByteArray.append_assoc]⟩

/-- A call and its result. -/
abbrev Event := Call × Except WriteError Nat

/-- The calls on a new writer with their results. -/
def log (calls : List Call) : List Event :=
  calls.zip (run {} calls).1

/-- The writer behind calls on a new one. -/
def written (calls : List Call) : Writer :=
  (run {} calls).2

theorem log_concat (calls : List Call) (call : Call) :
    log (calls ++ [call]) = log calls ++ [(call, ((written calls).call call).1)] := by
  rw [log, run_append, List.zip_append (length_run {} calls).symm]
  rfl

theorem written_concat (calls : List Call) (call : Call) :
    written (calls ++ [call]) = ((written calls).call call).2 := by
  rw [written, run_append]
  rfl

theorem exists_bytes_written (first rest : List Call) :
    ∃ more, (written (first ++ rest)).bytes = (written first).bytes ++ more := by
  rw [written, run_append]
  exact exists_bytes_run (written first) rest

theorem map_fst_log (calls : List Call) : (log calls).map Prod.fst = calls :=
  List.map_fst_zip (Nat.le_of_eq (length_run {} calls).symm)

theorem mem_of_mem_log {calls : List Call} (member : (call, result) ∈ log calls) :
    call ∈ calls :=
  (List.of_mem_zip member).1

/-! ## Records -/

/-- What a call would append, if nothing had been stored. -/
def Call.encode : Call → Except WriteError ByteArray
  | .value asked => asked.encode
  | .pointer target => .ok (Encoding.pointer target).toByteArray

/-- The encoding that a call stores. -/
def Call.stored? : Call → Option ByteArray
  | .value asked => asked.encode.toOption
  | .pointer _ => none

/-- What a call appends behind earlier calls.  A pointer is always appended, an encoding
if none of them stored it. -/
def Call.record? (earlier : List Call) : Call → Option ByteArray
  | .pointer target => some (Encoding.pointer target).toByteArray
  | .value asked =>
      match asked.encode with
      | .error _ => none
      | .ok encoding =>
          if ∃ call ∈ earlier, call.stored? = some encoding then none else some encoding

/-- A call that appended, with its result and the bytes. -/
structure Record where
  call : Call
  result : Except WriteError Nat
  bytes : ByteArray

/-- The records of a log, behind earlier calls. -/
def records (earlier : List Call) : List Event → List Record
  | [] => []
  | (call, result) :: rest =>
      match call.record? earlier with
      | none => records (earlier ++ [call]) rest
      | some bytes => ⟨call, result, bytes⟩ :: records (earlier ++ [call]) rest

/-- The bytes of records one behind the other. -/
def contents : List Record → ByteArray
  | [] => .empty
  | record :: rest => record.bytes ++ contents rest

/-- A record from an offset on, to which its call was told that it would be appended. -/
def Record.Placed (start : Nat) (record : Record) (stop : Nat) : Prop :=
  record.result = .ok start ∧ stop = start + record.bytes.size

theorem Call.stored?_eq_some_iff {encoding : ByteArray} :
    call.stored? = some encoding ↔
      ∃ value, call = .value value ∧ value.encode = .ok encoding := by
  cases call with
  | pointer target => simp [stored?]
  | value value => cases encoded : value.encode <;> simp [stored?, encoded, Except.toOption]

theorem Call.record?_of_error {earlier : List Call} {value : Value} {error : WriteError}
    (failed : value.encode = .error error) : record? earlier (.value value) = none := by
  simp only [record?, failed]

theorem Call.record?_of_repeated {earlier : List Call} {value other : Value}
    {encoding : ByteArray} (encoded : value.encode = .ok encoding)
    (member : .value other ∈ earlier) (same : other.encode = .ok encoding) :
    record? earlier (.value value) = none := by
  simp only [record?, encoded]
  exact if_pos ⟨_, member, stored?_eq_some_iff.mpr ⟨other, rfl, same⟩⟩

theorem Call.record?_of_new {earlier : List Call} {value : Value} {encoding : ByteArray}
    (encoded : value.encode = .ok encoding)
    (new : ∀ other, .value other ∈ earlier → other.encode ≠ .ok encoding) :
    record? earlier (.value value) = some encoding := by
  simp only [record?, encoded]
  refine if_neg ?_
  rintro ⟨call, member, stored⟩
  obtain ⟨other, rfl, same⟩ := stored?_eq_some_iff.mp stored
  exact new other member same

theorem Call.encode_of_record? {earlier : List Call} {bytes : ByteArray}
    (appends : call.record? earlier = some bytes) : call.encode = .ok bytes := by
  cases call with
  | pointer target =>
      cases appends
      rfl
  | value value =>
      cases encoded : value.encode with
      | error error => simp [record?_of_error encoded] at appends
      | ok encoding =>
          simp only [record?, encoded, Option.ite_none_left_eq_some, Option.some.injEq] at appends
          exact encoded.trans (congrArg Except.ok appends.2)

theorem records_append (earlier : List Call) (first rest : List Event) :
    records earlier (first ++ rest) =
      records earlier first ++ records (earlier ++ first.map Prod.fst) rest := by
  induction first generalizing earlier with
  | nil => simp [records]
  | cons event first ih =>
      obtain ⟨call, result⟩ := event
      cases appends : call.record? earlier <;>
        simp [records, appends, ih, List.append_assoc]

theorem records_concat_of_none {events : List Event}
    (silent : call.record? (events.map Prod.fst) = none) :
    records [] (events ++ [(call, result)]) = records [] events := by
  simp [records_append, records, silent]

theorem records_concat_of_some {events : List Event} {bytes : ByteArray}
    (appends : call.record? (events.map Prod.fst) = some bytes) :
    records [] (events ++ [(call, result)]) = records [] events ++ [⟨call, result, bytes⟩] := by
  simp [records_append, records, appends]

theorem mem_of_mem_records {record : Record} {earlier : List Call} {events : List Event}
    (member : record ∈ records earlier events) :
    (record.call, record.result) ∈ events ∧ record.call.encode = .ok record.bytes := by
  induction events generalizing earlier with
  | nil => cases member
  | cons event rest ih =>
      obtain ⟨call, result⟩ := event
      cases appends : call.record? earlier with
      | none =>
          simp only [records, appends] at member
          exact (ih member).imp_left (List.mem_cons_of_mem _)
      | some bytes =>
          simp only [records, appends] at member
          rcases List.mem_cons.mp member with rfl | later
          · exact ⟨List.mem_cons_self, Call.encode_of_record? appends⟩
          · exact (ih later).imp_left (List.mem_cons_of_mem _)

theorem contents_concat (records : List Record) (record : Record) :
    contents (records ++ [record]) = contents records ++ record.bytes := by
  induction records with
  | nil => simp [contents]
  | cons first rest ih => simp only [List.cons_append, contents, ih, ByteArray.append_assoc]

/-! ## What the log says of the writer -/

/-- A value with the encoding was given the offset. -/
def Stores (events : List Event) (encoding : ByteArray) (offset : Nat) : Prop :=
  ∃ value, (.value value, .ok offset) ∈ events ∧ value.encode = .ok encoding

/-- The writer is one behind the calls of the log. -/
structure Describes (events : List Event) (writer : Writer) : Prop where
  bytes_eq : writer.bytes = contents (records [] events)
  placed : Section.Row Record.Placed 0 (records [] events) writer.size
  answered : ∀ call result, (call, result) ∈ events → error? result = error? call.encode
  stored_iff : ∀ encoding offset,
    writer.stored.get? encoding = some offset ↔ Stores events encoding offset
  recorded : ∀ call offset, (call, .ok offset) ∈ events →
    ∃ record ∈ records [] events, record.result = .ok offset ∧ call.encode = .ok record.bytes

theorem mem_concat_iff {events : List Event} {event last : Event} :
    event ∈ events ++ [last] ↔ event ∈ events ∨ event = last := by
  simp

theorem stores_concat_iff {events : List Event} {last : Event} {encoding : ByteArray}
    {offset : Nat} :
    Stores (events ++ [last]) encoding offset ↔
      Stores events encoding offset ∨
        ∃ value, last = (.value value, .ok offset) ∧ value.encode = .ok encoding := by
  simp only [Stores, mem_concat_iff, or_and_right, exists_or, eq_comm]

theorem describes_nil : Describes [] {} where
  bytes_eq := rfl
  placed := .nil 0
  answered := by simp
  stored_iff := by
    intro encoding offset
    have absent : ({} : Writer).stored.get? encoding = none := rfl
    simp [absent, Stores]
  recorded := by simp

namespace Describes

variable {events : List Event} (describes : Describes events writer)
include describes

/-- If a value can be written and a call asked for that, its encoding is stored. -/
theorem exists_stored {value : Value} {encoding : ByteArray}
    (member : .value value ∈ events.map Prod.fst) (encoded : value.encode = .ok encoding) :
    ∃ offset, writer.stored.get? encoding = some offset := by
  obtain ⟨⟨call, result⟩, eventMember, rfl⟩ := List.mem_map.mp member
  have answered := describes.answered _ result eventMember
  rw [Call.encode, encoded] at answered
  obtain ⟨offset, rfl⟩ := error?_eq_none_iff.mp answered
  exact ⟨offset, (describes.stored_iff encoding offset).mpr ⟨value, eventMember, encoded⟩⟩

/-- A call that appends nothing either fails as its value does or returns the offset of
its encoding. -/
theorem concat_silent (silent : call.record? (events.map Prod.fst) = none)
    (answered : error? result = error? call.encode)
    (held : ∀ offset, result = .ok offset →
      ∃ encoding, call.encode = .ok encoding ∧ writer.stored.get? encoding = some offset) :
    Describes (events ++ [(call, result)]) writer where
  bytes_eq := by rw [records_concat_of_none silent, describes.bytes_eq]
  placed := by
    rw [records_concat_of_none silent]
    exact describes.placed
  answered := by
    intro other outcome member
    rcases mem_concat_iff.mp member with earlier | last
    · exact describes.answered other outcome earlier
    · cases last
      exact answered
  stored_iff := by
    intro encoding offset
    rw [stores_concat_iff, describes.stored_iff]
    refine (or_iff_left_of_imp ?_).symm
    rintro ⟨value, last, encoded⟩
    cases last
    obtain ⟨again, sameEncoded, found⟩ := held offset rfl
    cases encoded.symm.trans sameEncoded
    exact (describes.stored_iff encoding offset).mp found
  recorded := by
    rw [records_concat_of_none silent]
    intro other offset member
    rcases mem_concat_iff.mp member with earlier | last
    · exact describes.recorded other offset earlier
    · cases last
      obtain ⟨encoding, encoded, found⟩ := held offset rfl
      obtain ⟨value, earlier, sameEncoded⟩ := (describes.stored_iff encoding offset).mp found
      obtain ⟨record, recordMember, offsets, bytes⟩ := describes.recorded _ offset earlier
      cases sameEncoded.symm.trans bytes
      exact ⟨record, recordMember, offsets, encoded⟩

/-- A call that appends bytes returns the offset from which they stand. -/
theorem concat_record {bytes : ByteArray} {stored : Dictionary Nat}
    (appends : call.record? (events.map Prod.fst) = some bytes)
    (stored_iff : ∀ encoding offset, stored.get? encoding = some offset ↔
      Stores (events ++ [(call, .ok writer.size)]) encoding offset) :
    Describes (events ++ [(call, .ok writer.size)]) ⟨writer.bytes ++ bytes, stored⟩ where
  bytes_eq := by rw [records_concat_of_some appends, contents_concat, describes.bytes_eq]
  placed := by
    rw [records_concat_of_some appends]
    exact describes.placed.concat ⟨rfl, ByteArray.size_append⟩
  answered := by
    intro other outcome member
    rcases mem_concat_iff.mp member with earlier | last
    · exact describes.answered other outcome earlier
    · cases last
      rw [Call.encode_of_record? appends]
      rfl
  stored_iff := stored_iff
  recorded := by
    rw [records_concat_of_some appends]
    intro other offset member
    rcases mem_concat_iff.mp member with earlier | last
    · obtain ⟨record, recordMember, found⟩ := describes.recorded other offset earlier
      exact ⟨record, List.mem_append_left _ recordMember, found⟩
    · cases last
      exact ⟨_, List.mem_append_right _ List.mem_cons_self, rfl, Call.encode_of_record? appends⟩

/-- The table has the offset of a new encoding, and those that it had. -/
theorem get?_insert_iff {value : Value} {encoding : ByteArray}
    (encoded : value.encode = .ok encoding) (absent : writer.stored.get? encoding = none)
    (asked : ByteArray) (offset : Nat) :
    (writer.stored.insert encoding writer.size).get? asked = some offset ↔
      Stores (events ++ [(.value value, .ok writer.size)]) asked offset := by
  rw [Dictionary.get?_insert, stores_concat_iff, ← describes.stored_iff]
  by_cases same : encoding = asked
  · subst same
    rw [if_pos rfl, absent]
    constructor
    · intro equal
      cases equal
      exact .inr ⟨value, rfl, encoded⟩
    · rintro (impossible | ⟨_, last, _⟩)
      · cases impossible
      · cases last
        rfl
  · rw [if_neg same]
    refine (or_iff_left_of_imp ?_).symm
    rintro ⟨_, last, askedEncoded⟩
    cases last
    cases same (Except.ok.inj (encoded.symm.trans askedEncoded))

/-- The log with one more call describes the writer behind it. -/
theorem step (room : writer.size < 2 ^ 32) (effect : Effect writer call result after) :
    Describes (events ++ [(call, result)]) after := by
  cases effect with
  | refused failed =>
      apply describes.concat_silent (Call.record?_of_error failed)
      · rw [Call.encode, failed]
        rfl
      · intro offset impossible
        cases impossible
  | @found value encoding offset encoded held =>
      obtain ⟨other, member, same⟩ := (describes.stored_iff encoding offset).mp held
      have earlier := List.mem_map_of_mem (f := Prod.fst) member
      apply describes.concat_silent (Call.record?_of_repeated encoded earlier same)
      · rw [Call.encode, encoded]
        rfl
      · intro found equal
        cases equal
        exact ⟨encoding, encoded, held⟩
  | @stored value encoding encoded absent _ =>
      -- What earlier calls could write is in the table, failed calls have written nothing.
      have new : ∀ other, .value other ∈ events.map Prod.fst → other.encode ≠ .ok encoding := by
        intro other member same
        obtain ⟨offset, held⟩ := describes.exists_stored member same
        cases absent.symm.trans held
      apply describes.concat_record (Call.record?_of_new encoded new)
      exact describes.get?_insert_iff encoded absent
  | @pointer target _ =>
      have appends : Call.record? (events.map Prod.fst) (.pointer target) =
          some (Encoding.pointer target).toByteArray := rfl
      apply describes.concat_record appends
      intro asked offset
      rw [stores_concat_iff, describes.stored_iff]
      refine (or_iff_left_of_imp ?_).symm
      rintro ⟨value, last, _⟩
      cases last
  | full beyond => exact absurd room (Nat.not_lt.mpr beyond)

end Describes

/-- As long as 32-bit offsets suffice, the log describes the writer. -/
theorem describes_log (calls : List Call) (room : (written calls).size < 2 ^ 32) :
    Describes (log calls) (written calls) := by
  induction calls using List.reverseRecOn with
  | nil => exact describes_nil
  | append_singleton calls call ih =>
      -- No call shortens the bytes, so the bound held before the last one, too.
      have earlier : (written calls).size < 2 ^ 32 := by
        obtain ⟨more, bytes⟩ := exists_bytes_written calls [call]
        rw [size, bytes, ByteArray.size_append] at room
        exact Nat.lt_of_le_of_lt (Nat.le_add_right _ _) room
      rw [log_concat, written_concat]
      exact (ih earlier).step earlier (effect_call _ _)

end Writer

end DataSection
