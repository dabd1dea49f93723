import DataSection.Proofs.Section.Items
import DataSection.Proofs.Section.Limit
import DataSection.Proofs.Section.Relocation

/-!
# Causes of errors

An error says what is wrong and where, and the bytes there bear it out.  `Cause` lists for
each error what the section has to hold, without a reader and whatever was read on the way
to the place: the item at fault may lie below any number of containers and pointers.

There is one statement for each reading function, and the levels carry them to whole
values and whole lookups.  A key is the only cause that speaks of reading again: what was
read as a key with few levels left is read there with all of them.
-/

namespace DataSection

/-- A number of the kind never has the size: it is too long, or for a float not the one
size that there is. -/
def Kind.Refuses : Kind → (size : Nat) → Prop
  | .uint16, size => 2 < size
  | .uint32, size | .int32, size => 4 < size
  | .uint64, size => 8 < size
  | .uint128, size => 16 < size
  | .float, size => size ≠ 4
  | .double, size => size ≠ 8
  | _, _ => False

theorem Kind.name_eq_string_iff {kind : Kind} : kind.name = "string" ↔ kind = .string := by
  cases kind <;> simp [name]

theorem Kind.refuses_of_allowsSize_eq_false {kind : Kind} {size : Nat}
    (refused : kind.allowsSize size = false) : kind.Refuses size := by
  cases kind <;> simp_all [allowsSize, maxPayload?, Refuses]

/-- A cursor fails as reading at its offset does. -/
theorem Cursor.decode_of_next_eq_error {cursor : Cursor} {error : ReadError}
    (failed : cursor.next.1 = some (.error error)) :
    cursor.data.decode cursor.offset = .error error := by
  unfold next at failed
  split at failed
  · cases failed
  · cases decoded : cursor.data.decode cursor.offset with
    | ok found =>
        rw [decoded] at failed
        cases failed
    | error other =>
        rw [decoded] at failed
        cases failed
        rfl

namespace Section

variable {data : Section} {levels offset next start : Nat} {header : Header} {value : Value}
variable {error : ReadError} {path : Path}

/-- A complete pointer, whose `width` bytes stand from `payload` on, leads beyond the range
of offsets. -/
def FarPointer (data : Section) (payload width : Nat) : Prop :=
  ∃ start field low stop, Control data start Kind.pointer.code field payload ∧
    low.length = field / 8 % 4 + 1 ∧ low.length = width ∧
    data.Occupies payload low.toByteArray stop ∧
    Format.offsetRange ≤ pointerNumber field low + data.base + Format.pointerBias low.length

/-- What is wrong in the section where an error points.  Text is never looked into, so no
error that speaks of text has a cause. -/
inductive Cause (data : Section) : ReadError → Prop where
  /-- A control with zero kind bits, and behind it a byte that names no kind. -/
  | unknownKind {code offset stop : Nat} {control extension : UInt8} :
      data.Occupies offset [control, extension].toByteArray stop → control.toNat < 32 →
      code = 7 + extension.toNat → code = 12 ∨ code = 13 ∨ 16 ≤ code →
      Cause data (.unknownKind code offset)
  /-- Bytes that are asked for and lie behind the last one. -/
  | pastEnd {offset needed : Nat} : 1 ≤ needed → data.size < offset + needed →
      Cause data (.outOfBounds offset needed data.size)
  | farPointer {offset needed : Nat} : data.FarPointer offset needed →
      Cause data (.outOfBounds offset needed data.size)
  /-- An item that can be read for itself, and is no string. -/
  | invalidKey {offset : Nat} {value : Value} : data.value offset = .ok value →
      value.kind ≠ .string → Cause data (.invalidKey offset value.kind)
  | tooDeep : Cause data (.tooDeep data.limit)
  /-- A complete header up to the payload, with a size that its kind refuses. -/
  | invalidSize {kind : Kind} {start size payload : Nat} :
      Opens data kind start size payload → kind.Refuses size →
      Cause data (.invalidSize kind size payload)

/-! ## Bytes and headers -/

theorem byteAt_cause (failed : data.byteAt offset = .error error) : data.Cause error := by
  obtain ⟨outside, rfl⟩ := byteAt_eq_error_iff.mp failed
  exact .pastEnd (Nat.le_refl 1) (Nat.lt_succ_of_le outside)

theorem numeral_cause {length : Nat} (positive : 1 ≤ length)
    (failed : data.numeral offset length = .error error) : data.Cause error := by
  obtain ⟨outside, rfl⟩ := numeral_eq_error_iff.mp failed
  exact .pastEnd positive outside

theorem kindCode_cause {control : UInt8}
    (failed : data.kindCode control offset = .error error) : data.Cause error := by
  unfold kindCode at failed
  split at failed
  · rcases Except.bind_eq_error_iff.mp failed with failed | ⟨extension, -, impossible⟩
    · exact byteAt_cause failed
    · cases impossible
  · cases failed

theorem sizeField_cause {field : Nat}
    (failed : data.sizeField field offset = .error error) : data.Cause error := by
  unfold sizeField at failed
  split at failed
  · cases failed
  next long =>
    rcases Except.bind_eq_error_iff.mp failed with failed | ⟨number, -, impossible⟩
    · exact numeral_cause (Nat.sub_pos_of_lt (Nat.not_le.mp long)) failed
    · cases impossible

/-- The three bits of a control hold no code without a kind, so only an extended code can be
unknown. -/
theorem Control.cause {code field stop : Nat} (form : Control data start code field stop)
    (unknown : Kind.ofCode? code = none) : data.Cause (.unknownKind code start) := by
  have range := Kind.ofCode?_eq_none_iff.mp unknown
  cases form with
  | @inline control split positive _ _ =>
      have bound := control.toNat_lt
      omega
  | extended split small named occupied =>
      exact .unknownKind occupied (by omega) named (by omega)

theorem header_cause (failed : data.header offset = .error error) : data.Cause error := by
  unfold Section.header at failed
  rcases Except.bind_eq_error_iff.mp failed with failed | ⟨control, first, failed⟩
  · exact byteAt_cause failed
  rcases Except.bind_eq_error_iff.mp failed with failed | ⟨⟨code, behind⟩, named, failed⟩
  · exact kindCode_cause failed
  cases known : Kind.ofCode? code with
  | none =>
      simp only [known] at failed
      cases failed
      have form : Control data offset code (control.toNat % 32) behind :=
        control_iff.mpr ⟨control, first, rfl, named⟩
      exact form.cause known
  | some kind =>
      simp only [known] at failed
      split at failed
      · cases failed
      · rcases Except.bind_eq_error_iff.mp failed with failed | ⟨size, -, impossible⟩
        · exact sizeField_cause failed
        · cases impossible

/-! ## Payloads -/

theorem pointer_cause (found : data.header start = .ok header) (kind : header.kind = .pointer)
    (failed : data.pointer header = .error error) : data.Cause error := by
  have form := header_eq_ok_iff.mp found
  rw [kind] at form
  rcases Except.bind_eq_error_iff.mp failed with failed | ⟨number, read, failed⟩
  · exact numeral_cause (Nat.succ_pos _) failed
  · obtain ⟨low, length, occupied, rfl⟩ := numeral_eq_ok_iff.mp read
    have number := pointerNumber_eq header.size low
    rw [length] at number
    dsimp only at failed
    rw [← number] at failed
    split at failed
    · cases failed
    next near =>
      cases failed
      refine .farPointer ⟨start, header.size, low, _, form, length, length, occupied, ?_⟩
      rw [length]
      exact Nat.not_lt.mp near

/-- What is missing of a payload is at least a byte, because the payload starts within the
section. -/
theorem content_cause (found : data.header start = .ok header)
    (failed : data.content header = .error error) : data.Cause error := by
  rcases Except.bind_eq_error_iff.mp failed with failed | ⟨bytes, -, impossible⟩
  · obtain ⟨outside, rfl⟩ := slice_eq_error_iff.mp failed
    have inside := (header_advances found).2
    exact .pastEnd (by omega) outside
  · cases impossible

theorem number_cause (found : data.header start = .ok header)
    (isNumber : header.kind.isNumber = true) (failed : data.number header = .error error) :
    data.Cause error := by
  rcases number_eq_error_iff.mp failed with ⟨refused, rfl⟩ | ⟨-, failed⟩
  · have form := header_eq_ok_iff.mp found
    rw [if_neg (by simp [Kind.ownsSizeBits_of_payload (.inr isNumber)])] at form
    exact .invalidSize form (Kind.refuses_of_allowsSize_eq_false refused)
  · exact content_cause found failed

/-! ## Items -/

section Node

variable {read : Nat → Except ReadError (Value × Nat)} {step : Nat → Except ReadError Nat}

/-- A key that is refused can be read for itself, if all that `read` reads can. -/
theorem key_cause
    (again : ∀ start value next, read start = .ok (value, next) → data.value start = .ok value)
    (below : ∀ start error, read start = .error error → data.Cause error)
    (failed : key read offset = .error error) : data.Cause error := by
  rcases key_eq_error_iff.mp failed with failed | ⟨other, behind, found, notString, rfl⟩
  · exact below offset error failed
  · exact .invalidKey (again offset other behind found) notString

theorem decodeNode_cause
    (again : ∀ start value next, read start = .ok (value, next) → data.value start = .ok value)
    (below : ∀ start error, read start = .error error → data.Cause error)
    (failed : data.decodeNode read offset = .error error) : data.Cause error := by
  cases found : data.header offset with
  | error _ =>
      rw [decodeNode_of_header_error found] at failed
      cases failed
      exact header_cause found
  | ok header =>
      rcases header.kind.eq_or_isLeaf with pointer | array | map | leaf
      · rw [decodeNode_pointer found pointer] at failed
        cases reached : data.pointer header with
        | error _ =>
            rw [reached] at failed
            cases failed
            exact pointer_cause found pointer reached
        | ok result =>
            simp only [reached, Except.map_eq_error_iff] at failed
            exact below result.1 error failed
      · obtain ⟨elements, start, -, -, last⟩ :=
          (decodeNode_array_eq_error_iff found array).mp failed
        exact below start error last
      · obtain ⟨entries, start, -, -, last⟩ := (decodeNode_map_eq_error_iff found map).mp failed
        rcases entry_eq_error_iff.mp last with last | ⟨text, middle, -, last⟩
        · exact key_cause again below last
        · exact below middle error last
      · rcases Kind.eq_boolean_or_of_isLeaf leaf with boolean | text | number
        · rw [decodeNode_boolean found boolean] at failed
          cases failed
        · rw [decodeNode_text found text, Except.map_eq_error_iff] at failed
          exact content_cause found failed
        · rw [decodeNode_number found number, Except.map_eq_error_iff] at failed
          exact number_cause found number failed

/-- Steps fail as one of them does. -/
theorem exists_of_advance_eq_error {count : Nat}
    (failed : advance step count offset = .error error) : ∃ start, step start = .error error := by
  induction count generalizing offset with
  | zero => cases failed
  | succ count ih =>
      rw [advance_succ_eq_bind] at failed
      rcases Except.bind_eq_error_iff.mp failed with failed | ⟨next, -, failed⟩
      · exact ⟨offset, failed⟩
      · exact ih failed

/-- Skipping an item fails at its header, behind its header, or at an item in it. -/
theorem skipNode_error_cases (failed : data.skipNode step offset = .error error) :
    data.header offset = .error error ∨
      (∃ header, data.header offset = .ok header ∧
        (header.kind = .pointer ∧ data.pointer header = .error error ∨
          data.content header = .error error)) ∨
      ∃ start, step start = .error error := by
  cases found : data.header offset with
  | error _ =>
      rw [skipNode_of_header_error found] at failed
      cases failed
      exact .inl rfl
  | ok header =>
      rcases header.kind.eq_or_isLeaf with pointer | array | map | leaf
      · rw [skipNode_pointer found pointer, Except.map_eq_error_iff] at failed
        exact .inr (.inl ⟨header, rfl, .inl ⟨pointer, failed⟩⟩)
      · rw [skipNode_array found array] at failed
        exact .inr (.inr (exists_of_advance_eq_error failed))
      · rw [skipNode_map found map] at failed
        exact .inr (.inr (exists_of_advance_eq_error failed))
      · rcases Kind.eq_boolean_or_of_isLeaf leaf with boolean | scalar
        · rw [skipNode_boolean found boolean] at failed
          cases failed
        · rw [skipNode_content found scalar, Except.map_eq_error_iff] at failed
          exact .inr (.inl ⟨header, rfl, .inr failed⟩)

theorem skipNode_cause (below : ∀ start error, step start = .error error → data.Cause error)
    (failed : data.skipNode step offset = .error error) : data.Cause error := by
  rcases skipNode_error_cases failed with
    failed | ⟨header, found, ⟨pointer, failed⟩ | failed⟩ | ⟨start, failed⟩
  · exact header_cause failed
  · exact pointer_cause found pointer failed
  · exact content_cause found failed
  · exact below start error failed

/-- Skipping looks neither at keys nor at the sizes of numbers. -/
theorem skipNode_isStructural
    (below : ∀ start error, step start = .error error → error.isStructural = true)
    (failed : data.skipNode step offset = .error error) : error.isStructural = true := by
  rcases skipNode_error_cases failed with
    failed | ⟨header, -, ⟨-, failed⟩ | failed⟩ | ⟨start, failed⟩
  · exact header_isStructural failed
  · exact pointer_isStructural failed
  · exact content_isStructural failed
  · exact below start error failed

end Node

/-! ## All levels -/

/-- What is read with few levels left can be read for itself, with all of them. -/
theorem value_of_decodeAt (few : levels ≤ data.limit)
    (decoded : data.decodeAt levels offset = .ok (value, next)) :
    data.value offset = .ok value := by
  rw [Section.value, decode_of_decodeAt few decoded, Except.map_ok]

theorem decodeAt_cause (few : levels ≤ data.limit)
    (failed : data.decodeAt levels offset = .error error) : data.Cause error := by
  induction levels generalizing offset error with
  | zero =>
      refine decodeNode_cause ?_ ?_ failed
      · intro start value next impossible
        cases impossible
      · intro start error tooDeep
        cases tooDeep
        exact .tooDeep
  | succ levels ih =>
      have fewer : levels ≤ data.limit := Nat.le_of_succ_le few
      refine decodeNode_cause ?_ ?_ failed
      · intro start value next decoded
        exact value_of_decodeAt fewer decoded
      · intro start error failed
        exact ih fewer failed

theorem skipAt_cause (failed : data.skipAt levels offset = .error error) : data.Cause error := by
  induction levels generalizing offset error with
  | zero =>
      refine skipNode_cause ?_ failed
      intro start error tooDeep
      cases tooDeep
      exact .tooDeep
  | succ levels ih =>
      refine skipNode_cause ?_ failed
      intro start error failed
      exact ih failed

theorem skipAt_isStructural (failed : data.skipAt levels offset = .error error) :
    error.isStructural = true := by
  induction levels generalizing offset error with
  | zero =>
      refine skipNode_isStructural ?_ failed
      intro start error tooDeep
      cases tooDeep
      rfl
  | succ levels ih =>
      refine skipNode_isStructural ?_ failed
      intro start error failed
      exact ih failed

/-! ## Looking up -/

theorem resolve_cause (failed : data.resolve levels offset = .error error) : data.Cause error := by
  induction levels generalizing offset with
  | zero =>
      rw [resolve_eq_bind] at failed
      rcases Except.bind_eq_error_iff.mp failed with failed | ⟨header, -, failed⟩
      · exact header_cause failed
      · split at failed
        · cases failed
          exact .tooDeep
        · cases failed
  | succ levels ih =>
      rw [resolve_eq_bind] at failed
      rcases Except.bind_eq_error_iff.mp failed with failed | ⟨header, found, failed⟩
      · exact header_cause failed
      · split at failed
        next pointer =>
          rw [descend_succ] at failed
          rcases Except.bind_eq_error_iff.mp failed with failed | ⟨reached, -, failed⟩
          · exact pointer_cause found pointer failed
          · exact ih failed
        next => cases failed

/-- Following pointers uses levels up. -/
theorem resolve_le {left : Nat} (resolved : data.resolve levels offset = .ok (header, left)) :
    left ≤ levels := by
  induction levels generalizing offset with
  | zero =>
      rw [resolve_eq_bind] at resolved
      obtain ⟨found, -, resolved⟩ := Except.bind_eq_ok_iff.mp resolved
      split at resolved
      · cases resolved
      · cases resolved
        exact Nat.le_refl 0
  | succ levels ih =>
      rw [resolve_eq_bind] at resolved
      obtain ⟨found, -, resolved⟩ := Except.bind_eq_ok_iff.mp resolved
      split at resolved
      · rw [descend_succ] at resolved
        obtain ⟨reached, -, resolved⟩ := Except.bind_eq_ok_iff.mp resolved
        exact Nat.le_succ_of_le (ih resolved)
      · cases resolved
        exact Nat.le_refl _

theorem findKey_cause (few : levels ≤ data.limit) {wanted : ByteArray} {count : Nat}
    {last : Option Nat} (failed : data.findKey levels wanted count offset last = .error error) :
    data.Cause error := by
  induction count generalizing offset last with
  | zero => cases failed
  | succ count ih =>
      rw [findKey_succ_eq_bind] at failed
      rcases Except.bind_eq_error_iff.mp failed with failed | ⟨held, -, failed⟩
      · refine key_cause ?_ ?_ failed
        · intro start value next decoded
          exact value_of_decodeAt few decoded
        · intro start error failed
          exact decodeAt_cause few failed
      · rcases Except.bind_eq_error_iff.mp failed with failed | ⟨next, -, failed⟩
        · exact skipAt_cause failed
        · exact ih failed

theorem child_cause (few : levels ≤ data.limit) {step : Step}
    (failed : data.child levels header step = .error error) : data.Cause error := by
  cases step with
  | key text =>
      rw [child] at failed
      split at failed
      · exact findKey_cause few failed
      · cases failed
  | index position =>
      rw [child] at failed
      split at failed
      · rw [Except.map_eq_error_iff] at failed
        obtain ⟨start, failed⟩ := exists_of_advance_eq_error failed
        exact skipAt_cause failed
      · cases failed

theorem lookupAt_cause (few : levels ≤ data.limit)
    (failed : data.lookupAt path levels offset = .error error) : data.Cause error := by
  induction path generalizing levels offset with
  | nil =>
      rw [lookupAt, Except.map_eq_error_iff] at failed
      exact decodeAt_cause few failed
  | cons step path ih =>
      rw [lookupAt] at failed
      rcases Except.bind_eq_error_iff.mp failed with failed | ⟨⟨header, left⟩, resolved, failed⟩
      · exact resolve_cause failed
      have enough := Nat.le_trans (resolve_le resolved) few
      cases left with
      | zero =>
          cases failed
          exact .tooDeep
      | succ left =>
          have fewer : left ≤ data.limit := Nat.le_of_succ_le enough
          rcases Except.bind_eq_error_iff.mp failed with failed | ⟨start, -, failed⟩
          · exact child_cause fewer failed
          · cases start with
            | none => cases failed
            | some start => exact ih fewer failed

/-! ## Calls -/

/-- Whatever reading, skipping or looking up fails with, the section bears it out: an unknown
kind stands where the error says, a refused size has a complete header before it, a refused
key can be read and is no string, and a lack of levels reports the limit.  No error speaks of
text, and skipping fails only for the layout. -/
theorem errors_have_causes (data : Section) (offset : Nat) (path : Path) {error : ReadError}
    (failed : data.decode offset = .error error ∨ data.skip offset = .error error ∨
      data.lookup offset path = .error error) :
    data.Cause error ∧ (∀ validUpTo, error ≠ .illFormedText validUpTo) ∧
      (∀ place found, error = .invalidKey place found → found.name ≠ "string") ∧
      (data.skip offset = .error error → error.isStructural = true) := by
  have cause : data.Cause error := by
    rcases failed with failed | failed | failed
    · exact decodeAt_cause (Nat.le_refl _) failed
    · exact skipAt_cause failed
    · exact lookupAt_cause (Nat.le_refl _) failed
  refine ⟨cause, ?_, ?_, skipAt_isStructural⟩
  · rintro validUpTo rfl
    cases cause
  · rintro place found rfl
    cases cause with
    | invalidKey read notString => exact mt Kind.name_eq_string_iff.mp notString

/-- A pointer to a map whose key is a pointer to a number, with levels for no more. -/
def numberAsKey : Section :=
  { bytes := ⟨#[0x20, 0x02, 0xE1, 0x20, 0x05, 0xA1, 0x07]⟩, limit := 3 }

/-- The key is refused three levels down, and it can be read for itself. -/
theorem errors_have_causes_numberAsKey :
    numberAsKey.decode 0 = .error (.invalidKey 3 .uint16) ∧
      numberAsKey.Cause (.invalidKey 3 .uint16) ∧ numberAsKey.value 3 = .ok (.uint16 7) := by
  have failed : numberAsKey.decode 0 = .error (.invalidKey 3 .uint16) := rfl
  exact ⟨failed, (errors_have_causes numberAsKey 0 [] (.inl failed)).1, rfl⟩

/-! ## Reads past the end -/

theorem FarPointer.inside {payload width : Nat} (far : data.FarPointer payload width) :
    payload + width ≤ data.size := by
  obtain ⟨_, _, low, _, -, -, rfl, occupied, -⟩ := far
  have inside := occupied.le_size
  obtain ⟨-, rfl⟩ := occupies_iff.mp occupied
  rwa [List.size_toByteArray] at inside

/-- How far behind the place from which they count pointers lead, at most. -/
def pointerReach : Nat := Nat.pow 2 33

/-- Pointers that count from a place far enough from the end of the range lead nowhere beyond
it. -/
theorem FarPointer.base_gt {payload width : Nat} (far : data.FarPointer payload width) :
    Format.offsetRange < data.base + pointerReach := by
  have reach : pointerReach = 2 ^ 33 := rfl
  obtain ⟨_, field, low, _, -, length, -, -, beyond⟩ := far
  have small := BigEndian.value_lt low
  rw [length] at small
  have bound := pointer_number_lt small
  rw [pointerNumber_eq, length] at beyond
  unfold pointerBytes at bound
  omega

theorem Cause.outOfBounds {place needed available : Nat}
    (cause : data.Cause (.outOfBounds place needed available)) :
    available = data.size ∧ 1 ≤ needed ∧
      (data.size < place + needed ↔ ¬data.FarPointer place needed) := by
  cases cause with
  | pastEnd positive outside =>
      refine ⟨rfl, positive, ?_⟩
      have notFar : ¬data.FarPointer place needed := by
        intro far
        exact absurd far.inside (Nat.not_le.mpr outside)
      exact iff_of_true outside notFar
  | farPointer far =>
      refine ⟨rfl, ?_, ?_⟩
      · obtain ⟨_, _, _, _, -, length, rfl, -⟩ := far
        rw [length]
        exact Nat.succ_pos _
      · exact iff_of_false (Nat.not_lt.mpr far.inside) (not_not.mpr far)

/-- An error that speaks of a read past the end gives the size of the section and asks for at
least one byte.  The read does run past the end, unless the bytes are those of a pointer that
leads beyond the range of offsets; no pointer does if they count from a place that is at least
their reach below the end of that range. -/
theorem outOfBounds_is_past_end_or_far_pointer (data : Section) (offset : Nat) (path : Path)
    (stopped : Bool) {place needed available : Nat}
    (failed : data.decode offset = .error (.outOfBounds place needed available) ∨
      data.skip offset = .error (.outOfBounds place needed available) ∨
      data.lookup offset path = .error (.outOfBounds place needed available) ∨
      (Cursor.mk data offset stopped).next.1 =
        some (.error (.outOfBounds place needed available))) :
    available = data.size ∧ 1 ≤ needed ∧
      (data.size < place + needed ↔ ¬data.FarPointer place needed) ∧
      (data.base + pointerReach ≤ Format.offsetRange → data.size < place + needed) := by
  have cause : data.Cause (.outOfBounds place needed available) := by
    rcases failed with failed | failed | failed | failed
    · exact decodeAt_cause (Nat.le_refl _) failed
    · exact skipAt_cause failed
    · exact lookupAt_cause (Nat.le_refl _) failed
    · exact decodeAt_cause (Nat.le_refl _) (Cursor.decode_of_next_eq_error failed)
  obtain ⟨size, positive, past⟩ := cause.outOfBounds
  refine ⟨size, positive, past, ?_⟩
  intro near
  rw [past]
  intro far
  exact absurd far.base_gt (Nat.not_lt.mpr near)

/-- An array of a number and of a string that is cut off. -/
def cutString : Section :=
  { bytes := ⟨#[0x02, 0x04, 0xA1, 0x07, 0x43, 0x61]⟩, limit := 1 }

theorem outOfBounds_cutString :
    cutString.decode 0 = .error (.outOfBounds 5 3 6) ∧ cutString.size < 5 + 3 := by
  have failed : cutString.decode 0 = .error (.outOfBounds 5 3 6) := rfl
  have near : cutString.base + pointerReach ≤ Format.offsetRange := by decide
  have told := outOfBounds_is_past_end_or_far_pointer cutString 0 [] false (.inl failed)
  exact ⟨failed, told.2.2.2 near⟩

/-- A pointer that leads beyond the range of offsets is reported as a read past the end of
bytes that are all there. -/
theorem far_pointer_reads_nothing_past_end :
    let data : Section := { bytes := ⟨#[0x20, 0x01]⟩, base := Format.offsetRange - 1 }
    data.decode 0 = .error (.outOfBounds 1 1 2) ∧ data.skip 0 = .error (.outOfBounds 1 1 2) ∧
      ¬2 < 1 + 1 :=
  ⟨rfl, rfl, by decide⟩

end Section

end DataSection
