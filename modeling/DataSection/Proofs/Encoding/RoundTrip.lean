import DataSection.Proofs.Encoding.Header
import DataSection.Proofs.Encoding.Parts
import DataSection.Proofs.Section.Extent
import DataSection.Value.Measure

/-!
# Reading what was written

A value *stands* between two offsets of a section if its encoding does.  The items of a
container that stands form a row of values that stand, so both readers go along that row,
and the levels that they need below it are those of its deepest item.

The main statement is that a value comes back, and is skipped, exactly if the limit is
not below its depth, whatever the bytes around it are.
-/

namespace DataSection

namespace Value

/-- One level more than the deepest item needs is enough exactly if every item needs
fewer.  Without items no level is needed. -/
theorem succ_le_iff_forall_lt {α : Type} {items : List α} [Decidable (items = [])]
    {depth : α → Nat} {deepest levels : Nat}
    (deepest_le_iff : ∀ bound, deepest ≤ bound ↔ ∀ item ∈ items, depth item ≤ bound) :
    (if items = [] then 0 else deepest + 1) ≤ levels ↔ ∀ item ∈ items, depth item < levels := by
  cases items with
  | nil => simp
  | cons item rest =>
      rw [if_neg (List.cons_ne_nil item rest)]
      cases levels with
      | zero =>
          refine iff_of_false (Nat.not_succ_le_zero deepest) ?_
          intro shallow
          exact Nat.not_lt_zero _ (shallow item List.mem_cons_self)
      | succ levels => simp only [Nat.add_le_add_iff_right, Nat.lt_succ_iff, deepest_le_iff]

theorem depth_array_le_iff {elements : List Value} {levels : Nat} :
    (array elements).depth ≤ levels ↔ ∀ element ∈ elements, element.depth < levels := by
  rw [depth_array]
  apply succ_le_iff_forall_lt
  intro bound
  exact depthElements_le_iff

theorem depth_map_le_iff {entries : List (ByteArray × Value)} {levels : Nat} :
    (map ⟨entries⟩).depth ≤ levels ↔ ∀ entry ∈ entries, entry.2.depth < levels := by
  rw [depth_map]
  apply succ_le_iff_forall_lt
  intro bound
  exact depthEntries_le_iff

end Value

namespace Section

variable {data : Section} {offset next : Nat} {value : Value}

/-! ## Values that stand in a section -/

/-- The encoding of a value stands between two offsets. -/
def Stands (data : Section) (offset : Nat) (value : Value) (next : Nat) : Prop :=
  ∃ encoding, value.encode = .ok encoding ∧ data.Holds offset encoding ∧
    next = offset + encoding.size

/-- A key, and its value behind it, stand between two offsets. -/
def EntryStands (data : Section) (offset : Nat) (entry : ByteArray × Value) (next : Nat) : Prop :=
  ∃ middle, data.Stands offset (.string entry.1) middle ∧ data.Stands middle entry.2 next

theorem row_of_encodeElements {elements : List Value} {body : ByteArray}
    (written : Value.encodeElements elements = .ok body) (held : data.Holds offset body) :
    Row data.Stands offset elements (offset + body.size) := by
  induction elements generalizing offset body with
  | nil =>
      cases written
      exact .nil offset
  | cons element rest ih =>
      obtain ⟨first, last, elementWritten, restWritten, rfl⟩ :=
        Value.encodeElements_cons_eq_ok_iff.mp written
      obtain ⟨firstHeld, lastHeld⟩ := holds_append.mp held
      rw [ByteArray.size_append, ← Nat.add_assoc]
      exact .cons ⟨first, elementWritten, firstHeld, rfl⟩ (ih restWritten lastHeld)

theorem row_of_encodeEntries {entries : List (ByteArray × Value)} {body : ByteArray}
    (written : Value.encodeEntries entries = .ok body) (held : data.Holds offset body) :
    Row data.EntryStands offset entries (offset + body.size) := by
  induction entries generalizing offset body with
  | nil =>
      cases written
      exact .nil offset
  | cons entry rest ih =>
      obtain ⟨key, value⟩ := entry
      obtain ⟨first, second, last, keyWritten, valueWritten, restWritten, rfl⟩ :=
        Value.encodeEntries_cons_eq_ok_iff.mp written
      obtain ⟨firstHeld, behindHeld⟩ := holds_append.mp held
      obtain ⟨secondHeld, lastHeld⟩ := holds_append.mp behindHeld
      simp only [ByteArray.size_append, ← Nat.add_assoc]
      exact .cons ⟨_, ⟨first, keyWritten, firstHeld, rfl⟩, second, valueWritten, secondHeld, rfl⟩
        (ih restWritten lastHeld)

/-- What was written behind a header stands where the payload starts. -/
theorem exists_payload_of_holds {kind : Kind} {size : Nat} {written : List UInt8}
    {body : ByteArray} (headerWritten : Encoding.header kind size = .ok written)
    (room : kind.ownsSizeBits = false) (held : data.Holds offset (written.toByteArray ++ body)) :
    ∃ payload, data.header offset = .ok ⟨kind, size, payload⟩ ∧ data.Holds payload body ∧
      offset + (written.toByteArray ++ body).size = payload + body.size := by
  obtain ⟨headerHeld, bodyHeld⟩ := holds_append.mp held
  rw [List.size_toByteArray] at bodyHeld
  have small : kind.ownsSizeBits = true → size ≤ Format.maxInlineSize := by
    intro owned
    cases room.symm.trans owned
  refine ⟨_, header_of_holds headerWritten small headerHeld, bodyHeld, ?_⟩
  rw [ByteArray.size_append, List.size_toByteArray, ← Nat.add_assoc]

/-- An array that stands is a header with its elements in a row behind it. -/
theorem Stands.array {elements : List Value} (stands : data.Stands offset (.array elements) next) :
    ∃ payload, data.header offset = .ok ⟨.array, elements.length, payload⟩ ∧
      Row data.Stands payload elements next := by
  obtain ⟨encoding, encoded, held, rfl⟩ := stands
  obtain ⟨written, body, headerWritten, bodyWritten, rfl⟩ :=
    Value.encode_array_eq_ok_iff.mp encoded
  obtain ⟨payload, found, bodyHeld, stop⟩ := exists_payload_of_holds headerWritten rfl held
  rw [stop]
  exact ⟨payload, found, row_of_encodeElements bodyWritten bodyHeld⟩

/-- A map that stands is a header with its entries in a row behind it. -/
theorem Stands.map {entries : List (ByteArray × Value)}
    (stands : data.Stands offset (.map ⟨entries⟩) next) :
    ∃ payload, data.header offset = .ok ⟨.map, entries.length, payload⟩ ∧
      Row data.EntryStands payload entries next := by
  obtain ⟨encoding, encoded, held, rfl⟩ := stands
  obtain ⟨written, body, headerWritten, bodyWritten, rfl⟩ :=
    Value.encode_map_eq_ok_iff.mp encoded
  obtain ⟨payload, found, bodyHeld, stop⟩ := exists_payload_of_holds headerWritten rfl held
  rw [stop]
  exact ⟨payload, found, row_of_encodeEntries bodyWritten bodyHeld⟩

/-! ## Leaves -/

/-- A payload that was written is read as it is. -/
theorem content_of_holds {kind : Kind} {payload encoding : ByteArray}
    (room : kind.ownsSizeBits = false) (written : Encoding.content kind payload = .ok encoding)
    (held : data.Holds offset encoding) :
    ∃ start, data.header offset = .ok ⟨kind, payload.size, start⟩ ∧
      data.content ⟨kind, payload.size, start⟩ = .ok (payload, offset + encoding.size) := by
  obtain ⟨bytes, headerWritten, rfl⟩ := Except.map_eq_ok_iff.mp written
  obtain ⟨start, found, payloadHeld, stop⟩ := exists_payload_of_holds headerWritten room held
  rw [Holds] at payloadHeld
  refine ⟨start, found, ?_⟩
  rw [stop, content, payloadHeld]
  rfl

theorem Stands.decodeNode_boolean {flag : Bool} {read : Nat → Except ReadError (Value × Nat)}
    (stands : data.Stands offset (.boolean flag) next) :
    data.decodeNode read offset = .ok (.boolean flag, next) := by
  obtain ⟨encoding, encoded, held, rfl⟩ := stands
  rw [Value.encode_boolean, Except.map_eq_ok_iff] at encoded
  obtain ⟨bytes, written, rfl⟩ := encoded
  have found := header_of_holds written (fun _ => by cases flag <;> decide) held
  rw [Section.decodeNode_boolean found rfl, List.size_toByteArray]
  cases flag <;> rfl

/-- A scalar that stands is read, whatever reads the items below. -/
theorem Stands.decodeNode_leaf {read : Nat → Except ReadError (Value × Nat)}
    (stands : data.Stands offset value next) (leaf : value.kind.isLeaf = true) :
    data.decodeNode read offset = .ok (value, next) := by
  rcases Kind.eq_boolean_or_of_isLeaf leaf with boolean | text | number
  · cases value with
    | boolean flag => exact stands.decodeNode_boolean
    | _ => cases boolean
  · obtain ⟨encoding, encoded, held, rfl⟩ := stands
    obtain ⟨payload, written, read⟩ := Value.encode_of_isText text
    have room := Kind.ownsSizeBits_of_payload (.inl text)
    obtain ⟨start, found, content⟩ := content_of_holds room (written.symm.trans encoded) held
    rw [decodeNode_text found text, content, Except.map_ok, read]
  · obtain ⟨encoding, encoded, held, rfl⟩ := stands
    obtain ⟨digits, hasDigits⟩ := Value.exists_hasDigits number
    have room := Kind.ownsSizeBits_of_payload (.inr number)
    obtain ⟨start, found, content⟩ :=
      content_of_holds room (hasDigits.written.symm.trans encoded) held
    rw [List.size_toByteArray] at found content
    have numeral := number_eq_ok_iff.mpr ⟨hasDigits.allowed, _, content, rfl⟩
    rw [decodeNode_number found number, numeral, Except.map_ok]
    simp only [List.toList_data_toByteArray, hasDigits.read]

/-! ## Levels -/

/-- What needs so many levels, needs one more from above. -/
theorem descend_eq_of_forall {α : Type} {below : Nat → Nat → Except ReadError α} {depth : Nat}
    {result : α}
    (each : ∀ levels, below levels offset =
      if depth ≤ levels then .ok result else .error (.tooDeep data.limit)) (levels : Nat) :
    data.descend below levels offset =
      if depth < levels then .ok result else .error (.tooDeep data.limit) := by
  cases levels with
  | zero => rfl
  | succ levels => simp only [descend_succ, each, Nat.lt_succ_iff]

theorem Stands.decodeAt_leaf (stands : data.Stands offset value next)
    (leaf : value.kind.isLeaf = true) (levels : Nat) :
    data.decodeAt levels offset = .ok (value, next) := by
  rw [decodeAt_eq_decodeNode]
  exact stands.decodeNode_leaf leaf

/-- An entry is read if there are as many levels as its value needs.  Its key needs one
level, which is there if the value has one. -/
theorem EntryStands.entry_eq {pair : ByteArray × Value} (stands : data.EntryStands offset pair next)
    (each : ∀ start next, data.Stands start pair.2 next → ∀ levels,
      data.decodeAt levels start =
        if pair.2.depth ≤ levels then .ok (pair.2, next) else .error (.tooDeep data.limit))
    (levels : Nat) :
    entry (data.descend data.decodeAt levels) offset =
      if pair.2.depth < levels then .ok (pair, next) else .error (.tooDeep data.limit) := by
  obtain ⟨text, value⟩ := pair
  obtain ⟨middle, keyStands, valueStands⟩ := stands
  have valueRead := descend_eq_of_forall (each middle next valueStands) levels
  -- Without a level already the key fails, with the error that the value would give.
  cases levels with
  | zero => rfl
  | succ levels =>
      have keyRead : data.descend data.decodeAt (levels + 1) offset = .ok (.string text, middle) :=
        keyStands.decodeAt_leaf rfl levels
      by_cases shallow : value.depth < levels + 1
      · rw [if_pos shallow] at valueRead ⊢
        exact entry_eq_ok_iff.mpr ⟨middle, keyRead, valueRead⟩
      · rw [if_neg shallow] at valueRead ⊢
        exact entry_eq_error_iff.mpr (.inr ⟨text, middle, key_eq_ok_iff.mpr keyRead, valueRead⟩)

/-- A value that stands is read exactly if there are as many levels as it is deep. -/
theorem Stands.decodeAt_eq (stands : data.Stands offset value next)
    (wellFormed : value.WellFormed) (levels : Nat) :
    data.decodeAt levels offset =
      if value.depth ≤ levels then .ok (value, next) else .error (.tooDeep data.limit) := by
  induction value using Value.induction generalizing offset next levels with
  | array elements ih =>
      obtain ⟨payload, found, row⟩ := stands.array
      have each : ∀ element ∈ elements, ∀ start next, data.Stands start element next →
          data.descend data.decodeAt levels start =
            if element.depth < levels then .ok (element, next)
            else .error (.tooDeep data.limit) := by
        intro element member start next stands
        have wellFormed := Value.wellFormedElements_iff.mp wellFormed element member
        apply descend_eq_of_forall
        exact ih element member stands wellFormed
      rw [decodeAt_eq_decodeNode, decodeNode_array found rfl, row.collect_eq each]
      simp only [Value.depth_array_le_iff]
      split <;> rfl
  | map entries ih =>
      obtain ⟨payload, found, row⟩ := stands.map
      obtain ⟨distinct, wellFormed⟩ := wellFormed
      have each : ∀ pair ∈ entries, ∀ start next, data.EntryStands start pair next →
          entry (data.descend data.decodeAt levels) start =
            if pair.2.depth < levels then .ok (pair, next)
            else .error (.tooDeep data.limit) := by
        intro pair member start next stands
        have wellFormed := Value.wellFormedEntries_iff.mp wellFormed pair member
        apply stands.entry_eq
        intro start next stands
        exact ih pair member stands wellFormed
      rw [decodeAt_eq_decodeNode, decodeNode_map found rfl, row.collect_eq each]
      simp only [Value.depth_map_le_iff]
      split
      · simp only [Except.map_ok, Dictionary.ofList_of_distinct distinct]
      · rfl
  | _ =>
      rw [stands.decodeAt_leaf rfl]
      rfl

/-! ## Skipping -/

theorem Stands.skipAt_leaf (stands : data.Stands offset value next)
    (leaf : value.kind.isLeaf = true) (levels : Nat) : data.skipAt levels offset = .ok next :=
  skipAt_of_decodeAt (stands.decodeAt_leaf leaf levels)

/-- Skipping an entry is two steps, and needs the levels that its value needs. -/
theorem EntryStands.advance_eq {pair : ByteArray × Value}
    (stands : data.EntryStands offset pair next)
    (each : ∀ start next, data.Stands start pair.2 next → ∀ levels,
      data.skipAt levels start =
        if pair.2.depth ≤ levels then .ok next else .error (.tooDeep data.limit))
    (levels : Nat) :
    advance (data.descend data.skipAt levels) 2 offset =
      if pair.2.depth < levels then .ok next else .error (.tooDeep data.limit) := by
  obtain ⟨text, value⟩ := pair
  obtain ⟨middle, keyStands, valueStands⟩ := stands
  have valueSkipped := descend_eq_of_forall (each middle next valueStands) levels
  cases levels with
  | zero => rfl
  | succ levels =>
      have keySkipped : data.descend data.skipAt (levels + 1) offset = .ok middle :=
        keyStands.skipAt_leaf rfl levels
      simp only [advance, keySkipped, valueSkipped]
      by_cases shallow : value.depth < levels + 1
      · simp only [shallow, if_true]
      · simp only [shallow, if_false]

/-- A value that stands is skipped exactly if there are as many levels as it is deep. -/
theorem Stands.skipAt_eq (stands : data.Stands offset value next) (levels : Nat) :
    data.skipAt levels offset =
      if value.depth ≤ levels then .ok next else .error (.tooDeep data.limit) := by
  induction value using Value.induction generalizing offset next levels with
  | array elements ih =>
      obtain ⟨payload, found, row⟩ := stands.array
      have each : ∀ element ∈ elements, ∀ start next, data.Stands start element next →
          data.descend data.skipAt levels start =
            if element.depth < levels then .ok next else .error (.tooDeep data.limit) := by
        intro element member start next stands
        apply descend_eq_of_forall
        exact ih element member stands
      rw [skipAt_eq_skipNode, skipNode_array found rfl, row.advance_eq each]
      simp only [Value.depth_array_le_iff]
  | map entries ih =>
      obtain ⟨payload, found, row⟩ := stands.map
      have each : ∀ pair ∈ entries, ∀ start next, data.EntryStands start pair next →
          advance (data.descend data.skipAt levels) 2 start =
            if pair.2.depth < levels then .ok next else .error (.tooDeep data.limit) := by
        intro pair member start next stands
        apply stands.advance_eq
        intro start next stands
        exact ih pair member stands
      rw [skipAt_eq_skipNode, skipNode_map found rfl, advance_two_mul, row.advance_eq each]
      simp only [Value.depth_map_le_iff]
  | _ =>
      rw [stands.skipAt_leaf rfl]
      rfl

/-! ## Any surroundings -/

theorem stands_middle {encoding : ByteArray} (encoded : value.encode = .ok encoding)
    (before after : ByteArray) (base limit : Nat) :
    Stands ⟨before ++ encoding ++ after, base, limit⟩ before.size value
      (before.size + encoding.size) :=
  ⟨encoding, encoded, holds_middle before encoding after base limit, rfl⟩

/-- Two encodings that begin the same bytes are encodings of one value. -/
theorem eq_of_encode_append {other : Value} {encoding otherEncoding rest otherRest : ByteArray}
    (wellFormed : value.WellFormed) (encoded : value.encode = .ok encoding)
    (otherWellFormed : other.WellFormed) (otherEncoded : other.encode = .ok otherEncoding)
    (same : encoding ++ rest = otherEncoding ++ otherRest) :
    value = other ∧ rest = otherRest := by
  -- Both are read from the same bytes, with levels enough for either.
  let levels := max value.depth other.depth
  have first := (stands_middle encoded .empty rest 0 levels).decodeAt_eq wellFormed levels
  have second :=
    (stands_middle otherEncoded .empty otherRest 0 levels).decodeAt_eq otherWellFormed levels
  rw [if_pos (Nat.le_max_left _ _), ByteArray.empty_append, same] at first
  rw [if_pos (Nat.le_max_right _ _), ByteArray.empty_append] at second
  have agree := Except.ok.inj (first.symm.trans second)
  obtain ⟨rfl, sizes⟩ := Prod.mk.inj agree
  cases encoded.symm.trans otherEncoded
  exact ⟨rfl, (ByteArray.append_right_inj encoding).mp same⟩

/-- What was written is read back, and skipped, exactly if the limit is not below its
depth.  Neither the bytes before it nor those behind it, nor the offset from which
pointers count, have an influence.  So no bytes begin with the encodings of two values. -/
theorem decode_encode {encoding : ByteArray} (wellFormed : value.WellFormed)
    (encoded : value.encode = .ok encoding) :
    (∀ (before after : ByteArray) (base limit : Nat),
      let data : Section := ⟨before ++ encoding ++ after, base, limit⟩
      (value.depth ≤ limit →
        data.decode before.size = .ok (value, before.size + encoding.size) ∧
          data.skip before.size = .ok (before.size + encoding.size)) ∧
      (limit < value.depth →
        data.decode before.size = .error (.tooDeep limit) ∧
          data.skip before.size = .error (.tooDeep limit))) ∧
      ∀ (other : Value) (otherEncoding rest otherRest : ByteArray), other.WellFormed →
        other.encode = .ok otherEncoding → encoding ++ rest = otherEncoding ++ otherRest →
        value = other ∧ rest = otherRest := by
  constructor
  · intro before after base limit data
    have stands := stands_middle encoded before after base limit
    constructor
    · intro shallow
      rw [decode, skip, stands.decodeAt_eq wellFormed, stands.skipAt_eq]
      exact ⟨if_pos shallow, if_pos shallow⟩
    · intro deep
      rw [decode, skip, stands.decodeAt_eq wellFormed, stands.skipAt_eq]
      exact ⟨if_neg (Nat.not_le.mpr deep), if_neg (Nat.not_le.mpr deep)⟩
  · intro other otherEncoding rest otherRest otherWellFormed otherEncoded same
    exact eq_of_encode_append wellFormed encoded otherWellFormed otherEncoded same

/-- A map that holds an empty array and a negative number, which comes back from between
other bytes with one level, and does not with none. -/
theorem decode_encode_map :
    let value : Value := .map ⟨[(⟨#[0x61]⟩, .array []), (⟨#[0x62]⟩, .int32 (-2))]⟩
    let encoding : ByteArray :=
      ⟨#[0xE2, 0x41, 0x61, 0x00, 0x04, 0x41, 0x62, 0x04, 0x01, 0xFF, 0xFF, 0xFF, 0xFE]⟩
    value.WellFormed ∧ value.encode = .ok encoding ∧ value.depth = 1 ∧
      Section.decode ⟨⟨#[0xFF]⟩ ++ encoding ++ ⟨#[0x20]⟩, 0, 1⟩ 1 = .ok (value, 14) ∧
      Section.decode ⟨⟨#[0xFF]⟩ ++ encoding ++ ⟨#[0x20]⟩, 0, 0⟩ 1 = .error (.tooDeep 0) := by
  intro value encoding
  have wellFormed : value.WellFormed := ⟨by simp, trivial, trivial, trivial⟩
  have encoded : value.encode = .ok encoding := rfl
  have comesBack := (decode_encode wellFormed encoded).1 ⟨#[0xFF]⟩ ⟨#[0x20]⟩ 0
  exact ⟨wellFormed, encoded, rfl, ((comesBack 1).1 (Nat.le_refl 1)).1,
    ((comesBack 0).2 Nat.zero_lt_one).1⟩

end Section

end DataSection
