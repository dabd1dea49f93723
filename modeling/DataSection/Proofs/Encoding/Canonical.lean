import DataSection.Proofs.Encoding.Shortest
import DataSection.Proofs.Section.Below
import DataSection.Proofs.Section.Extension

/-!
# Canonical bytes

Reading and then writing gives the bytes back exactly if they are canonical, which four
things prevent: an integer that begins with a zero byte, a boolean whose five bits say more
than zero or one, a map whose kind stands in a byte of its own, and a key that a map holds
twice.  Whatever the bytes, what is written for them is no longer.

Because no part of an item grows, an item is unchanged only if all items in it are.  So the
levels carry both statements at once, and nothing has to be said about bytes that happen to
be as long as what they were read from.
-/

namespace DataSection

namespace Encoding

/-- No payload of a number is shorter. -/
theorem length_digits_value_le {kind : Kind} {payload : List UInt8}
    (numeral : kind.isNumber = true) (allowed : kind.allowsSize payload.length = true) :
    (digits kind (BigEndian.value payload)).length ≤ payload.length := by
  cases kind with
  | double | float =>
      rw [digits, BigEndian.length_fixed]
      exact Nat.le_of_eq (eq_of_beq allowed).symm
  | uint16 | uint32 | uint64 | uint128 | int32 =>
      rw [digits_of_isInteger rfl]
      exact BigEndian.length_minimal_le payload
  | _ => cases numeral

/-- A number is written in the payload it was read from unless that is an integer with a
zero in front. -/
theorem digits_value_eq_iff {kind : Kind} {payload : List UInt8}
    (numeral : kind.isNumber = true) (allowed : kind.allowsSize payload.length = true) :
    digits kind (BigEndian.value payload) = payload ↔
      ¬(kind.isInteger = true ∧ payload.head? = some 0) := by
  cases kind with
  | double | float =>
      have whole := BigEndian.fixed_value payload
      rw [eq_of_beq allowed] at whole
      simpa [digits, Kind.isInteger] using whole
  | uint16 | uint32 | uint64 | uint128 | int32 =>
      rw [digits_of_isInteger rfl, BigEndian.minimal_value_eq_iff]
      simp [Kind.isInteger]
  | _ => cases numeral

end Encoding

namespace Section

variable {data : Section} {levels start middle stop offset next : Nat} {header : Header}
variable {value : Value} {read : Nat → Except ReadError (Value × Nat)} {exact : Nat → Prop}

/-! ## What writing does not repeat -/

/-- The item at an offset is told in a form that writing never gives to it. -/
inductive Redundant (data : Section) (offset : Nat) : Prop where
  /-- An integer begins with a zero byte. -/
  | leadingZero {header : Header} :
      data.header offset = .ok header → header.kind.isInteger = true → 0 < header.size →
      data.byteAt header.payload = .ok 0 → Redundant data offset
  /-- The five bits of a boolean are neither zero nor one. -/
  | largeFlag {header : Header} :
      data.header offset = .ok header → header.kind = .boolean → 1 < header.size →
      Redundant data offset
  /-- Behind a control without a kind, a zero byte names a map. -/
  | mapApart : data.NamesMapApart offset → Redundant data offset
  /-- Two pairs of a map have the same key. -/
  | repeatedKey {header : Header} {pairs : List (ByteArray × Value)} {stop : Nat} :
      data.header offset = .ok header → header.kind = .map → pairs.length = header.size →
      Row (Reads (entry data.decode)) header.payload pairs stop →
      ¬(pairs.map Prod.fst).Nodup → Redundant data offset

/-- No item that is read from an offset, with so many levels left, is redundant. -/
def Canonical (data : Section) (levels offset : Nat) : Prop :=
  ∀ met, data.Meets levels offset met → ¬data.Redundant met

theorem redundant_iff (found : data.header offset = .ok header) :
    data.Redundant offset ↔
      (header.kind.isInteger = true ∧ 0 < header.size ∧ data.byteAt header.payload = .ok 0) ∨
        (header.kind = .boolean ∧ 1 < header.size) ∨ data.NamesMapApart offset ∨
        header.kind = .map ∧ ∃ pairs stop, pairs.length = header.size ∧
          Row (Reads (entry data.decode)) header.payload pairs stop ∧
          ¬(pairs.map Prod.fst).Nodup := by
  constructor
  · intro redundant
    cases redundant with
    | leadingZero same integer positive zero =>
        cases found.symm.trans same
        exact .inl ⟨integer, positive, zero⟩
    | largeFlag same boolean large =>
        cases found.symm.trans same
        exact .inr (.inl ⟨boolean, large⟩)
    | mapApart apart => exact .inr (.inr (.inl apart))
    | repeatedKey same map length row repeated =>
        cases found.symm.trans same
        exact .inr (.inr (.inr ⟨map, _, _, length, row, repeated⟩))
  · intro form
    rcases form with ⟨integer, positive, zero⟩ | ⟨boolean, large⟩ | apart |
      ⟨map, pairs, stop, length, row, repeated⟩
    · exact .leadingZero found integer positive zero
    · exact .largeFlag found boolean large
    · exact .mapApart apart
    · exact .repeatedKey found map length row repeated

/-! ## Items -/

/-- A value can be written, in no more bytes than stand between two offsets, and in the
same bytes exactly under a condition. -/
def WritesBack (data : Section) (exact : Prop) (start : Nat) (value : Value) (stop : Nat) : Prop :=
  ∃ encoding, value.encode = .ok encoding ∧ data.Replaces start encoding stop exact

theorem WritesBack.congr {exact others : Prop} (back : data.WritesBack exact start value stop)
    (same : exact ↔ others) : data.WritesBack others start value stop := by
  obtain ⟨encoding, encoded, replaces⟩ := back
  exact ⟨encoding, encoded, replaces.congr same⟩

/-- A header with a payload is unchanged exactly if both are. -/
theorem exists_content_replaces {written : ByteArray} {exact : Prop}
    (found : data.header offset = .ok header) (free : header.kind.ownsSizeBits = false)
    (small : written.size ≤ header.size)
    (payload : data.Replaces header.payload written next exact) :
    ∃ encoding, Encoding.content header.kind written = .ok encoding ∧
      data.Replaces offset encoding next
        ((written.size = header.size ∧ ¬data.NamesMapApart offset) ∧ exact) := by
  obtain ⟨bytes, headerWritten, replaces⟩ := (opens_of_header found free).replaces small
  refine ⟨bytes.toByteArray ++ written, ?_, replaces.append payload⟩
  rw [Encoding.content, headerWritten]
  rfl

theorem not_namesMapApart (found : data.header offset = .ok header) (other : header.kind ≠ .map) :
    ¬data.NamesMapApart offset :=
  fun apart => other (apart.kind_eq found)

/-- Of the items with a payload, only an integer can be redundant. -/
theorem redundant_iff_of_payload (found : data.header offset = .ok header)
    (payload : header.kind.isText = true ∨ header.kind.isNumber = true) :
    data.Redundant offset ↔
      header.kind.isInteger = true ∧ 0 < header.size ∧ data.byteAt header.payload = .ok 0 := by
  have notBoolean : header.kind ≠ .boolean := by
    intro boolean
    simp [boolean, Kind.isText, Kind.isNumber, Kind.maxPayload?] at payload
  have notMap : header.kind ≠ .map := by
    intro map
    simp [map, Kind.isText, Kind.isNumber, Kind.maxPayload?] at payload
  simp [redundant_iff found, notBoolean, notMap, not_namesMapApart found notMap]

theorem decodeNode_text_writesBack (found : data.header offset = .ok header)
    (text : header.kind.isText = true) (decoded : data.decodeNode read offset = .ok (value, next)) :
    data.WritesBack (¬data.Redundant offset) offset value next := by
  rw [decodeNode_text found text, Except.map_eq_ok_iff] at decoded
  obtain ⟨⟨payload, behind⟩, content, equal⟩ := decoded
  cases equal
  obtain ⟨size, occupied⟩ := content_eq_ok_iff.mp content
  obtain ⟨encoding, written, replaces⟩ := exists_content_replaces found
    (Kind.ownsSizeBits_of_payload (.inl text)) (Nat.le_of_eq size)
    (Replaces.of_occupies occupied (Nat.le_refl _))
  have encoded : (Value.ofText header.kind payload).encode = .ok encoding := by
    rw [← written]
    cases kind : header.kind with
    | string => exact Value.encode_string payload
    | bytes => exact Value.encode_bytes payload
    | _ => simp [kind, Kind.isText] at text
  refine ⟨encoding, encoded, replaces.congr ?_⟩
  have notInteger : header.kind.isInteger = false := by
    cases kind : header.kind <;> simp_all [Kind.isText, Kind.isInteger]
  have notMap : header.kind ≠ .map := by
    intro map
    rw [map] at text
    cases text
  simp [redundant_iff_of_payload found (.inl text), notInteger, size,
    not_namesMapApart found notMap]

theorem head?_eq_some_iff {digits : List UInt8} {byte : UInt8}
    (occupied : data.Occupies start digits.toByteArray stop) :
    digits.head? = some byte ↔ 0 < digits.length ∧ data.byteAt start = .ok byte := by
  cases digits with
  | nil => simp
  | cons digit rest =>
      have first := (holds_cons.mp (occupies_iff.mp occupied).1).1
      simp [first]

theorem decodeNode_number_writesBack (found : data.header offset = .ok header)
    (numeral : header.kind.isNumber = true)
    (decoded : data.decodeNode read offset = .ok (value, next)) :
    data.WritesBack (¬data.Redundant offset) offset value next := by
  rw [decodeNode_number found numeral, Except.map_eq_ok_iff] at decoded
  obtain ⟨⟨number, behind⟩, numberRead, equal⟩ := decoded
  cases equal
  obtain ⟨allowed, bytes, content, rfl⟩ := number_eq_ok_iff.mp numberRead
  obtain ⟨size, occupied⟩ := content_eq_ok_iff.mp content
  -- The payload as a list of digits.
  generalize payload : bytes.data.toList = digits
  have whole : digits.toByteArray = bytes := by
    rw [← payload]
    exact ByteArray.ext (by simp)
  rw [← whole] at occupied size
  rw [List.size_toByteArray] at size
  rw [← size] at allowed
  have short := Encoding.length_digits_value_le numeral allowed
  have shortBytes :
      (Encoding.digits header.kind (BigEndian.value digits)).toByteArray.size ≤ header.size := by
    rwa [List.size_toByteArray, ← size]
  obtain ⟨encoding, written, replaces⟩ := exists_content_replaces found
    (Kind.ownsSizeBits_of_payload (.inr numeral)) shortBytes
    (Replaces.of_digits occupied short)
  refine ⟨encoding, ?_, replaces.congr ?_⟩
  · rw [Value.encode_ofNumber numeral allowed (BigEndian.value_lt digits)]
    exact written
  · have notMap : header.kind ≠ .map := by
      intro map
      rw [map] at numeral
      cases numeral
    rw [redundant_iff_of_payload found (.inr numeral), ← size, ← head?_eq_some_iff occupied,
      ← Encoding.digits_value_eq_iff numeral allowed, List.size_toByteArray]
    constructor
    · intro same
      exact same.2
    · intro same
      exact ⟨⟨congrArg List.length same, not_namesMapApart found notMap⟩, same⟩

theorem decodeNode_boolean_writesBack (found : data.header offset = .ok header)
    (boolean : header.kind = .boolean)
    (decoded : data.decodeNode read offset = .ok (value, next)) :
    data.WritesBack (¬data.Redundant offset) offset value next := by
  rw [decodeNode_boolean found boolean] at decoded
  cases decoded
  have form := header_eq_ok_iff.mp found
  rw [if_pos (by simp [boolean, Kind.ownsSizeBits]), boolean] at form
  let flag : Nat := if header.size != 0 then 1 else 0
  have small : flag ≤ 1 := by
    unfold flag
    split <;> decide
  have encoded : (Value.boolean (header.size != 0)).encode =
      .ok (Encoding.control .boolean flag).toByteArray := by
    rw [Value.encode_boolean, Encoding.header_of_le .boolean (Nat.le_trans small (by decide)),
      Encoding.sizeBits_of_le (by omega), Encoding.sizeBytes_of_le (by omega), List.append_nil]
    rfl
  refine ⟨_, encoded, (form.replaces (by omega)).congr ?_⟩
  have notMap : header.kind ≠ .map := by simp [boolean]
  have one : flag = header.size ↔ ¬1 < header.size := by
    unfold flag
    split
    next nonzero =>
        have positive : header.size ≠ 0 := by simpa using nonzero
        omega
    next zero =>
        have none : header.size = 0 := by simpa using zero
        omega
  simp [redundant_iff found, boolean, Kind.isInteger, one, not_namesMapApart found notMap]

/-! ## Rows -/

/-- The items of a row are written in no more bytes than they stand in, and in the same
exactly if each of them is. -/
theorem Row.exists_replaces {α : Type} {read : Nat → Except ReadError (α × Nat)}
    {writeItem : α → Except WriteError ByteArray} {write : List α → Except WriteError ByteArray}
    (nil : write [] = .ok .empty)
    (cons : ∀ item rest first last, writeItem item = .ok first → write rest = .ok last →
      write (item :: rest) = .ok (first ++ last))
    {items : List α} (inside : start ≤ data.size) (row : Row (Reads read) start items stop)
    (each : ∀ offset, StartsIn read start items.length offset → ∀ item next,
      read offset = .ok (item, next) →
        ∃ bytes, writeItem item = .ok bytes ∧ data.Replaces offset bytes next (exact offset)) :
    ∃ body, write items = .ok body ∧ data.Replaces start body stop
      (∀ offset, StartsIn read start items.length offset → exact offset) := by
  induction row with
  | nil offset =>
      refine ⟨.empty, nil, (Replaces.empty inside).congr ?_⟩
      exact iff_of_true trivial fun offset starts => (not_startsIn_zero starts).elim
  | @cons start middle stop item rest first row ih =>
      have starts : ∀ offset, StartsIn read start (rest.length + 1) offset ↔
          offset = start ∨ StartsIn read middle rest.length offset := startsIn_succ_iff first
      obtain ⟨bytes, written, replaces⟩ := each start ((starts start).mpr (.inl rfl)) _ _ first
      obtain ⟨body, restWritten, bodyReplaces⟩ := ih replaces.inside fun offset later =>
        each offset ((starts offset).mpr (.inr later))
      refine ⟨bytes ++ body, cons _ _ _ _ written restWritten, ?_⟩
      apply (replaces.append bodyReplaces).congr
      simp only [List.length_cons, starts, or_imp, forall_and, forall_eq]

/-! ## Containers -/

theorem decodeNode_array_writesBack (found : data.header offset = .ok header)
    (array : header.kind = .array)
    (each : ∀ item, Child data read offset item → ∀ value next,
      read item = .ok (value, next) → data.WritesBack (exact item) item value next)
    (decoded : data.decodeNode read offset = .ok (value, next)) :
    data.WritesBack (¬data.Redundant offset ∧ ∀ item, Child data read offset item → exact item)
      offset value next := by
  obtain ⟨elements, rfl, length, row⟩ := (decodeNode_array_eq_ok_iff found array).mp decoded
  have children : ∀ item, Child data read offset item ↔
      StartsIn read header.payload elements.length item := by
    intro item
    rw [length]
    exact child_array_iff found array
  have joined : ∀ element rest first last, Value.encode element = .ok first →
      Value.encodeElements rest = .ok last →
        Value.encodeElements (element :: rest) = .ok (first ++ last) := by
    intro element rest first last firstWritten lastWritten
    exact Value.encodeElements_cons_eq_ok_iff.mpr ⟨first, last, firstWritten, lastWritten, rfl⟩
  obtain ⟨body, bodyWritten, bodyReplaces⟩ := row.exists_replaces rfl joined
    (header_advances found).2 fun start starts => each start ((children start).mpr starts)
  obtain ⟨bytes, written, replaces⟩ :=
    (opens_of_header found (by rw [array]; rfl)).replaces (Nat.le_of_eq length)
  refine ⟨bytes.toByteArray ++ body, ?_, (replaces.append bodyReplaces).congr ?_⟩
  · rw [array] at written
    exact Value.encode_array_eq_ok_iff.mpr ⟨bytes, body, written, bodyWritten, rfl⟩
  · have notMap : header.kind ≠ .map := by simp [array]
    simp [redundant_iff found, array, Kind.isInteger, length, children,
      not_namesMapApart found notMap]

/-- The pairs of a map are read in one way. -/
theorem redundant_map_iff (found : data.header offset = .ok header) (map : header.kind = .map)
    {pairs : List (ByteArray × Value)} (length : pairs.length = header.size)
    (row : Row (Reads (entry data.decode)) header.payload pairs stop) :
    data.Redundant offset ↔ data.NamesMapApart offset ∨ ¬(pairs.map Prod.fst).Nodup := by
  have repeated : (∃ pairs stop, pairs.length = header.size ∧
      Row (Reads (entry data.decode)) header.payload pairs stop ∧ ¬(pairs.map Prod.fst).Nodup) ↔
        ¬(pairs.map Prod.fst).Nodup := by
    constructor
    · intro other
      obtain ⟨others, end_, otherLength, otherRow, otherRepeated⟩ := other
      have first := collect_eq_ok_iff.mpr ⟨length, row⟩
      have second := collect_eq_ok_iff.mpr ⟨otherLength, otherRow⟩
      cases first.symm.trans second
      exact otherRepeated
    · intro repeated
      exact ⟨pairs, stop, length, row, repeated⟩
  rw [redundant_iff found, repeated]
  simp [map, Kind.isInteger]

/-- A key and the value behind it are unchanged exactly if both are. -/
theorem exists_entry_replaces {pair : ByteArray × Value}
    (pairRead : entry read start = .ok (pair, stop))
    (each : ∀ item, InEntry read start item → ∀ value next,
      read item = .ok (value, next) → data.WritesBack (exact item) item value next) :
    ∃ bytes, Value.encodeEntries [pair] = .ok bytes ∧
      data.Replaces start bytes stop (∀ item, InEntry read start item → exact item) := by
  obtain ⟨middle, keyRead, valueRead⟩ := entry_eq_ok_iff.mp pairRead
  have keyIn : InEntry read start start := .inl rfl
  have valueIn : InEntry read start middle := .inr ⟨pair.1, keyRead⟩
  obtain ⟨keyBytes, keyWritten, keyReplaces⟩ := each start keyIn _ _ keyRead
  obtain ⟨valueBytes, valueWritten, valueReplaces⟩ := each middle valueIn _ _ valueRead
  refine ⟨keyBytes ++ valueBytes, ?_, (keyReplaces.append valueReplaces).congr ?_⟩
  · refine Value.encodeEntries_cons_eq_ok_iff.mpr
      ⟨keyBytes, valueBytes, .empty, keyWritten, valueWritten, rfl, ?_⟩
    rw [ByteArray.append_empty]
  · constructor
    · intro both item inside
      rcases inside with rfl | ⟨text, again⟩
      · exact both.1
      · cases keyRead.symm.trans again
        exact both.2
    · intro all
      exact ⟨all start keyIn, all middle valueIn⟩

/-- A map of pairs is unchanged exactly if its header and its pairs are and no pair is lost
in the dictionary. -/
theorem map_writesBack {pairs : List (ByteArray × Value)} {body : ByteArray} {exact : Prop}
    (found : data.header offset = .ok header) (map : header.kind = .map)
    (length : pairs.length = header.size) (written : Value.encodeEntries pairs = .ok body)
    (replaces : data.Replaces header.payload body next exact) :
    data.WritesBack
      ((¬data.NamesMapApart offset ∧ (pairs.map Prod.fst).Nodup) ∧ exact) offset
      (.map (Dictionary.ofList pairs)) next := by
  have fewer : (Dictionary.ofList pairs).size ≤ header.size :=
    length ▸ Dictionary.size_ofList_le pairs
  obtain ⟨bytes, headerWritten, headerReplaces⟩ :=
    (opens_of_header found (by rw [map]; rfl)).replaces fewer
  rw [map] at headerWritten
  have kept : (Dictionary.ofList pairs).size = header.size ↔ (pairs.map Prod.fst).Nodup := by
    rw [← length]
    exact Dictionary.size_ofList_eq_iff
  by_cases distinct : (pairs.map Prod.fst).Nodup
  · have same := Dictionary.ofList_of_distinct distinct
    have bodyWritten : Value.encodeEntries (Dictionary.ofList pairs).entries = .ok body := by
      rw [same]
      exact written
    refine ⟨bytes.toByteArray ++ body, ?_, (headerReplaces.append replaces).congr ?_⟩
    · exact Value.encode_map_eq_ok_iff.mpr ⟨bytes, body, headerWritten, bodyWritten, rfl⟩
    · rw [kept, and_comm (a := (pairs.map Prod.fst).Nodup)]
  · obtain ⟨shorter, shorterWritten, bound⟩ := Value.exists_encodeEntries_ofList written
    have shorterReplaces : data.Replaces header.payload shorter next
        (shorter = data.bytes.extract header.payload next) :=
      ⟨Nat.le_trans (Nat.add_le_add_left bound _) replaces.fits, replaces.inside, Iff.rfl⟩
    refine ⟨bytes.toByteArray ++ shorter, ?_, (headerReplaces.append shorterReplaces).congr ?_⟩
    · exact Value.encode_map_eq_ok_iff.mpr ⟨bytes, shorter, headerWritten, shorterWritten, rfl⟩
    · simp [kept, distinct]

theorem decodeNode_map_writesBack (found : data.header offset = .ok header)
    (map : header.kind = .map)
    (agree : ∀ item result, read item = .ok result → data.decode item = .ok result)
    (each : ∀ item, Child data read offset item → ∀ value next,
      read item = .ok (value, next) → data.WritesBack (exact item) item value next)
    (decoded : data.decodeNode read offset = .ok (value, next)) :
    data.WritesBack (¬data.Redundant offset ∧ ∀ item, Child data read offset item → exact item)
      offset value next := by
  obtain ⟨pairs, rfl, length, row⟩ := (decodeNode_map_eq_ok_iff found map).mp decoded
  have children : ∀ item, Child data read offset item ↔
      ∃ start, StartsIn (entry read) header.payload pairs.length start ∧
        InEntry read start item := by
    intro item
    rw [length]
    exact child_map_iff found map
  have joined : ∀ pair rest first last, Value.encodeEntries [pair] = .ok first →
      Value.encodeEntries rest = .ok last →
        Value.encodeEntries (pair :: rest) = .ok (first ++ last) := by
    intro pair rest first last firstWritten lastWritten
    exact Value.encodeEntries_append_eq_ok_iff.mpr ⟨first, last, firstWritten, lastWritten, rfl⟩
  obtain ⟨body, written, replaces⟩ := row.exists_replaces rfl joined (header_advances found).2
    fun start starts pair stop pairRead => exists_entry_replaces pairRead fun item inside =>
      each item ((children item).mpr ⟨start, starts, inside⟩)
  apply (map_writesBack found map length written replaces).congr
  -- With the limit the same pairs are read as with the levels that were left.
  have wholeRow : Row (Reads (entry data.decode)) header.payload pairs next := by
    apply row.imp
    intro start pair stop pairRead
    obtain ⟨middle, keyRead, valueRead⟩ := entry_eq_ok_iff.mp pairRead
    exact entry_eq_ok_iff.mpr ⟨middle, agree _ _ keyRead, agree _ _ valueRead⟩
  rw [redundant_map_iff found map length wholeRow, not_or, Classical.not_not]
  simp only [children, forall_exists_index, and_imp]
  constructor
  · intro both
    exact ⟨both.1, fun item start starts inside => both.2 start starts item inside⟩
  · intro both
    exact ⟨both.1, fun start starts item inside => both.2 item start starts inside⟩

/-! ## All levels -/

/-- An item is written in no more bytes than it stands in, and in the same exactly if it is
not redundant and the items below it are written so. -/
theorem decodeNode_writesBack
    (agree : ∀ item result, read item = .ok result → data.decode item = .ok result)
    (each : ∀ item, Child data read offset item → ∀ value next,
      read item = .ok (value, next) → data.WritesBack (exact item) item value next)
    (noPointer : ∀ header, data.header offset = .ok header → header.kind ≠ .pointer)
    (decoded : data.decodeNode read offset = .ok (value, next)) :
    data.WritesBack (¬data.Redundant offset ∧ ∀ item, Child data read offset item → exact item)
      offset value next := by
  obtain ⟨header, found⟩ := exists_header_of_decodeNode decoded
  rcases header.kind.eq_or_isLeaf with pointer | array | map | leaf
  · exact absurd pointer (noPointer header found)
  · exact decodeNode_array_writesBack found array each decoded
  · exact decodeNode_map_writesBack found map agree each decoded
  · have back : data.WritesBack (¬data.Redundant offset) offset value next := by
      rcases Kind.eq_boolean_or_of_isLeaf leaf with boolean | text | numeral
      · exact decodeNode_boolean_writesBack found boolean decoded
      · exact decodeNode_text_writesBack found text decoded
      · exact decodeNode_number_writesBack found numeral decoded
    apply back.congr
    constructor
    · intro plain
      exact ⟨plain, fun item child => (not_child_of_isLeaf found leaf child).elim⟩
    · intro both
      exact both.1

theorem canonical_zero_iff : data.Canonical 0 offset ↔ ¬data.Redundant offset := by
  constructor
  · intro canonical
    exact canonical offset (.self 0 offset)
  · intro plain met meets
    cases meets
    exact plain

theorem canonical_succ_iff :
    data.Canonical (levels + 1) offset ↔
      ¬data.Redundant offset ∧
        ∀ item, Child data (data.decodeAt levels) offset item → data.Canonical levels item := by
  constructor
  · intro canonical
    refine ⟨canonical offset (.self _ offset), ?_⟩
    intro item child met meets
    exact canonical met (.inside child meets)
  · intro both met meets
    cases meets with
    | self => exact both.1
    | inside child below => exact both.2 _ child met below

theorem decodeAt_writesBack (few : levels ≤ data.limit) (free : data.PointerFree levels offset)
    (decoded : data.decodeAt levels offset = .ok (value, next)) :
    data.WritesBack (data.Canonical levels offset) offset value next := by
  induction levels generalizing offset value next with
  | zero =>
      have back : data.WritesBack (¬data.Redundant offset ∧
          ∀ item, Child data (fun _ => .error (.tooDeep data.limit)) offset item → True)
          offset value next := by
        apply decodeNode_writesBack _ _ (fun header => free.header_ne) decoded
        · intro item result impossible
          cases impossible
        · intro item child value next impossible
          cases impossible
      apply back.congr
      simp only [canonical_zero_iff, implies_true, and_true]
  | succ levels ih =>
      have fewer : levels ≤ data.limit := Nat.le_of_succ_le few
      have back : data.WritesBack (¬data.Redundant offset ∧
          ∀ item, Child data (data.decodeAt levels) offset item → data.Canonical levels item)
          offset value next := by
        apply decodeNode_writesBack _ _ (fun header => free.header_ne) decoded
        · intro item result read
          exact decode_of_decodeAt fewer read
        · intro item child value next read
          exact ih fewer (free.child child) read
      exact back.congr canonical_succ_iff.symm

/-- What was read without a pointer is written in no more bytes, and in the same bytes
exactly if nothing that was read between the two offsets is redundant. -/
theorem encode_of_decode_eq_iff_canonical (free : data.PointerFree data.limit offset)
    (decoded : data.decode offset = .ok (value, next)) :
    ∃ encoding, value.encode = .ok encoding ∧ offset + encoding.size ≤ next ∧
      next ≤ data.size ∧
      (∀ met, data.Meets data.limit offset met → offset ≤ met ∧ met < next) ∧
      (encoding = data.bytes.extract offset next ↔
        ∀ met, data.Meets data.limit offset met → ¬data.Redundant met) := by
  obtain ⟨encoding, encoded, replaces⟩ := decodeAt_writesBack (Nat.le_refl _) free decoded
  refine ⟨encoding, encoded, replaces.fits, replaces.inside, ?_, replaces.eq_iff⟩
  intro met meets
  exact meets.within free decoded

/-- An array of the number 7 with a zero in front, and of a flag with the bits of three. -/
def looseArray : Section :=
  { bytes := ⟨#[0x02, 0x04, 0xA2, 0x00, 0x07, 0x03, 0x07]⟩, limit := 1 }

theorem encode_of_decode_looseArray :
    looseArray.PointerFree 1 0 ∧
      looseArray.decode 0 = .ok (.array [.uint16 7, .boolean true], 7) ∧
      (Value.array [.uint16 7, .boolean true]).encode =
        .ok ⟨#[0x02, 0x04, 0xA1, 0x07, 0x01, 0x07]⟩ ∧
      ∃ met, looseArray.Meets 1 0 met ∧ looseArray.Redundant met := by
  have root : looseArray.header 0 = .ok ⟨.array, 2, 2⟩ := rfl
  have first : looseArray.decodeAt 0 2 = .ok (.uint16 7, 5) := rfl
  have second : looseArray.decodeAt 0 5 = .ok (.boolean true, 7) := rfl
  have decoded : looseArray.decode 0 = .ok (.array [.uint16 7, .boolean true], 7) :=
    (decodeNode_array_eq_ok_iff root rfl).mpr
      ⟨_, rfl, rfl, .cons first (.cons second (.nil 7))⟩
  have free : looseArray.PointerFree 1 0 := by
    intro met header meets found
    cases meets with
    | self =>
        cases root.symm.trans found
        decide
    | inside child below =>
        cases below
        rw [child_array_iff root rfl, startsIn_succ_iff first, startsIn_succ_iff second] at child
        have firstHeader : looseArray.header 2 = .ok ⟨.uint16, 2, 3⟩ := rfl
        have secondHeader : looseArray.header 5 = .ok ⟨.boolean, 3, 7⟩ := rfl
        rcases child with rfl | rfl | none
        · cases firstHeader.symm.trans found
          decide
        · cases secondHeader.symm.trans found
          decide
        · exact (not_startsIn_zero none).elim
  have written : (Value.array [.uint16 7, .boolean true]).encode =
      .ok ⟨#[0x02, 0x04, 0xA1, 0x07, 0x01, 0x07]⟩ := rfl
  obtain ⟨encoding, encoded, -, -, -, same⟩ := encode_of_decode_eq_iff_canonical free decoded
  cases written.symm.trans encoded
  have changed := mt same.mpr (by decide)
  push Not at changed
  exact ⟨free, decoded, written, changed⟩

end Section

end DataSection
