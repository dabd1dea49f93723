import DataSection.Proofs.Section.Grammar
import DataSection.Proofs.Section.Holds
import DataSection.Proofs.Section.Item

/-!
# Reading recognises the grammar

Reading succeeds exactly on the items of the grammar, and gives the value and the end that
the rules give.  Each part of an item is recognised by the function that reads it; the
levels carry the induction over items within items and behind pointers.
-/

namespace DataSection

namespace BigEndian

/-- A leading digit counts by the length of what follows it. -/
theorem value_cons (digit : UInt8) (digits : List UInt8) :
    value (digit :: digits) = digit.toNat * 256 ^ digits.length + value digits := by
  induction digits using induction_concat with
  | nil => simp [value]
  | concat digits last ih =>
      rw [← List.cons_append, value_concat, value_concat, ih, List.length_append,
        List.length_singleton, Nat.pow_succ, Nat.add_mul, Nat.mul_assoc, Nat.add_assoc]

end BigEndian

namespace Section

variable {data : Section} {levels start stop next offset : Nat} {header : Header} {value : Value}

/-! ## Bytes -/

theorem occupies_iff {content : ByteArray} :
    data.Occupies start content stop ↔
      data.Holds start content ∧ stop = start + content.size := by
  constructor
  · rintro ⟨before, after, bytes, rfl, rfl⟩
    obtain ⟨held, base, limit⟩ := data
    cases bytes
    exact ⟨holds_middle before content after base limit, rfl⟩
  · rintro ⟨held, rfl⟩
    obtain ⟨inside, equal⟩ := holds_iff.mp held
    have bound : start + content.size ≤ data.bytes.size := inside
    let before := data.bytes.extract 0 start
    let after := data.bytes.extract (start + content.size) data.bytes.size
    refine ⟨before, after, ?_, ?_, rfl⟩
    · have front : before ++ content = data.bytes.extract 0 (start + content.size) := by
        rw [ByteArray.extract_eq_extract_append_extract start (Nat.zero_le start)
          (Nat.le_add_right start _), equal]
      rw [front, ← ByteArray.extract_eq_extract_append_extract (start + content.size)
        (Nat.zero_le _) bound, ByteArray.extract_zero_size]
    · simp only [before, ByteArray.size_extract]
      omega

theorem occupies_append {first second : ByteArray} :
    data.Occupies start (first ++ second) stop ↔
      ∃ middle, data.Occupies start first middle ∧ data.Occupies middle second stop := by
  simp only [occupies_iff, holds_append, ByteArray.size_append]
  constructor
  · rintro ⟨⟨front, back⟩, rfl⟩
    exact ⟨_, ⟨front, rfl⟩, back, (Nat.add_assoc _ _ _).symm⟩
  · rintro ⟨_, ⟨front, rfl⟩, back, rfl⟩
    exact ⟨⟨front, back⟩, Nat.add_assoc _ _ _⟩

theorem byteAt_eq_ok_iff_occupies {byte : UInt8} :
    data.byteAt start = .ok byte ↔ data.Occupies start [byte].toByteArray (start + 1) := by
  rw [occupies_iff, holds_singleton]
  exact (and_iff_left rfl).symm

theorem slice_eq_ok_iff_occupies {length : Nat} {content : ByteArray} :
    data.slice start length = .ok content ↔
      content.size = length ∧ data.Occupies start content (start + length) := by
  constructor
  · intro read
    have size := size_of_slice read
    subst size
    exact ⟨rfl, occupies_iff.mpr ⟨read, rfl⟩⟩
  · rintro ⟨rfl, occupied⟩
    exact (occupies_iff.mp occupied).1

theorem numeral_eq_ok_iff {length number : Nat} :
    data.numeral start length = .ok number ↔
      ∃ digits : List UInt8, digits.length = length ∧
        data.Occupies start digits.toByteArray (start + length) ∧
        BigEndian.value digits = number := by
  rw [numeral, Except.map_eq_ok_iff]
  constructor
  · rintro ⟨content, read, equal⟩
    obtain ⟨size, occupied⟩ := slice_eq_ok_iff_occupies.mp read
    refine ⟨content.data.toList, ?_, ?_, equal⟩
    · rw [Array.length_toList]
      exact size
    · have whole : content.data.toList.toByteArray = content :=
        ByteArray.ext (by simp)
      rwa [whole]
  · rintro ⟨digits, length, occupied, equal⟩
    refine ⟨digits.toByteArray, slice_eq_ok_iff_occupies.mpr ⟨?_, occupied⟩, ?_⟩
    · rw [List.size_toByteArray, length]
    · rw [List.toList_data_toByteArray, equal]

/-! ## Headers -/

/-- The control at an offset is read as the grammar says. -/
theorem control_iff {code field : Nat} :
    Control data start code field stop ↔
      ∃ control, data.byteAt start = .ok control ∧ control.toNat % 32 = field ∧
        data.kindCode control start = .ok (code, stop) := by
  constructor
  · intro form
    cases form with
    | @inline control split positive small occupied =>
        obtain ⟨held, rfl⟩ := occupies_iff.mp occupied
        refine ⟨control, byteAt_of_holds held, by omega, ?_⟩
        have high : control.toNat / 32 = code := by omega
        rw [kindCode, high, if_neg (by omega)]
        rfl
    | @extended control extension split small named occupied =>
        obtain ⟨held, rfl⟩ := occupies_iff.mp occupied
        obtain ⟨first, rest⟩ := holds_cons.mp held
        refine ⟨control, first, by omega, ?_⟩
        rw [kindCode, if_pos (by omega), byteAt_of_holds rest, named]
        rfl
  · rintro ⟨control, first, rfl, read⟩
    have bounded := control.toNat_lt
    unfold kindCode at read
    split at read
    next zero =>
        obtain ⟨extension, second, equal⟩ := Except.bind_eq_ok_iff.mp read
        cases equal
        have held : data.Holds start [control, extension].toByteArray :=
          holds_cons.mpr ⟨first, holds_singleton.mpr second⟩
        exact .extended (by omega) (by omega) rfl (occupies_iff.mpr ⟨held, rfl⟩)
    next nonzero =>
        cases read
        exact .inline (by omega) (by omega) (by omega) (byteAt_eq_ok_iff_occupies.mp first)

/-- A size stands in the five bits, or is completed by as many digits as they say. -/
theorem SizeBytes.inline_or_digits {field size : Nat}
    (form : SizeBytes data field start size stop) :
    (size ≤ Format.maxInlineSize ∧ field = size ∧ stop = start) ∨
      ∃ digits : List UInt8, 0 < digits.length ∧ digits.length ≤ 3 ∧
        field = Format.sizeCode digits.length ∧
        size = Format.sizeBase digits.length + BigEndian.value digits ∧
        data.Occupies start digits.toByteArray stop := by
  cases form with
  | inline small => exact .inl ⟨small, rfl, rfl⟩
  | @one _ _ digits length occupied
  | @two _ _ digits length occupied
  | @three _ _ digits length occupied =>
      have bits := congrArg Format.sizeCode length.symm
      have base := congrArg (Format.sizeBase · + BigEndian.value digits) length.symm
      exact .inr ⟨digits, by omega, by omega, bits, base, occupied⟩

/-- The size that five bits announce is read as the grammar says. -/
theorem sizeField_eq_ok_iff {field size : Nat} (small : field < 32) :
    data.sizeField field start = .ok (size, stop) ↔ SizeBytes data field start size stop := by
  have inlineBound : Format.maxInlineSize = 28 := rfl
  constructor
  · intro read
    unfold sizeField at read
    split at read
    next inline =>
        cases read
        exact .inline inline
    next long =>
        obtain ⟨number, numeral, equal⟩ := Except.bind_eq_ok_iff.mp read
        cases equal
        obtain ⟨digits, length, occupied, rfl⟩ := numeral_eq_ok_iff.mp numeral
        have fields : field = 29 ∨ field = 30 ∨ field = 31 := by omega
        rcases fields with rfl | rfl | rfl
        · exact .one length occupied
        · exact .two length occupied
        · exact .three length occupied
  · intro form
    rcases form.inline_or_digits with ⟨inline, rfl, rfl⟩ | ⟨digits, positive, -, rfl, rfl, occupied⟩
    · rw [sizeField, if_pos inline]
      rfl
    · obtain ⟨held, rfl⟩ := occupies_iff.mp occupied
      have extra : Format.sizeCode digits.length - Format.maxInlineSize = digits.length :=
        Nat.add_sub_cancel_left ..
      have long : ¬Format.sizeCode digits.length ≤ Format.maxInlineSize := by
        rw [Format.sizeCode]
        omega
      rw [sizeField, if_neg long]
      simp only [extra, numeral_of_holds held, List.size_toByteArray]
      rfl

/-- A header is read where the grammar has one.  The kinds that own their size bits have
no size bytes. -/
theorem header_eq_ok_iff :
    data.header start = .ok header ↔
      if header.kind.ownsSizeBits then
        Control data start header.kind.code header.size header.payload
      else
        Opens data header.kind start header.size header.payload := by
  constructor
  · intro read
    obtain ⟨control, first, read⟩ := Except.bind_eq_ok_iff.mp read
    obtain ⟨⟨code, middle⟩, named, read⟩ := Except.bind_eq_ok_iff.mp read
    cases known : Kind.ofCode? code with
    | none =>
        simp only [known] at read
        cases read
    | some kind =>
        have code : code = kind.code := Kind.ofCode?_eq_some_iff.mp known
        subst code
        have form : Control data start kind.code (control.toNat % 32) middle :=
          control_iff.mpr ⟨control, first, rfl, named⟩
        simp only [known] at read
        split at read
        next owned =>
            cases read
            rwa [if_pos owned]
        next free =>
            obtain ⟨⟨size, payload⟩, sized, equal⟩ := Except.bind_eq_ok_iff.mp read
            cases equal
            rw [if_neg free]
            exact ⟨_, middle, form, (sizeField_eq_ok_iff (Nat.mod_lt _ (by decide))).mp sized⟩
  · intro form
    obtain ⟨kind, size, payload⟩ := header
    split at form
    next owned =>
        obtain ⟨control, first, rfl, named⟩ := control_iff.mp form
        simp only [Section.header, first, named, bind, Except.bind, Kind.ofCode?_code, owned,
          if_true]
        rfl
    next free =>
        obtain ⟨field, middle, form, sized⟩ := form
        obtain ⟨control, first, rfl, named⟩ := control_iff.mp form
        rw [← sizeField_eq_ok_iff (Nat.mod_lt _ (by decide))] at sized
        simp only [Section.header, first, named, bind, Except.bind, Kind.ofCode?_code, free,
          sized, Bool.false_eq_true, if_false]
        rfl

theorem header_of_control {kind : Kind} {field : Nat} (owned : kind.ownsSizeBits = true)
    (form : Control data start kind.code field stop) :
    data.header start = .ok ⟨kind, field, stop⟩ := by
  rw [header_eq_ok_iff, if_pos owned]
  exact form

theorem header_of_opens {kind : Kind} {size : Nat} (free : kind.ownsSizeBits = false)
    (form : Opens data kind start size stop) : data.header start = .ok ⟨kind, size, stop⟩ := by
  rw [header_eq_ok_iff, if_neg (by simp [free])]
  exact form

theorem opens_of_header (found : data.header start = .ok header)
    (free : header.kind.ownsSizeBits = false) :
    Opens data header.kind start header.size header.payload := by
  rwa [header_eq_ok_iff, if_neg (by simp [free])] at found

/-! ## Payloads -/

theorem content_eq_ok_iff {payload : ByteArray} :
    data.content header = .ok (payload, stop) ↔
      payload.size = header.size ∧ data.Occupies header.payload payload stop := by
  rw [content, Except.bind_eq_ok_iff]
  constructor
  · rintro ⟨bytes, read, equal⟩
    cases equal
    exact slice_eq_ok_iff_occupies.mp read
  · rintro ⟨size, occupied⟩
    obtain ⟨-, rfl⟩ := occupies_iff.mp occupied
    rw [size] at occupied ⊢
    exact ⟨payload, slice_eq_ok_iff_occupies.mpr ⟨size, occupied⟩, rfl⟩

/-- A payload is below the power of 256 that its allowed size gives. -/
theorem value_lt_of_size_le {payload : ByteArray} {largest : Nat} (size : payload.size ≤ largest) :
    BigEndian.value payload.data.toList < 256 ^ largest :=
  calc BigEndian.value payload.data.toList
      < 256 ^ payload.data.toList.length := BigEndian.value_lt _
    _ ≤ 256 ^ largest := Nat.pow_le_pow_right (by decide) size

/-- A payload denotes what reading makes of it, and a number has a size that is allowed. -/
theorem denotes_iff {kind : Kind} {payload : ByteArray} :
    Denotes kind payload value ↔
      kind.isText = true ∧ value = .ofText kind payload ∨
        kind.isNumber = true ∧ kind.allowsSize payload.size = true ∧
          value = .ofNumber kind (BigEndian.value payload.data.toList) := by
  constructor
  · intro denotes
    cases denotes with
    | string payload => exact .inl ⟨rfl, rfl⟩
    | bytes payload => exact .inl ⟨rfl, rfl⟩
    | double size number =>
        exact .inr ⟨rfl, by simp [Kind.allowsSize, Kind.maxPayload?, size],
          by simp [Value.ofNumber, ← number]⟩
    | float size number =>
        exact .inr ⟨rfl, by simp [Kind.allowsSize, Kind.maxPayload?, size],
          by simp [Value.ofNumber, ← number]⟩
    | int32 size number =>
        refine .inr ⟨rfl, decide_eq_true size, congrArg Value.int32 (Int32.toInt_inj.mp ?_)⟩
        rw [number]
        simp
    | _ size number =>
        exact .inr ⟨rfl, decide_eq_true size, by simp [Value.ofNumber, ← number]⟩
  · rintro (⟨text, rfl⟩ | ⟨number, allowed, rfl⟩)
    · cases kind with
      | string => exact .string payload
      | bytes => exact .bytes payload
      | _ => cases text
    · cases kind with
      | double =>
          have size : payload.size = 8 := by
            simpa [Kind.allowsSize, Kind.maxPayload?] using allowed
          have bound := value_lt_of_size_le (Nat.le_of_eq size)
          exact .double size (by rw [UInt64.toNat_ofNat', Nat.mod_eq_of_lt bound])
      | float =>
          have size : payload.size = 4 := by
            simpa [Kind.allowsSize, Kind.maxPayload?] using allowed
          have bound := value_lt_of_size_le (Nat.le_of_eq size)
          exact .float size (by rw [UInt32.toNat_ofNat', Nat.mod_eq_of_lt bound])
      | uint16 =>
          have size : payload.size ≤ 2 := of_decide_eq_true allowed
          have bound := value_lt_of_size_le size
          exact .uint16 size (by rw [UInt16.toNat_ofNat', Nat.mod_eq_of_lt bound])
      | uint32 =>
          have size : payload.size ≤ 4 := of_decide_eq_true allowed
          have bound := value_lt_of_size_le size
          exact .uint32 size (by rw [UInt32.toNat_ofNat', Nat.mod_eq_of_lt bound])
      | uint64 =>
          have size : payload.size ≤ 8 := of_decide_eq_true allowed
          have bound := value_lt_of_size_le size
          exact .uint64 size (by rw [UInt64.toNat_ofNat', Nat.mod_eq_of_lt bound])
      | uint128 =>
          have size : payload.size ≤ 16 := of_decide_eq_true allowed
          have bound := value_lt_of_size_le size
          exact .uint128 size (by rw [BitVec.toNat_ofNat, Nat.mod_eq_of_lt bound])
      | int32 =>
          have size : payload.size ≤ 4 := of_decide_eq_true allowed
          exact .int32 size (by simp)
      | _ => cases number

/-- The low three bits are the digit before the bytes. -/
theorem pointerNumber_eq (field : Nat) (low : List UInt8) :
    pointerNumber field low =
      if low.length = 4 then BigEndian.value low
      else field % 8 * 256 ^ low.length + BigEndian.value low := by
  have small : (UInt8.ofNat (field % 8)).toNat = field % 8 := by
    rw [UInt8.toNat_ofNat']
    omega
  rw [pointerNumber, BigEndian.value_cons, small]

/-- The target of a pointer is computed from its bits and bytes as the grammar says. -/
theorem pointer_eq_ok_iff {target : Nat} :
    data.pointer header = .ok (target, stop) ↔
      ∃ low : List UInt8, low.length = header.size / 8 % 4 + 1 ∧
        data.Occupies header.payload low.toByteArray stop ∧
        target = pointerNumber header.size low + data.base + Format.pointerBias low.length ∧
        target < 2 ^ 64 := by
  have number : ∀ low : List UInt8, low.length = pointerBytes header.size →
      pointerNumber header.size low =
        if pointerBytes header.size = 4 then BigEndian.value low
        else header.size % 8 * 256 ^ pointerBytes header.size + BigEndian.value low := by
    intro low length
    rw [pointerNumber_eq, length]
  rw [pointer, Except.bind_eq_ok_iff]
  constructor
  · rintro ⟨value, read, reached⟩
    obtain ⟨low, length, occupied, rfl⟩ := numeral_eq_ok_iff.mp read
    rw [← number low length, ← length] at reached
    rw [← length] at occupied
    dsimp only at reached
    split at reached
    next inside =>
        cases reached
        exact ⟨low, length, occupied, rfl, inside⟩
    next => cases reached
  · rintro ⟨low, length, occupied, rfl, inside⟩
    obtain ⟨-, rfl⟩ := occupies_iff.mp occupied
    rw [List.size_toByteArray] at occupied ⊢
    have length : low.length = pointerBytes header.size := length
    rw [length] at occupied inside ⊢
    refine ⟨BigEndian.value low, numeral_eq_ok_iff.mpr ⟨low, length, occupied, rfl⟩, ?_⟩
    rw [← number low length]
    exact if_pos inside

/-! ## Rows of items -/

/-- The items of a pair, one behind the other. -/
def PairWire (data : Section) (levels start : Nat) (pair : ByteArray × Value) (stop : Nat) : Prop :=
  ∃ middle, Wire data levels start (.string pair.1) middle ∧ Wire data levels middle pair.2 stop

theorem wireElements_iff_row {elements : List Value} :
    WireElements data levels start elements stop ↔ Row (Wire data levels) start elements stop := by
  induction elements generalizing start with
  | nil =>
      constructor
      · intro wires
        cases wires
        exact .nil _
      · intro row
        cases row
        exact .nil
  | cons element rest ih =>
      constructor
      · intro wires
        cases wires with
        | cons first others => exact .cons first (ih.mp others)
      · intro row
        cases row with
        | cons first others => exact .cons first (ih.mpr others)

theorem wirePairs_iff_row {pairs : List (ByteArray × Value)} :
    WirePairs data levels start pairs stop ↔ Row (PairWire data levels) start pairs stop := by
  induction pairs generalizing start with
  | nil =>
      constructor
      · intro wires
        cases wires
        exact .nil _
      · intro row
        cases row
        exact .nil
  | cons pair rest ih =>
      constructor
      · intro wires
        cases wires with
        | cons key value others => exact .cons ⟨_, key, value⟩ (ih.mp others)
      · intro row
        cases row with
        | cons first others =>
            obtain ⟨middle, key, value⟩ := first
            exact .cons key value (ih.mpr others)

/-! ## Items -/

section Node

variable {read : Nat → Except ReadError (Value × Nat)}

/-- An item with a payload gives the value that the payload denotes. -/
theorem decodeNode_payload_eq_ok_iff (found : data.header start = .ok header)
    (scalar : header.kind.isText = true ∨ header.kind.isNumber = true) :
    data.decodeNode read start = .ok (value, stop) ↔
      ∃ payload, payload.size = header.size ∧ data.Occupies header.payload payload stop ∧
        Denotes header.kind payload value := by
  rcases scalar with text | number
  · have notNumber : ¬header.kind.isNumber = true := by
      intro number
      cases kind : header.kind <;> simp_all [Kind.isText, Kind.isNumber, Kind.maxPayload?]
    rw [decodeNode_text found text, Except.map_eq_ok_iff]
    constructor
    · rintro ⟨⟨payload, behind⟩, read, equal⟩
      cases equal
      obtain ⟨size, occupied⟩ := content_eq_ok_iff.mp read
      exact ⟨payload, size, occupied, denotes_iff.mpr (.inl ⟨text, rfl⟩)⟩
    · rintro ⟨payload, size, occupied, denotes⟩
      obtain ⟨-, rfl⟩ | ⟨number, -⟩ := denotes_iff.mp denotes
      · exact ⟨(payload, stop), content_eq_ok_iff.mpr ⟨size, occupied⟩, rfl⟩
      · exact absurd number notNumber
  · have notText : ¬header.kind.isText = true := by
      intro text
      cases kind : header.kind <;> simp_all [Kind.isText, Kind.isNumber, Kind.maxPayload?]
    rw [decodeNode_number found number, Except.map_eq_ok_iff]
    constructor
    · rintro ⟨⟨held, behind⟩, read, equal⟩
      cases equal
      obtain ⟨allowed, payload, content, rfl⟩ := number_eq_ok_iff.mp read
      obtain ⟨size, occupied⟩ := content_eq_ok_iff.mp content
      rw [← size] at allowed
      exact ⟨payload, size, occupied, denotes_iff.mpr (.inr ⟨number, allowed, rfl⟩)⟩
    · rintro ⟨payload, size, occupied, denotes⟩
      obtain ⟨text, -⟩ | ⟨-, allowed, rfl⟩ := denotes_iff.mp denotes
      · exact absurd text notText
      · rw [size] at allowed
        have content := content_eq_ok_iff.mpr ⟨size, occupied⟩
        exact ⟨_, number_eq_ok_iff.mpr ⟨allowed, payload, content, rfl⟩, rfl⟩

/-- What is read at an item is an item of the grammar, if that holds one level below. -/
theorem wire_of_decodeNode
    (below : ∀ start value stop, read start = .ok (value, stop) →
      ∃ fewer, levels = fewer + 1 ∧ Wire data fewer start value stop)
    (decoded : data.decodeNode read start = .ok (value, stop)) :
    Wire data levels start value stop := by
  obtain ⟨header, found⟩ := exists_header_of_decodeNode decoded
  have form := header_eq_ok_iff.mp found
  rcases header.kind.eq_or_isLeaf with pointer | array | map | leaf
  · obtain ⟨target, behind, reached, pointee⟩ :=
      (decodeNode_pointer_eq_ok_iff found pointer).mp decoded
    obtain ⟨low, length, occupied, rfl, inside⟩ := pointer_eq_ok_iff.mp reached
    obtain ⟨fewer, rfl, wire⟩ := below _ _ _ pointee
    rw [pointer] at form
    exact .pointer form length occupied rfl inside wire
  · obtain ⟨elements, rfl, length, row⟩ := (decodeNode_array_eq_ok_iff found array).mp decoded
    rw [array, ← length] at form
    cases row with
    | nil => exact .emptyArray form
    | @cons _ middle _ element rest first others =>
        obtain ⟨fewer, rfl, -⟩ := below _ _ _ first
        refine .array (List.cons_ne_nil element rest) form (wireElements_iff_row.mpr ?_)
        refine Row.imp ?_ (.cons first others)
        intro start element next read
        obtain ⟨_, equal, wire⟩ := below _ _ _ read
        cases equal
        exact wire
  · obtain ⟨pairs, rfl, length, row⟩ := (decodeNode_map_eq_ok_iff found map).mp decoded
    rw [map, ← length] at form
    cases row with
    | nil => exact .emptyMap form
    | @cons _ middle _ pair rest first others =>
        obtain ⟨_, keyRead, -⟩ := entry_eq_ok_iff.mp first
        obtain ⟨fewer, rfl, -⟩ := below _ _ _ keyRead
        refine .map (List.cons_ne_nil pair rest) form (wirePairs_iff_row.mpr ?_)
          (Dictionary.collects_iff.mpr rfl)
        refine Row.imp ?_ (.cons first others)
        intro start pair next read
        obtain ⟨middle, keyRead, valueRead⟩ := entry_eq_ok_iff.mp read
        obtain ⟨_, equal, keyWire⟩ := below _ _ _ keyRead
        cases equal
        obtain ⟨_, equal, valueWire⟩ := below _ _ _ valueRead
        cases equal
        exact ⟨middle, keyWire, valueWire⟩
  · rcases Kind.eq_boolean_or_of_isLeaf leaf with boolean | scalar
    · rw [decodeNode_boolean found boolean] at decoded
      cases decoded
      rw [boolean] at form
      exact .boolean form
    · obtain ⟨payload, size, occupied, denotes⟩ :=
        (decodeNode_payload_eq_ok_iff found scalar).mp decoded
      rw [if_neg (by simp [Kind.ownsSizeBits_of_payload scalar]), ← size] at form
      exact .scalar form occupied denotes

/-- An item of the grammar is read, if those one level below it are. -/
theorem decodeNode_of_wire
    (below : ∀ fewer start value stop, levels = fewer + 1 → Wire data fewer start value stop →
      read start = .ok (value, stop))
    (wire : Wire data levels start value stop) :
    data.decodeNode read start = .ok (value, stop) := by
  cases wire with
  | boolean form => exact decodeNode_boolean (header_of_control rfl form) rfl
  | @scalar _ _ middle _ kind payload _ form occupied denotes =>
      have scalar : kind.isText = true ∨ kind.isNumber = true := by
        rcases denotes_iff.mp denotes with ⟨text, -⟩ | ⟨number, -⟩
        · exact .inl text
        · exact .inr number
      have found := header_of_opens (Kind.ownsSizeBits_of_payload scalar) form
      exact (decodeNode_payload_eq_ok_iff found scalar).mpr ⟨payload, rfl, occupied, denotes⟩
  | emptyArray form =>
      have found := header_of_opens rfl form
      exact (decodeNode_array_eq_ok_iff found rfl).mpr ⟨[], rfl, rfl, .nil stop⟩
  | @array fewer _ middle _ elements nonempty form wires =>
      have found := header_of_opens rfl form
      have row := wireElements_iff_row.mp wires
      refine (decodeNode_array_eq_ok_iff found rfl).mpr ⟨elements, rfl, rfl, row.imp ?_⟩
      intro start element next wire
      exact below fewer _ _ _ rfl wire
  | emptyMap form =>
      have found := header_of_opens rfl form
      exact (decodeNode_map_eq_ok_iff found rfl).mpr ⟨[], rfl, rfl, .nil stop⟩
  | @map fewer _ middle _ pairs entries nonempty form wires collects =>
      have found := header_of_opens rfl form
      have row := wirePairs_iff_row.mp wires
      cases Dictionary.collects_iff.mp collects
      refine (decodeNode_map_eq_ok_iff found rfl).mpr ⟨pairs, rfl, rfl, row.imp ?_⟩
      rintro start ⟨key, value⟩ next ⟨between, keyWire, valueWire⟩
      apply entry_eq_ok_iff.mpr
      exact ⟨between, below fewer _ _ _ rfl keyWire, below fewer _ _ _ rfl valueWire⟩
  | @pointer fewer _ field middle target behind _ low _ form length occupied equal inside wire =>
      have found := header_of_control rfl form
      have reached : data.pointer ⟨.pointer, field, middle⟩ = .ok (target, stop) :=
        pointer_eq_ok_iff.mpr ⟨low, length, occupied, equal, inside⟩
      have pointee := below fewer _ _ _ rfl wire
      exact (decodeNode_pointer_eq_ok_iff found rfl).mpr ⟨target, behind, reached, pointee⟩

end Node

/-- With so many levels left, reading succeeds exactly on the items of the grammar. -/
theorem decodeAt_eq_ok_iff_wire :
    data.decodeAt levels start = .ok (value, stop) ↔ Wire data levels start value stop := by
  induction levels generalizing start value stop with
  | zero =>
      constructor
      · intro decoded
        refine wire_of_decodeNode ?_ decoded
        intro start value stop impossible
        cases impossible
      · intro wire
        refine decodeNode_of_wire ?_ wire
        intro fewer start value stop impossible
        cases impossible
  | succ levels ih =>
      constructor
      · intro decoded
        refine wire_of_decodeNode ?_ decoded
        intro start value stop read
        exact ⟨levels, rfl, ih.mp read⟩
      · intro wire
        refine decodeNode_of_wire ?_ wire
        intro fewer start value stop equal below
        cases equal
        exact ih.mpr below

/-- Reading accepts exactly the grammar: it gives a value and an end if and only if an
item of that value stands between the offset and that end, within the limit. -/
theorem decode_eq_ok_iff_wire (data : Section) (start : Nat) (value : Value) (stop : Nat) :
    data.decode start = .ok (value, stop) ↔ Wire data data.limit start value stop :=
  decodeAt_eq_ok_iff_wire

end Section

end DataSection
