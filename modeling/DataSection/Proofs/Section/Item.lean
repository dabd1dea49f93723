import DataSection.Proofs.Section.Row
import DataSection.Value.Path

/-!
# Single items

`decodeNode` and `skipNode` treat an item by its kind, and there are only four ways:
a pointer, an array, a map, or a leaf below which nothing is read.  Leaves are booleans,
byte strings and numbers, and all numbers are read alike.

This module states what each of the two does once for each way.  Later proofs split an
item by `Kind.eq_or_isLeaf` and use these statements instead of the definitions.
-/

namespace DataSection

namespace Kind

/-- Whether an item of the kind has no items below it and leads to none. -/
def isLeaf : Kind → Bool
  | pointer | array | map => false
  | _ => true

/-- Whether the payload of the kind is kept as it is. -/
def isText : Kind → Bool
  | string | bytes => true
  | _ => false

/-- Whether the payload of the kind is a numeral. -/
def isNumber (kind : Kind) : Bool :=
  kind.maxPayload?.isSome

/-- Whether the payload of the kind is a numeral of any length up to its largest. -/
def isInteger : Kind → Bool
  | uint16 | uint32 | uint64 | uint128 | int32 => true
  | _ => false

theorem eq_or_isLeaf (kind : Kind) :
    kind = pointer ∨ kind = array ∨ kind = map ∨ kind.isLeaf = true := by
  cases kind <;> simp [isLeaf]

theorem eq_boolean_or_of_isLeaf {kind : Kind} (leaf : kind.isLeaf = true) :
    kind = boolean ∨ kind.isText = true ∨ kind.isNumber = true := by
  cases kind <;> simp_all [isLeaf, isText, isNumber, maxPayload?]

/-- A kind with a payload has its size in the size bits. -/
theorem ownsSizeBits_of_payload {kind : Kind}
    (payload : kind.isText = true ∨ kind.isNumber = true) : kind.ownsSizeBits = false := by
  cases kind <;> simp_all [isText, isNumber, maxPayload?, ownsSizeBits]

end Kind

namespace Value

/-- The value of a kind whose payload is kept as it is. -/
def ofText (kind : Kind) (content : ByteArray) : Value :=
  if kind = .string then .string content else .bytes content

/-- The value of a kind whose payload is a numeral.  What does not fit is cut off, but
`Kind.allowsSize` leaves no such payload. -/
def ofNumber (kind : Kind) (number : Nat) : Value :=
  match kind with
  | .double => .double (UInt64.ofNat number)
  | .float => .float (UInt32.ofNat number)
  | .uint16 => .uint16 (UInt16.ofNat number)
  | .uint32 => .uint32 (UInt32.ofNat number)
  | .uint64 => .uint64 (UInt64.ofNat number)
  | .uint128 => .uint128 (BitVec.ofNat 128 number)
  | _ => .int32 (UInt32.ofNat number).toInt32

theorem step?_boolean (flag : Bool) (step : Step) : (boolean flag).step? step = none := by
  cases step <;> rfl

theorem step?_ofText (kind : Kind) (content : ByteArray) (step : Step) :
    (ofText kind content).step? step = none := by
  unfold ofText
  split <;> cases step <;> rfl

theorem step?_ofNumber (kind : Kind) (number : Nat) (step : Step) :
    (ofNumber kind number).step? step = none := by
  unfold ofNumber
  split <;> cases step <;> rfl

theorem kind_ofText {kind : Kind} (text : kind.isText = true) (content : ByteArray) :
    (ofText kind content).kind = kind := by
  cases kind <;> first | rfl | cases text

theorem kind_ofNumber {kind : Kind} (isNumber : kind.isNumber = true) (number : Nat) :
    (ofNumber kind number).kind = kind := by
  cases kind <;> first | rfl | cases isNumber

end Value

/-- Whether an error lies in how items are laid out.  The other errors lie in what an
item holds, which only reading looks at. -/
def ReadError.isStructural : ReadError → Bool
  | .unknownKind _ _ | .outOfBounds _ _ _ | .tooDeep _ => true
  | _ => false

/-- Whether reading an item can fail with the error.  Text is never looked into. -/
def ReadError.isOfReading : ReadError → Bool
  | .illFormedText _ => false
  | _ => true

theorem ReadError.isOfReading_of_isStructural {error : ReadError}
    (structural : error.isStructural = true) : error.isOfReading = true := by
  cases error <;> first | rfl | cases structural

namespace Section

variable {data : Section} {offset next : Nat} {header : Header} {value : Value}
variable {error : ReadError}

/-! ## Levels -/

/-- What happens one level below: what `below` does with one level less, or an error if
there is none left. -/
def descend {α : Type} (data : Section) (below : (levels offset : Nat) → Except ReadError α) :
    (levels offset : Nat) → Except ReadError α
  | 0, _ => .error (.tooDeep data.limit)
  | levels + 1, offset => below levels offset

@[simp] theorem descend_zero {α : Type} (below : Nat → Nat → Except ReadError α) (offset : Nat) :
    data.descend below 0 offset = .error (.tooDeep data.limit) := rfl

@[simp] theorem descend_succ {α : Type} (below : Nat → Nat → Except ReadError α)
    (levels offset : Nat) : data.descend below (levels + 1) offset = below levels offset := rfl

theorem decodeAt_eq_decodeNode (levels offset : Nat) :
    data.decodeAt levels offset =
      data.decodeNode (data.descend data.decodeAt levels) offset := by
  cases levels <;> rfl

theorem skipAt_eq_skipNode (levels offset : Nat) :
    data.skipAt levels offset = data.skipNode (data.descend data.skipAt levels) offset := by
  cases levels <;> rfl

/-! ## Errors in the layout -/

theorem byteAt_isStructural (failed : data.byteAt offset = .error error) :
    error.isStructural = true := by
  obtain ⟨-, rfl⟩ := byteAt_eq_error_iff.mp failed
  rfl

theorem numeral_isStructural {length : Nat} (failed : data.numeral offset length = .error error) :
    error.isStructural = true := by
  obtain ⟨-, rfl⟩ := numeral_eq_error_iff.mp failed
  rfl

theorem kindCode_isStructural {control : UInt8}
    (failed : data.kindCode control offset = .error error) : error.isStructural = true := by
  unfold kindCode at failed
  split at failed
  · rcases Except.bind_eq_error_iff.mp failed with failed | ⟨extension, -, impossible⟩
    · exact byteAt_isStructural failed
    · cases impossible
  · cases failed

theorem sizeField_isStructural {field : Nat}
    (failed : data.sizeField field offset = .error error) : error.isStructural = true := by
  unfold sizeField at failed
  split at failed
  · cases failed
  · rcases Except.bind_eq_error_iff.mp failed with failed | ⟨number, -, impossible⟩
    · exact numeral_isStructural failed
    · cases impossible

/-- A header is incomplete, or names no kind. -/
theorem header_isStructural (failed : data.header offset = .error error) :
    error.isStructural = true := by
  unfold Section.header at failed
  rcases Except.bind_eq_error_iff.mp failed with failed | ⟨control, -, failed⟩
  · exact byteAt_isStructural failed
  rcases Except.bind_eq_error_iff.mp failed with failed | ⟨⟨code, behind⟩, -, failed⟩
  · exact kindCode_isStructural failed
  cases known : Kind.ofCode? code with
  | none =>
      simp only [known] at failed
      cases failed
      rfl
  | some kind =>
      simp only [known] at failed
      split at failed
      · cases failed
      · rcases Except.bind_eq_error_iff.mp failed with failed | ⟨size, -, impossible⟩
        · exact sizeField_isStructural failed
        · cases impossible

theorem pointer_isStructural (failed : data.pointer header = .error error) :
    error.isStructural = true := by
  unfold pointer at failed
  rcases Except.bind_eq_error_iff.mp failed with failed | ⟨low, -, failed⟩
  · exact numeral_isStructural failed
  · generalize (if pointerBytes header.size = 4 then low else _) = number at failed
    dsimp only at failed
    split at failed
    · cases failed
    · cases failed
      rfl

theorem content_isStructural (failed : data.content header = .error error) :
    error.isStructural = true := by
  unfold content at failed
  rcases Except.bind_eq_error_iff.mp failed with failed | ⟨bytes, -, impossible⟩
  · obtain ⟨-, rfl⟩ := slice_eq_error_iff.mp failed
    rfl
  · cases impossible

/-! ## Reading an item -/

section Decode

variable {read : Nat → Except ReadError (Value × Nat)}

theorem decodeNode_of_header_error (failed : data.header offset = .error error) :
    data.decodeNode read offset = .error error := by
  simp only [decodeNode, failed, bind, Except.bind]

theorem exists_header_of_decodeNode (decoded : data.decodeNode read offset = .ok (value, next)) :
    ∃ header, data.header offset = .ok header := by
  cases found : data.header offset with
  | error _ =>
      rw [decodeNode_of_header_error found] at decoded
      cases decoded
  | ok header => exact ⟨header, rfl⟩

theorem decodeNode_pointer (found : data.header offset = .ok header)
    (kind : header.kind = .pointer) :
    data.decodeNode read offset =
      match data.pointer header with
      | .error error => .error error
      | .ok (target, next) => (read target).map fun result => (result.1, next) := by
  simp only [decodeNode, found, kind, bind, Except.bind]
  cases data.pointer header with
  | error _ => rfl
  | ok reached =>
      obtain ⟨target, next⟩ := reached
      cases read target <;> rfl

theorem decodeNode_array (found : data.header offset = .ok header)
    (kind : header.kind = .array) :
    data.decodeNode read offset =
      (collect read header.size header.payload []).map fun result =>
        (.array result.1, result.2) := by
  simp only [decodeNode, found, kind, bind, Except.bind]
  cases collect read header.size header.payload [] <;> rfl

theorem decodeNode_map (found : data.header offset = .ok header) (kind : header.kind = .map) :
    data.decodeNode read offset =
      (collect (entry read) header.size header.payload []).map fun result =>
        (.map (Dictionary.ofList result.1), result.2) := by
  simp only [decodeNode, found, kind, bind, Except.bind]
  cases collect (entry read) header.size header.payload [] <;> rfl

/-- A pointer gives the value it leads to, and ends where the pointer itself ends. -/
theorem decodeNode_pointer_eq_ok_iff (found : data.header offset = .ok header)
    (kind : header.kind = .pointer) :
    data.decodeNode read offset = .ok (value, next) ↔
      ∃ target stop, data.pointer header = .ok (target, next) ∧
        read target = .ok (value, stop) := by
  rw [decodeNode_pointer found kind]
  cases reached : data.pointer header with
  | error _ => simp
  | ok result =>
      obtain ⟨target, next⟩ := result
      cases pointee : read target <;> simp only [Except.map] <;> grind

theorem decodeNode_array_eq_ok_iff (found : data.header offset = .ok header)
    (kind : header.kind = .array) :
    data.decodeNode read offset = .ok (value, next) ↔
      ∃ elements, value = .array elements ∧ elements.length = header.size ∧
        Row (Reads read) header.payload elements next := by
  rw [decodeNode_array found kind]
  simp only [← collect_eq_ok_iff]
  cases collect read header.size header.payload [] <;> simp only [Except.map] <;> grind

theorem decodeNode_map_eq_ok_iff (found : data.header offset = .ok header)
    (kind : header.kind = .map) :
    data.decodeNode read offset = .ok (value, next) ↔
      ∃ entries, value = .map (Dictionary.ofList entries) ∧ entries.length = header.size ∧
        Row (Reads (entry read)) header.payload entries next := by
  rw [decodeNode_map found kind]
  simp only [← collect_eq_ok_iff]
  cases collect (entry read) header.size header.payload [] <;> simp only [Except.map] <;> grind

theorem decodeNode_array_eq_error_iff (found : data.header offset = .ok header)
    (kind : header.kind = .array) :
    data.decodeNode read offset = .error error ↔
      ∃ elements stop, elements.length < header.size ∧
        Row (Reads read) header.payload elements stop ∧ read stop = .error error := by
  rw [decodeNode_array found kind, ← collect_eq_error_iff]
  cases collect read header.size header.payload [] <;> simp [Except.map]

theorem decodeNode_map_eq_error_iff (found : data.header offset = .ok header)
    (kind : header.kind = .map) :
    data.decodeNode read offset = .error error ↔
      ∃ entries stop, entries.length < header.size ∧
        Row (Reads (entry read)) header.payload entries stop ∧ entry read stop = .error error := by
  rw [decodeNode_map found kind, ← collect_eq_error_iff]
  cases collect (entry read) header.size header.payload [] <;> simp [Except.map]

theorem decodeNode_boolean (found : data.header offset = .ok header)
    (kind : header.kind = .boolean) :
    data.decodeNode read offset = .ok (.boolean (header.size != 0), header.payload) := by
  simp only [decodeNode, found, kind, bind, Except.bind, pure, Except.pure]

theorem decodeNode_text (found : data.header offset = .ok header)
    (text : header.kind.isText = true) :
    data.decodeNode read offset =
      (data.content header).map fun result => (.ofText header.kind result.1, result.2) := by
  simp only [decodeNode, found, bind, Except.bind]
  cases kind : header.kind <;> simp only [kind, Kind.isText, Bool.false_eq_true] at text ⊢ <;>
    cases data.content header <;> rfl

theorem decodeNode_number (found : data.header offset = .ok header)
    (number : header.kind.isNumber = true) :
    data.decodeNode read offset =
      (data.number header).map fun result => (.ofNumber header.kind result.1, result.2) := by
  simp only [decodeNode, found, bind, Except.bind]
  cases kind : header.kind <;>
    simp only [kind, Kind.isNumber, Kind.maxPayload?, Option.isSome, Bool.false_eq_true]
      at number ⊢ <;>
    cases data.number header <;> rfl

/-- The number in a payload is read from its bytes, unless the size is refused. -/
theorem number_eq (data : Section) (header : Header) :
    data.number header =
      if header.kind.allowsSize header.size then
        (data.content header).map fun result =>
          (BigEndian.value result.1.data.toList, result.2)
      else
        .error (.invalidSize header.kind header.size header.payload) := by
  simp only [number, content, numeral, bind, Except.bind, pure, Except.pure]
  cases data.slice header.payload header.size <;> rfl

theorem number_eq_ok_iff {number : Nat} :
    data.number header = .ok (number, next) ↔
      header.kind.allowsSize header.size = true ∧
        ∃ content, data.content header = .ok (content, next) ∧
          number = BigEndian.value content.data.toList := by
  rw [number_eq]
  cases header.kind.allowsSize header.size with
  | true => simp [@eq_comm _ number]
  | false => simp

/-- Reading a number fails because of its size, or as reading its bytes does. -/
theorem number_eq_error_iff :
    data.number header = .error error ↔
      header.kind.allowsSize header.size = false ∧
          error = .invalidSize header.kind header.size header.payload ∨
        header.kind.allowsSize header.size = true ∧ data.content header = .error error := by
  rw [number_eq]
  cases header.kind.allowsSize header.size with
  | true => simp
  | false => simp [@eq_comm _ error]

/-- A leaf holds nothing to which a step could lead. -/
theorem step?_of_decodeNode_leaf (found : data.header offset = .ok header)
    (leaf : header.kind.isLeaf = true) (decoded : data.decodeNode read offset = .ok (value, next))
    (step : Step) : value.step? step = none := by
  rcases Kind.eq_boolean_or_of_isLeaf leaf with boolean | text | number
  · rw [decodeNode_boolean found boolean, Except.ok.injEq, Prod.mk.injEq] at decoded
    exact decoded.1 ▸ Value.step?_boolean _ step
  · rw [decodeNode_text found text, Except.map_eq_ok_iff] at decoded
    obtain ⟨result, -, equal⟩ := decoded
    exact (Prod.mk.inj equal).1 ▸ Value.step?_ofText _ _ step
  · rw [decodeNode_number found number, Except.map_eq_ok_iff] at decoded
    obtain ⟨result, -, equal⟩ := decoded
    exact (Prod.mk.inj equal).1 ▸ Value.step?_ofNumber _ _ step

/-- A value is of the kind of its item, unless the item is a pointer to it. -/
theorem kind_of_decodeNode (found : data.header offset = .ok header)
    (noPointer : header.kind ≠ .pointer)
    (decoded : data.decodeNode read offset = .ok (value, next)) : value.kind = header.kind := by
  rcases header.kind.eq_or_isLeaf with pointer | array | map | leaf
  · exact absurd pointer noPointer
  · obtain ⟨elements, rfl, -⟩ := (decodeNode_array_eq_ok_iff found array).mp decoded
    exact array.symm
  · obtain ⟨entries, rfl, -⟩ := (decodeNode_map_eq_ok_iff found map).mp decoded
    exact map.symm
  · rcases Kind.eq_boolean_or_of_isLeaf leaf with boolean | text | number
    · rw [decodeNode_boolean found boolean] at decoded
      cases decoded
      exact boolean.symm
    · rw [decodeNode_text found text, Except.map_eq_ok_iff] at decoded
      obtain ⟨result, -, equal⟩ := decoded
      cases equal
      exact Value.kind_ofText text _
    · rw [decodeNode_number found number, Except.map_eq_ok_iff] at decoded
      obtain ⟨result, -, equal⟩ := decoded
      cases equal
      exact Value.kind_ofNumber number _

end Decode

/-! ## Skipping an item -/

section Skip

variable {step : Nat → Except ReadError Nat}

theorem skipNode_of_header_error (failed : data.header offset = .error error) :
    data.skipNode step offset = .error error := by
  simp only [skipNode, failed, bind, Except.bind]

theorem skipNode_pointer (found : data.header offset = .ok header)
    (kind : header.kind = .pointer) :
    data.skipNode step offset = (data.pointer header).map Prod.snd := by
  simp only [skipNode, found, kind, bind, Except.bind]
  cases data.pointer header <;> rfl

theorem skipNode_array (found : data.header offset = .ok header)
    (kind : header.kind = .array) :
    data.skipNode step offset = advance step header.size header.payload := by
  simp only [skipNode, found, kind, bind, Except.bind]

theorem skipNode_map (found : data.header offset = .ok header) (kind : header.kind = .map) :
    data.skipNode step offset = advance step (2 * header.size) header.payload := by
  simp only [skipNode, found, kind, bind, Except.bind]

theorem skipNode_boolean (found : data.header offset = .ok header)
    (kind : header.kind = .boolean) : data.skipNode step offset = .ok header.payload := by
  simp only [skipNode, found, kind, bind, Except.bind, pure, Except.pure]

theorem skipNode_content (found : data.header offset = .ok header)
    (content : header.kind.isText = true ∨ header.kind.isNumber = true) :
    data.skipNode step offset = (data.content header).map Prod.snd := by
  simp only [skipNode, found, bind, Except.bind]
  cases kind : header.kind <;>
    simp only [kind, Kind.isText, Kind.isNumber, Kind.maxPayload?, Option.isSome,
      Bool.false_eq_true, or_self] at content ⊢ <;>
    cases data.content header <;> rfl

end Skip

end Section

end DataSection
