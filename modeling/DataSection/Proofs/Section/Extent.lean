import DataSection.Proofs.Section.Item

/-!
# The extent of items

Skipping an item finds the same end as reading it, although it looks at neither keys nor
numbers and follows no pointer.  Where no pointer is met the two also fail alike: an
error in the layout is found by both, at the same item, and what only reading refuses
is a number of a wrong size or a key that is no string.

One statement about a single item carries each half, and the levels that are left carry
the induction.
-/

namespace DataSection.Section

variable {data : Section} {levels offset next : Nat} {header : Header} {value : Value}
variable {error : ReadError} {read : Nat → Except ReadError (Value × Nat)}
variable {step : Nat → Except ReadError Nat}

/-! ## What reading comes upon -/

/-- The items directly below the one at an offset, as far as `read` gets. -/
inductive Child (data : Section) (read : Nat → Except ReadError (Value × Nat)) (offset : Nat) :
    (item : Nat) → Prop where
  | target {header : Header} {target next : Nat} :
      data.header offset = .ok header → header.kind = .pointer →
      data.pointer header = .ok (target, next) → Child data read offset target
  | element {header : Header} {elements : List Value} {start : Nat} :
      data.header offset = .ok header → header.kind = .array →
      Row (Reads read) header.payload elements start → elements.length < header.size →
      Child data read offset start
  | key {header : Header} {entries : List (ByteArray × Value)} {start : Nat} :
      data.header offset = .ok header → header.kind = .map →
      Row (Reads (entry read)) header.payload entries start → entries.length < header.size →
      Child data read offset start
  | value {header : Header} {entries : List (ByteArray × Value)} {start middle : Nat}
      {text : ByteArray} :
      data.header offset = .ok header → header.kind = .map →
      Row (Reads (entry read)) header.payload entries start → entries.length < header.size →
      read start = .ok (.string text, middle) → Child data read offset middle

/-- The items that reading from an offset comes upon, with so many levels left. -/
inductive Meets (data : Section) : (levels offset met : Nat) → Prop where
  | self (levels offset : Nat) : Meets data levels offset offset
  | inside {levels offset item met : Nat} :
      Child data (data.decodeAt levels) offset item → Meets data levels item met →
      Meets data (levels + 1) offset met

/-- Reading from an offset comes upon no pointer. -/
def PointerFree (data : Section) (levels offset : Nat) : Prop :=
  ∀ met header, data.Meets levels offset met → data.header met = .ok header →
    header.kind ≠ .pointer

theorem PointerFree.header_ne (free : data.PointerFree levels offset)
    (found : data.header offset = .ok header) : header.kind ≠ .pointer :=
  free offset header (.self levels offset) found

theorem PointerFree.child {item : Nat} (free : data.PointerFree (levels + 1) offset)
    (child : Child data (data.decodeAt levels) offset item) : data.PointerFree levels item := by
  intro met header meets found
  exact free met header (.inside child meets) found

/-! ## One item -/

theorem skipNode_of_decodeNode_leaf (found : data.header offset = .ok header)
    (leaf : header.kind.isLeaf = true)
    (decoded : data.decodeNode read offset = .ok (value, next)) :
    data.skipNode step offset = .ok next := by
  rcases Kind.eq_boolean_or_of_isLeaf leaf with boolean | text | number
  · rw [decodeNode_boolean found boolean] at decoded
    cases decoded
    exact skipNode_boolean found boolean
  · rw [decodeNode_text found text, Except.map_eq_ok_iff] at decoded
    obtain ⟨result, content, equal⟩ := decoded
    cases equal
    rw [skipNode_content found (.inl text), content]
    rfl
  · rw [decodeNode_number found number, Except.map_eq_ok_iff] at decoded
    obtain ⟨⟨held, behind⟩, numeral, equal⟩ := decoded
    cases equal
    obtain ⟨-, bytes, content, -⟩ := number_eq_ok_iff.mp numeral
    rw [skipNode_content found (.inr number), content]
    rfl

/-- If skipping agrees with reading below an item, it agrees at the item. -/
theorem skipNode_of_decodeNode
    (agree : ∀ start value next, read start = .ok (value, next) → step start = .ok next)
    (decoded : data.decodeNode read offset = .ok (value, next)) :
    data.skipNode step offset = .ok next := by
  obtain ⟨header, found⟩ := exists_header_of_decodeNode decoded
  rcases header.kind.eq_or_isLeaf with pointer | array | map | leaf
  · obtain ⟨target, stop, reached, -⟩ := (decodeNode_pointer_eq_ok_iff found pointer).mp decoded
    rw [skipNode_pointer found pointer, reached]
    rfl
  · obtain ⟨elements, -, length, row⟩ := (decodeNode_array_eq_ok_iff found array).mp decoded
    rw [skipNode_array found array, ← length]
    exact row.advance agree
  · obtain ⟨entries, -, length, row⟩ := (decodeNode_map_eq_ok_iff found map).mp decoded
    rw [skipNode_map found map, ← length]
    exact row.advance_entries agree
  · exact skipNode_of_decodeNode_leaf found leaf decoded

theorem skipNode_eq_error_of_leaf (found : data.header offset = .ok header)
    (leaf : header.kind.isLeaf = true) (structural : error.isStructural = true)
    (failed : data.decodeNode read offset = .error error) :
    data.skipNode step offset = .error error := by
  rcases Kind.eq_boolean_or_of_isLeaf leaf with boolean | text | number
  · rw [decodeNode_boolean found boolean] at failed
    cases failed
  · rw [decodeNode_text found text, Except.map_eq_error_iff] at failed
    rw [skipNode_content found (.inl text), Except.map_eq_error_iff]
    exact failed
  · rw [decodeNode_number found number, Except.map_eq_error_iff] at failed
    rw [skipNode_content found (.inr number), Except.map_eq_error_iff]
    rcases number_eq_error_iff.mp failed with ⟨-, rfl⟩ | ⟨-, content⟩
    · cases structural
    · exact content

/-- If skipping agrees with reading below an item and finds each error in the layout that
reading finds there, it finds those at the item.  A pointer is left out because reading
it goes on where it leads. -/
theorem skipNode_eq_error
    (agree : ∀ start value next, read start = .ok (value, next) → step start = .ok next)
    (fail : ∀ item, Child data read offset item → ∀ error : ReadError,
      error.isStructural = true → read item = .error error → step item = .error error)
    (noPointer : ∀ header, data.header offset = .ok header → header.kind ≠ .pointer)
    (structural : error.isStructural = true)
    (failed : data.decodeNode read offset = .error error) :
    data.skipNode step offset = .error error := by
  cases found : data.header offset with
  | error _ =>
      rw [decodeNode_of_header_error found] at failed
      cases failed
      exact skipNode_of_header_error found
  | ok header =>
      rcases header.kind.eq_or_isLeaf with pointer | array | map | leaf
      · exact absurd pointer (noPointer header found)
      · obtain ⟨elements, start, shorter, row, last⟩ :=
          (decodeNode_array_eq_error_iff found array).mp failed
        have child : Child data read offset start := .element found array row shorter
        rw [skipNode_array found array]
        exact advance_eq_error (row.advance agree) (fail start child error structural last) shorter
      · obtain ⟨entries, start, shorter, row, last⟩ :=
          (decodeNode_map_eq_error_iff found map).mp failed
        rw [skipNode_map found map]
        have before := row.advance_entries agree
        -- The entry breaks off at its key or at its value; a key that is no string is
        -- not an error in the layout.
        rcases entry_eq_error_iff.mp last with last | ⟨text, middle, keyRead, last⟩
        · rcases key_eq_error_iff.mp last with last | ⟨other, behind, -, -, rfl⟩
          · have child : Child data read offset start := .key found map row shorter
            exact advance_eq_error before (fail start child error structural last) (by omega)
          · cases structural
        · have stringRead := key_eq_ok_iff.mp keyRead
          have child : Child data read offset middle := .value found map row shorter stringRead
          have behindKey : advance step (2 * entries.length + 1) header.payload = .ok middle := by
            rw [advance_add, before]
            simp only [advance, agree _ _ _ stringRead]
          exact advance_eq_error behindKey (fail middle child error structural last) (by omega)
      · exact skipNode_eq_error_of_leaf found leaf structural failed

/-- Reading an item never fails because of a text, if nothing below does. -/
theorem decodeNode_isOfReading
    (below : ∀ start error, read start = .error error → error.isOfReading = true)
    (failed : data.decodeNode read offset = .error error) : error.isOfReading = true := by
  cases found : data.header offset with
  | error _ =>
      rw [decodeNode_of_header_error found] at failed
      cases failed
      exact ReadError.isOfReading_of_isStructural (header_isStructural found)
  | ok header =>
      rcases header.kind.eq_or_isLeaf with pointer | array | map | leaf
      · rw [decodeNode_pointer found pointer] at failed
        cases reached : data.pointer header with
        | error _ =>
            rw [reached] at failed
            cases failed
            exact ReadError.isOfReading_of_isStructural (pointer_isStructural reached)
        | ok result =>
            simp only [reached, Except.map_eq_error_iff] at failed
            exact below result.1 error failed
      · obtain ⟨elements, start, -, -, last⟩ :=
          (decodeNode_array_eq_error_iff found array).mp failed
        exact below start error last
      · obtain ⟨entries, start, -, -, last⟩ := (decodeNode_map_eq_error_iff found map).mp failed
        rcases entry_eq_error_iff.mp last with last | ⟨text, middle, -, last⟩
        · rcases key_eq_error_iff.mp last with last | ⟨other, behind, -, -, rfl⟩
          · exact below start error last
          · rfl
        · exact below middle error last
      · rcases Kind.eq_boolean_or_of_isLeaf leaf with boolean | text | number
        · rw [decodeNode_boolean found boolean] at failed
          cases failed
        · rw [decodeNode_text found text, Except.map_eq_error_iff] at failed
          exact ReadError.isOfReading_of_isStructural (content_isStructural failed)
        · rw [decodeNode_number found number, Except.map_eq_error_iff] at failed
          rcases number_eq_error_iff.mp failed with ⟨-, rfl⟩ | ⟨-, content⟩
          · rfl
          · exact ReadError.isOfReading_of_isStructural (content_isStructural content)

/-! ## All levels -/

/-- Where reading succeeds, skipping ends at the same offset. -/
theorem skipAt_of_decodeAt (decoded : data.decodeAt levels offset = .ok (value, next)) :
    data.skipAt levels offset = .ok next := by
  induction levels generalizing offset value next with
  | zero =>
      refine skipNode_of_decodeNode ?_ decoded
      intro start value next impossible
      cases impossible
  | succ levels ih =>
      refine skipNode_of_decodeNode ?_ decoded
      intro start value next read
      exact ih read

/-- Where reading meets no pointer, skipping finds the same errors in the layout. -/
theorem skipAt_eq_error (free : data.PointerFree levels offset)
    (structural : error.isStructural = true)
    (failed : data.decodeAt levels offset = .error error) :
    data.skipAt levels offset = .error error := by
  induction levels generalizing offset error with
  | zero =>
      refine skipNode_eq_error ?_ ?_ (fun _ => free.header_ne) structural failed
      · intro start value next impossible
        cases impossible
      · intro item child error structural tooDeep
        cases tooDeep
        rfl
  | succ levels ih =>
      refine skipNode_eq_error ?_ ?_ (fun _ => free.header_ne) structural failed
      · intro start value next decoded
        exact skipAt_of_decodeAt decoded
      · intro item child error structural failed
        exact ih (free.child child) structural failed

theorem decodeAt_isOfReading (failed : data.decodeAt levels offset = .error error) :
    error.isOfReading = true := by
  induction levels generalizing offset error with
  | zero =>
      refine decodeNode_isOfReading ?_ failed
      intro start error tooDeep
      cases tooDeep
      rfl
  | succ levels ih =>
      refine decodeNode_isOfReading ?_ failed
      intro start error failed
      exact ih failed

/-- Skipping agrees with reading.  What reading finds, skipping passes over, pointers
included.  Where reading meets no pointer, both find the same errors in the layout, and
what skipping passes over reading refuses only for the size of a number or for a key. -/
theorem skip_agrees_with_decode (data : Section) (offset : Nat) :
    (∀ value next, data.decode offset = .ok (value, next) → data.skip offset = .ok next) ∧
      (data.PointerFree data.limit offset →
        (∀ error : ReadError, error.isStructural = true →
          data.decode offset = .error error → data.skip offset = .error error) ∧
        ∀ next, data.skip offset = .ok next →
          (∃ value, data.decode offset = .ok (value, next)) ∨
            (∃ kind size payload, data.decode offset = .error (.invalidSize kind size payload)) ∨
            ∃ start found, data.decode offset = .error (.invalidKey start found)) := by
  refine ⟨fun value next => skipAt_of_decodeAt, fun free => ⟨?_, ?_⟩⟩
  · intro error structural failed
    exact skipAt_eq_error free structural failed
  · intro next skipped
    cases decoded : data.decode offset with
    | ok result =>
        obtain ⟨value, stop⟩ := result
        have same : data.skip offset = .ok stop := skipAt_of_decodeAt decoded
        cases skipped.symm.trans same
        exact .inl ⟨value, rfl⟩
    | error error =>
        have notStructural : error.isStructural ≠ true := by
          intro structural
          have same : data.skip offset = .error error := skipAt_eq_error free structural decoded
          cases skipped.symm.trans same
        have ofReading := decodeAt_isOfReading decoded
        cases error with
        | invalidSize kind size payload => exact .inr (.inl ⟨kind, size, payload, rfl⟩)
        | invalidKey start found => exact .inr (.inr ⟨start, found, rfl⟩)
        | illFormedText _ => cases ofReading
        | _ => exact absurd rfl notStructural

/-- An array of two strings of which the second is missing. -/
def cutArray : Section :=
  { bytes := ⟨#[0x02, 0x04, 0x40]⟩, limit := 1 }

theorem skip_cutArray :
    cutArray.PointerFree 1 0 ∧ cutArray.decode 0 = .error (.outOfBounds 3 1 3) ∧
      cutArray.skip 0 = .error (.outOfBounds 3 1 3) := by
  have outer : cutArray.header 0 = .ok ⟨.array, 2, 2⟩ := rfl
  have inner : cutArray.header 2 = .ok ⟨.string, 0, 3⟩ := rfl
  have free : cutArray.PointerFree 1 0 := by
    intro met header meets found
    cases meets with
    | self =>
        cases outer.symm.trans found
        decide
    | inside child below =>
        cases below
        cases child with
        | target root kind _ =>
            cases outer.symm.trans root
            cases kind
        | key root kind _ _ =>
            cases outer.symm.trans root
            cases kind
        | value root kind _ _ _ =>
            cases outer.symm.trans root
            cases kind
        | element root _ row shorter =>
            cases outer.symm.trans root
            cases row with
            | nil =>
                cases inner.symm.trans found
                decide
            | cons first rest =>
                cases first
                cases rest with
                | nil => cases found
                | cons second _ => cases second
  have failed : cutArray.decode 0 = .error (.outOfBounds 3 1 3) := rfl
  exact ⟨free, failed, ((skip_agrees_with_decode cutArray 0).2 free).1 _ rfl failed⟩

end DataSection.Section
