import DataSection.Proofs.Encoding.WriteBack
import DataSection.Proofs.Section.Lookup
import DataSection.Proofs.Text.Numeral

/-!
# Paths of steps and paths of texts

A step says whether it is a key or a position.  A text does not, and means the one where a
walk stands on a map and the other where it stands on an array.  So every path of steps can
be written as texts, and what texts mean is settled step by step along a value.

The main statement is that a lookup in the bytes, which takes steps, and a walk through the
value that was read from them, which takes texts, find the same.
-/

namespace DataSection

/-! ## Steps as texts -/

/-- The text of a step: the key itself, or the decimal numeral of the position. -/
def Step.text : Step → String
  | .key text => text
  | .index position => toString position

/-- A machine word holds every position of the path. -/
def Path.FitsWords (path : Path) : Prop :=
  ∀ position, Step.index position ∈ path → position < Format.offsetRange

namespace Value

variable {value next held : Value} {step : Step} {path : Path} {texts : List String}

/-- Where a step leads somewhere, its text means the step. -/
theorem readStep?_text (led : value.step? step = some next)
    (fits : ∀ position, step = .index position → position < Format.offsetRange) :
    value.readStep? step.text = some step := by
  cases step with
  | key text =>
      cases value with
      | map entries => rfl
      | _ => cases led
  | index position =>
      cases value with
      | array elements =>
          have named := Text.names_toString (fits position rfl)
          rw [Step.text, readStep?, Text.position?_eq_some_iff.mpr named]
          rfl
      | _ => cases led

/-- A walk along steps is one along their texts. -/
theorem getPath_map_text (walked : value.walk path = some held) (fits : Path.FitsWords path) :
    value.getPath (path.map Step.text) = some held := by
  induction path generalizing value with
  | nil => exact walked
  | cons step path ih =>
      obtain ⟨next, led, walked⟩ := Option.bind_eq_some_iff.mp (walk_cons value step path ▸ walked)
      have meant := readStep?_text led fun position equal => fits position (by simp [equal])
      have rest := ih walked fun position member => fits position (List.mem_cons_of_mem _ member)
      rw [List.map_cons, getPath, meant, Option.bind_some, led]
      exact rest

/-- A walk along texts is one along the steps that they mean. -/
theorem exists_readPath?_of_getPath (walked : value.getPath texts = some held) :
    ∃ path, value.readPath? texts = some path ∧ value.walk path = some held := by
  induction texts generalizing value with
  | nil => exact ⟨[], rfl, walked⟩
  | cons text texts ih =>
      rw [getPath] at walked
      cases led : (value.readStep? text).bind value.step? with
      | none =>
          rw [led] at walked
          cases walked
      | some next =>
          rw [led] at walked
          obtain ⟨step, meant, led⟩ := Option.bind_eq_some_iff.mp led
          obtain ⟨path, read, walked⟩ := ih walked
          refine ⟨step :: path, ?_, ?_⟩
          · simp only [readPath?, meant, led, read, Option.map_some]
          · rw [walk_cons, led]
            exact walked

end Value

/-! ## Steps in the bytes -/

namespace Section

variable {data : Section} {offset next : Nat} {value held : Value} {path : Path}

/-- A lookup finds what a walk finds, and nothing else. -/
theorem lookup_eq_some_iff_walk (decoded : data.decode offset = .ok (value, next)) :
    data.lookup offset path = .ok (some held) ↔ value.walk path = some held := by
  cases walked : value.walk path with
  | none =>
      obtain ⟨-, -, -, -, left, -, -, -, -, -, -, -, -, outcome⟩ :=
        exists_last_step decoded walked
      rw [lookup, outcome]
      split <;> simp
  | some found =>
      obtain ⟨left, item, header, route, -, -, stop, read⟩ := exists_route_of_walk decoded walked
      have along := route.lookupAt_append []
      rw [List.append_nil] at along
      rw [lookup, along, lookupAt, read]
      simp

/-- A lookup along steps and a walk along texts agree.  What a lookup finds in an item that can
be read, a walk through its value finds along the texts of the steps.  What a walk through a
value finds along texts, a lookup in its encoding finds along the steps that they mean.  There
a text names a position if it is a decimal numeral, perhaps behind one plus sign, for a number
that a machine word holds. -/
theorem getPath_agrees_with_lookup :
    (∀ (data : Section) (offset next : Nat) (path : Path) (value held : Value),
      path.FitsWords → data.decode offset = .ok (value, next) →
        data.lookup offset path = .ok (some held) →
          value.getPath (path.map Step.text) = some held) ∧
      (∀ (value held : Value) (encoding : ByteArray) (base limit : Nat) (texts : List String),
        value.WellFormed → value.depth ≤ limit → value.encode = .ok encoding →
          value.getPath texts = some held →
            ∃ path, value.readPath? texts = some path ∧
              Section.lookup ⟨encoding, base, limit⟩ 0 path = .ok (some held)) ∧
      ∀ text position, Text.position? text = some position ↔ Text.Names text position := by
  refine ⟨?_, ?_, fun text position => Text.position?_eq_some_iff⟩
  · intro data offset next path value held fits decoded found
    exact Value.getPath_map_text ((lookup_eq_some_iff_walk decoded).mp found) fits
  · intro value held encoding base limit texts wellFormed shallow encoded walked
    have readable : value.IsReadable limit :=
      ⟨wellFormed, shallow, Value.exists_encode_iff.mp ⟨encoding, encoded⟩⟩
    obtain ⟨path, read, walked⟩ := Value.exists_readPath?_of_getPath walked
    exact ⟨path, read,
      (lookup_eq_some_iff_walk (decode_encoding readable encoded base)).mpr walked⟩

/-- A map with an array of two numbers. -/
def numbersUnderKey : Value :=
  .map ⟨[("a".toUTF8, .array [.uint16 7, .uint16 8])]⟩

theorem getPath_numbersUnderKey :
    let encoding : ByteArray := ⟨#[0xE1, 0x41, 0x61, 0x02, 0x04, 0xA1, 0x07, 0xA1, 0x08]⟩
    let data : Section := ⟨encoding, 0, 2⟩
    let path : Path := [.key "a", .index 1]
    path.FitsWords ∧ data.decode 0 = .ok (numbersUnderKey, 9) ∧
      data.lookup 0 path = .ok (some (.uint16 8)) ∧
      numbersUnderKey.getPath ["a", "1"] = some (.uint16 8) ∧
      numbersUnderKey.WellFormed ∧ numbersUnderKey.depth ≤ 2 ∧
      numbersUnderKey.encode = .ok encoding ∧
      numbersUnderKey.getPath ["a", "+01"] = some (.uint16 8) ∧
      ∃ meant, numbersUnderKey.readPath? ["a", "+01"] = some meant ∧
        data.lookup 0 meant = .ok (some (.uint16 8)) := by
  intro encoding data path
  obtain ⟨texts, steps, -⟩ := getPath_agrees_with_lookup
  have fits : path.FitsWords := by
    intro position member
    have last : position = 1 := by simpa [path] using member
    rw [last]
    decide
  have wellFormed : numbersUnderKey.WellFormed := by
    simp [numbersUnderKey, Value.WellFormed, Value.WellFormedEntries, Value.WellFormedElements]
  have shallow : numbersUnderKey.depth ≤ 2 := by decide
  have encoded : numbersUnderKey.encode = .ok encoding := rfl
  have readable : numbersUnderKey.IsReadable 2 :=
    ⟨wellFormed, shallow, Value.exists_encode_iff.mp ⟨encoding, encoded⟩⟩
  have decoded : data.decode 0 = .ok (numbersUnderKey, 9) := decode_encoding readable encoded 0
  have found : data.lookup 0 path = .ok (some (.uint16 8)) :=
    (lookup_eq_some_iff_walk decoded).mpr rfl
  have walked : numbersUnderKey.getPath ["a", "+01"] = some (.uint16 8) := rfl
  exact ⟨fits, decoded, found, texts data 0 9 path numbersUnderKey _ fits decoded found, wellFormed,
    shallow, encoded, walked,
    steps numbersUnderKey _ encoding 0 2 ["a", "+01"] wellFormed shallow encoded walked⟩

end Section

end DataSection
