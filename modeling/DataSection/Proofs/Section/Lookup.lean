import DataSection.Proofs.Section.Extent
import DataSection.Section.Lookup

/-!
# Looking up what reading would give

Looking up a path builds nothing on its way: it hops along pointers and steps to the
items of containers by skipping those before.  A `Route` records these moves and what
they leave of the levels.  Every walk through a value that can be read has a route
through the bytes, to an item that reads as the value at the end of the walk.

So a lookup finds what the walk finds.  Where the walk ends early the lookup takes one
more step, and that step costs a level before it is known to lead nowhere.
-/

namespace DataSection.Section

variable {data : Section} {levels offset left item next : Nat} {header : Header}
variable {value : Value} {path : Path} {step : Step}

/-! ## Routes -/

/-- The moves of a lookup along a path.  `left` of the levels remain at the item where
it ends; each pointer and each step costs one. -/
inductive Route (data : Section) :
    (levels offset : Nat) → Path → (left item : Nat) → Prop where
  | here (levels offset : Nat) : Route data levels offset [] levels offset
  | hop {levels offset left item target next : Nat} {path : Path} {header : Header} :
      data.header offset = .ok header → header.kind = .pointer →
      data.pointer header = .ok (target, next) → Route data levels target path left item →
      Route data (levels + 1) offset path left item
  | step {levels offset left item start : Nat} {step : Step} {path : Path} {header : Header} :
      data.header offset = .ok header → header.kind ≠ .pointer →
      data.child levels header step = .ok (some start) →
      Route data levels start path left item →
      Route data (levels + 1) offset (step :: path) left item

theorem resolve_of_ne_pointer (found : data.header offset = .ok header)
    (noPointer : header.kind ≠ .pointer) :
    data.resolve levels offset = .ok (header, levels) := by
  cases levels <;>
    simp only [resolve, found, noPointer, bind, Except.bind, pure, Except.pure, if_false]

theorem resolve_pointer {target : Nat} (found : data.header offset = .ok header)
    (pointer : header.kind = .pointer) (reached : data.pointer header = .ok (target, next)) :
    data.resolve (levels + 1) offset = data.resolve levels target := by
  simp only [resolve, found, pointer, reached, bind, Except.bind, if_true]

theorem lookupAt_zero (found : data.header offset = .ok header)
    (noPointer : header.kind ≠ .pointer) :
    data.lookupAt (step :: path) 0 offset = .error (.tooDeep data.limit) := by
  simp only [lookupAt, resolve_of_ne_pointer found noPointer, bind, Except.bind, throw, throwThe,
    MonadExceptOf.throw]

theorem lookupAt_succ (found : data.header offset = .ok header)
    (noPointer : header.kind ≠ .pointer) :
    data.lookupAt (step :: path) (levels + 1) offset =
      match data.child levels header step with
      | .error error => .error error
      | .ok none => .ok none
      | .ok (some start) => data.lookupAt path levels start := by
  simp only [lookupAt, resolve_of_ne_pointer found noPointer, bind, Except.bind]
  cases data.child levels header step with
  | error _ => rfl
  | ok start => cases start <;> rfl

/-- A lookup from a pointer is one from where it leads, with a level less. -/
theorem lookupAt_pointer {target : Nat} (found : data.header offset = .ok header)
    (pointer : header.kind = .pointer) (reached : data.pointer header = .ok (target, next))
    (path : Path) :
    data.lookupAt path (levels + 1) offset = data.lookupAt path levels target := by
  cases path with
  | nil =>
      simp only [lookupAt]
      rw [decodeAt_eq_decodeNode, decodeNode_pointer found pointer, reached]
      simp only [descend_succ]
      cases data.decodeAt levels target <;> rfl
  | cons step path => simp only [lookupAt, resolve_pointer found pointer reached]

/-- A lookup goes on from the end of a route as if it began there. -/
theorem Route.lookupAt_append {before : Path} (route : Route data levels offset before left item)
    (rest : Path) :
    data.lookupAt (before ++ rest) levels offset = data.lookupAt rest left item := by
  induction route with
  | here levels offset => rfl
  | hop found pointer reached _ ih => rw [lookupAt_pointer found pointer reached, ih]
  | step found noPointer led _ ih =>
      rw [List.cons_append, lookupAt_succ found noPointer, led]
      exact ih

/-! ## Steps -/

/-- An item that reads as the value stands at `start`. -/
def Yields (data : Section) (levels start : Nat) (value : Value) : Prop :=
  ∃ next, data.decodeAt levels start = .ok (value, next)

/-- Along entries that can be read, the last key that equals `wanted` stands before the
value that the dictionary of all entries holds under it. -/
theorem findKey_of_row {entries : List (ByteArray × Value)} {dictionary : Dictionary Value}
    {stop : Nat} {wanted : ByteArray} {found : Option Nat}
    (row : Row (Reads (entry (data.decodeAt levels))) offset entries stop)
    (soFar : Option.Rel (data.Yields levels) found (dictionary.get? wanted)) :
    ∃ last, data.findKey levels wanted entries.length offset found = .ok last ∧
      Option.Rel (data.Yields levels) last ((dictionary.insertAll entries).get? wanted) := by
  induction row generalizing dictionary found with
  | nil offset => exact ⟨found, rfl, soFar⟩
  | @cons offset middle stop pair entries result row ih =>
      obtain ⟨text, value⟩ := pair
      obtain ⟨start, keyRead, valueRead⟩ := entry_eq_ok_iff.mp result
      have now : Option.Rel (data.Yields levels) (if text = wanted then some start else found)
          ((dictionary.insert text value).get? wanted) := by
        rw [Dictionary.get?_insert]
        split
        · exact .some ⟨middle, valueRead⟩
        · exact soFar
      obtain ⟨last, searched, yields⟩ := ih now
      refine ⟨last, ?_, yields⟩
      rw [List.length_cons, findKey, key_eq_ok_iff.mpr keyRead]
      simp only [skipAt_of_decodeAt valueRead, searched]

/-- A step from an item that can be read leads to where the next value can be read, or
nowhere if there is no next value. -/
theorem child_of_decodeAt (found : data.header offset = .ok header)
    (noPointer : header.kind ≠ .pointer)
    (decoded : data.decodeAt (levels + 1) offset = .ok (value, next)) (step : Step) :
    ∃ start, data.child levels header step = .ok start ∧
      Option.Rel (data.Yields levels) start (value.step? step) := by
  rcases header.kind.eq_or_isLeaf with pointer | array | map | leaf
  · exact absurd pointer noPointer
  · obtain ⟨elements, rfl, length, row⟩ := (decodeNode_array_eq_ok_iff found array).mp decoded
    cases step with
    | key text => exact ⟨none, by simp only [child, array]; rfl, .none⟩
    | index position =>
        by_cases inside : position < elements.length
        · obtain ⟨start, behind, before, read⟩ := row.exists_stands inside
          have led := before.advance fun _ _ _ read => skipAt_of_decodeAt read
          rw [List.length_take, Nat.min_eq_left (Nat.le_of_lt inside)] at led
          refine ⟨some start, ?_, ?_⟩
          · simp only [child, array, ← length, inside, and_self, if_true, led]
            rfl
          · simp only [Value.step?, Value.element?, List.getElem?_eq_getElem inside]
            exact .some ⟨behind, read⟩
        · refine ⟨none, ?_, ?_⟩
          · simp only [child, ← length, inside, and_false, if_false]
            rfl
          · simp only [Value.step?, Value.element?, List.getElem?_eq_none (Nat.not_lt.mp inside)]
            exact .none
  · obtain ⟨entries, rfl, length, row⟩ := (decodeNode_map_eq_ok_iff found map).mp decoded
    cases step with
    | key text =>
        have fresh : Option.Rel (data.Yields levels) none
            ((Dictionary.empty : Dictionary Value).get? text.toUTF8) := .none
        obtain ⟨last, searched, yields⟩ := findKey_of_row row fresh
        refine ⟨last, ?_, yields⟩
        simp only [child, map, if_true, ← length]
        exact searched
    | index position => exact ⟨none, by simp only [child, map]; rfl, .none⟩
  · rw [step?_of_decodeNode_leaf found leaf decoded step]
    refine ⟨none, ?_, .none⟩
    have notMap : header.kind ≠ .map := by rintro equal; rw [equal] at leaf; cases leaf
    have notArray : header.kind ≠ .array := by rintro equal; rw [equal] at leaf; cases leaf
    cases step <;> simp only [child, notMap, notArray, false_and, if_false] <;> rfl

/-- Without a level below it, an item that can be read has nothing to step to. -/
theorem step?_of_decodeAt_zero (found : data.header offset = .ok header)
    (noPointer : header.kind ≠ .pointer) (decoded : data.decodeAt 0 offset = .ok (value, next))
    (step : Step) : value.step? step = none := by
  rcases header.kind.eq_or_isLeaf with pointer | array | map | leaf
  · exact absurd pointer noPointer
  · obtain ⟨elements, rfl, -, row⟩ := (decodeNode_array_eq_ok_iff found array).mp decoded
    cases row with
    | nil offset => cases step <;> rfl
    | cons impossible _ => cases impossible
  · obtain ⟨entries, rfl, -, row⟩ := (decodeNode_map_eq_ok_iff found map).mp decoded
    cases row with
    | nil offset => cases step <;> rfl
    | cons impossible _ => cases impossible
  · exact step?_of_decodeNode_leaf found leaf decoded step

/-! ## Walks -/

/-- Every walk through a value that can be read has a route to an item that reads as the
value at its end, and that is no pointer. -/
theorem exists_route_of_walk {held : Value}
    (decoded : data.decodeAt levels offset = .ok (value, next))
    (walked : value.walk path = some held) :
    ∃ left item header, Route data levels offset path left item ∧
      data.header item = .ok header ∧ header.kind ≠ .pointer ∧ data.Yields left item held := by
  induction levels generalizing offset value next path with
  | zero =>
      obtain ⟨header, found⟩ := exists_header_of_decodeNode decoded
      have noPointer : header.kind ≠ .pointer := by
        intro pointer
        obtain ⟨_, _, -, impossible⟩ := (decodeNode_pointer_eq_ok_iff found pointer).mp decoded
        cases impossible
      cases path with
      | nil =>
          cases walked
          exact ⟨0, offset, header, .here 0 offset, found, noPointer, next, decoded⟩
      | cons step path =>
          rw [Value.walk_cons, step?_of_decodeAt_zero found noPointer decoded] at walked
          cases walked
  | succ levels ih =>
      obtain ⟨header, found⟩ := exists_header_of_decodeNode decoded
      by_cases pointer : header.kind = .pointer
      · obtain ⟨target, stop, reached, read⟩ :=
          (decodeNode_pointer_eq_ok_iff found pointer).mp decoded
        obtain ⟨left, item, landing, route, rest⟩ := ih read walked
        exact ⟨left, item, landing, .hop found pointer reached route, rest⟩
      · cases path with
        | nil =>
            cases walked
            exact ⟨levels + 1, offset, header, .here _ offset, found, pointer, next, decoded⟩
        | cons step path =>
            rw [Value.walk_cons] at walked
            obtain ⟨below, stepped, walked⟩ := Option.bind_eq_some_iff.mp walked
            obtain ⟨start, led, yields⟩ := child_of_decodeAt found pointer decoded step
            rw [stepped] at yields
            cases yields with
            | some yields =>
                obtain ⟨stop, read⟩ := yields
                obtain ⟨left, item, landing, route, rest⟩ := ih read walked
                exact ⟨left, item, landing, .step found pointer led route, rest⟩

/-- A walk that does not reach the end of its path has a first step that leads nowhere. -/
theorem exists_step_of_walk_eq_none (missing : value.walk path = none) :
    ∃ before step after held, path = before ++ step :: after ∧
      value.walk before = some held ∧ held.step? step = none := by
  induction path generalizing value with
  | nil => cases missing
  | cons step path ih =>
      rw [Value.walk_cons] at missing
      cases stepped : value.step? step with
      | none => exact ⟨[], step, path, value, rfl, rfl, stepped⟩
      | some below =>
          rw [stepped] at missing
          obtain ⟨before, next, after, held, rfl, walked, nowhere⟩ := ih missing
          refine ⟨step :: before, next, after, held, rfl, ?_, nowhere⟩
          rw [Value.walk_cons, stepped]
          exact walked

/-- A step that leads nowhere ends a lookup, with nothing found if there is a level for
it and with an error if there is none. -/
theorem lookupAt_of_step?_eq_none (found : data.header offset = .ok header)
    (noPointer : header.kind ≠ .pointer) (yields : data.Yields levels offset value)
    (nowhere : value.step? step = none) :
    data.lookupAt (step :: path) levels offset =
      if levels = 0 then .error (.tooDeep data.limit) else .ok none := by
  obtain ⟨next, decoded⟩ := yields
  cases levels with
  | zero => exact lookupAt_zero found noPointer
  | succ levels =>
      obtain ⟨start, led, reached⟩ := child_of_decodeAt found noPointer decoded step
      rw [nowhere] at reached
      cases reached
      rw [lookupAt_succ found noPointer, led]
      rfl

/-- A lookup that finds nothing takes its last step from an item that reads as the value
where the walk stops. -/
theorem exists_last_step (decoded : data.decodeAt levels offset = .ok (value, next))
    (missing : value.walk path = none) :
    ∃ before step after held left item header, path = before ++ step :: after ∧
      value.walk before = some held ∧ Route data levels offset before left item ∧
      data.header item = .ok header ∧ header.kind ≠ .pointer ∧ data.Yields left item held ∧
      data.lookupAt path levels offset =
        if left = 0 then .error (.tooDeep data.limit) else .ok none := by
  obtain ⟨before, step, after, held, rfl, walked, nowhere⟩ := exists_step_of_walk_eq_none missing
  obtain ⟨left, item, header, route, found, noPointer, yields⟩ :=
    exists_route_of_walk decoded walked
  refine ⟨before, step, after, held, left, item, header, rfl, walked, route, found, noPointer,
    yields, ?_⟩
  rw [route.lookupAt_append]
  exact lookupAt_of_step?_eq_none found noPointer yields nowhere

/-- Looking up a path finds what walking along it finds in the value that the whole item
reads as.  Where the walk finds nothing, so does the lookup, unless it runs out of levels. -/
theorem lookup_agrees_with_walk (decoded : data.decode offset = .ok (value, next))
    (path : Path) :
    (∀ held, value.walk path = some held → data.lookup offset path = .ok (some held)) ∧
      (value.walk path = none →
        data.lookup offset path = .ok none ∨
          data.lookup offset path = .error (.tooDeep data.limit)) := by
  constructor
  · intro held walked
    obtain ⟨left, item, header, route, -, -, stop, read⟩ := exists_route_of_walk decoded walked
    have along := route.lookupAt_append []
    rw [List.append_nil] at along
    rw [lookup, along, lookupAt, read]
    rfl
  · intro missing
    obtain ⟨before, step, after, held, left, item, header, -, -, -, -, -, -, outcome⟩ :=
      exists_last_step decoded missing
    rw [lookup, outcome]
    split
    · exact .inr rfl
    · exact .inl rfl

/-- A map with one key twice.  The second key is a pointer to the first, and its value
is a pointer to the number behind the map. -/
def repeatedKey : Section :=
  { bytes := ⟨#[0xE2, 0x41, 0x61, 0xA1, 0x01, 0x20, 0x01, 0x20, 0x09, 0xA1, 0x07]⟩
    limit := 2 }

theorem lookup_repeatedKey :
    repeatedKey.decode 0 = .ok (.map ⟨[("a".toUTF8, .uint16 7)]⟩, 9) ∧
      repeatedKey.lookup 0 [.key "a"] = .ok (some (.uint16 7)) := by
  have found : repeatedKey.header 0 = .ok ⟨.map, 2, 1⟩ := rfl
  have first : entry (repeatedKey.decodeAt 1) 1 = .ok (("a".toUTF8, .uint16 1), 5) := rfl
  have second : entry (repeatedKey.decodeAt 1) 5 = .ok (("a".toUTF8, .uint16 7), 9) := rfl
  have decoded : repeatedKey.decode 0 = .ok (.map ⟨[("a".toUTF8, .uint16 7)]⟩, 9) :=
    (decodeNode_map_eq_ok_iff found rfl).mpr ⟨_, rfl, rfl, .cons first (.cons second (.nil 9))⟩
  exact ⟨decoded, (lookup_agrees_with_walk decoded [.key "a"]).1 (.uint16 7) rfl⟩

/-! ## Running out of levels -/

/-- On its way along the path, a lookup comes to an item from which it has to take a
step, and no level is left for that step. -/
def RunsOut (data : Section) (offset : Nat) (path : Path) : Prop :=
  ∃ before step after item header, path = before ++ step :: after ∧
    Route data data.limit offset before 0 item ∧
    data.header item = .ok header ∧ header.kind ≠ .pointer

theorem lookup_of_runsOut (out : data.RunsOut offset path) :
    data.lookup offset path = .error (.tooDeep data.limit) := by
  obtain ⟨before, step, after, item, header, rfl, route, found, noPointer⟩ := out
  rw [lookup, route.lookupAt_append]
  exact lookupAt_zero found noPointer

/-- Where a walk finds nothing, the lookup finds nothing exactly if it does not run out of
levels first.  It runs out only at a value from which no step leads anywhere. -/
theorem lookup_eq_none_iff_not_runsOut (decoded : data.decode offset = .ok (value, next))
    (missing : value.walk path = none) :
    (data.lookup offset path = .ok none ↔ ¬data.RunsOut offset path) ∧
      (data.lookup offset path = .error (.tooDeep data.limit) ↔ data.RunsOut offset path) ∧
      (data.RunsOut offset path →
        ∃ before step after held, path = before ++ step :: after ∧
          value.walk before = some held ∧ ∀ other, held.step? other = none) := by
  obtain ⟨before, step, after, held, left, item, header, split, walked, route, found, noPointer,
    ⟨stop, read⟩, outcome⟩ := exists_last_step decoded missing
  change data.lookup offset path = _ at outcome
  cases left with
  | zero =>
      have out : data.RunsOut offset path :=
        ⟨before, step, after, item, header, split, route, found, noPointer⟩
      refine ⟨?_, ?_, fun _ => ?_⟩
      · simp [outcome, out]
      · simp [outcome, out]
      · exact ⟨before, step, after, held, split, walked,
          step?_of_decodeAt_zero found noPointer read⟩
  | succ left =>
      have enough : ¬data.RunsOut offset path := by
        intro out
        cases outcome.symm.trans (lookup_of_runsOut out)
      refine ⟨?_, ?_, fun out => absurd out enough⟩
      · simp [outcome, enough]
      · simp [outcome, enough]

theorem lookup_key_of_boolean :
    let data : Section := { bytes := ⟨#[0x01, 0x07]⟩, limit := 1 }
    data.decode 0 = .ok (.boolean true, 2) ∧ (Value.boolean true).walk [.key "a"] = none ∧
      (data.lookup 0 [.key "a"] = .ok none ↔ ¬data.RunsOut 0 [.key "a"]) ∧
      data.lookup 0 [.key "a"] = .ok none :=
  ⟨rfl, rfl, (lookup_eq_none_iff_not_runsOut rfl rfl).1, rfl⟩

/-- Without a level, a lookup fails at a boolean that can be read, instead of finding
nothing in it. -/
theorem lookup_key_of_boolean_runs_out :
    let data : Section := { bytes := ⟨#[0x01, 0x07]⟩, limit := 0 }
    data.decode 0 = .ok (.boolean true, 2) ∧ (Value.boolean true).walk [.key "a"] = none ∧
      data.lookup 0 [.key "a"] = .error (.tooDeep 0) :=
  ⟨rfl, rfl, rfl⟩

end DataSection.Section
