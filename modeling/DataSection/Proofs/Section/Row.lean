import DataSection.Section.Skip

/-!
# Rows of items

The items of a container stand one behind the other, and `collect` and `advance` both
go along them.  A `Row` is what they go along, without an accumulator and without a
count, so that a proof about many items is an induction on the row.

The main statements say exactly when `collect` succeeds and at which item it fails, and
that `advance` ends where it does.
-/

namespace DataSection

/-! ## Outcomes -/

namespace Except

variable {ε α β : Type} {outcome : Except ε α} {result : β} {error : ε}

@[simp] theorem map_ok (f : α → β) (found : α) :
    (Except.ok found : Except ε α).map f = .ok (f found) := rfl

@[simp] theorem map_error (f : α → β) (error : ε) :
    (Except.error error : Except ε α).map f = .error error := rfl

@[simp] theorem map_eq_ok_iff {f : α → β} :
    outcome.map f = .ok result ↔ ∃ found, outcome = .ok found ∧ f found = result := by
  cases outcome <;> simp [Except.map]

@[simp] theorem map_eq_error_iff {f : α → β} :
    outcome.map f = .error error ↔ outcome = .error error := by
  cases outcome <;> simp [Except.map]

theorem bind_eq_ok_iff {f : α → Except ε β} :
    outcome >>= f = .ok result ↔ ∃ found, outcome = .ok found ∧ f found = .ok result := by
  cases outcome <;> simp [bind, Except.bind]

theorem bind_eq_error_iff {f : α → Except ε β} :
    outcome >>= f = .error error ↔
      outcome = .error error ∨ ∃ found, outcome = .ok found ∧ f found = .error error := by
  cases outcome <;> simp [bind, Except.bind]

theorem map_eq_bind (outcome : Except ε α) (f : α → β) :
    outcome.map f = outcome >>= fun found => .ok (f found) := by
  cases outcome <;> rfl

end Except

namespace Section

variable {α : Type} {read : Nat → Except ReadError (α × Nat)}

/-- Items that stand one behind the other between two offsets.  `stands` says of one item
where it starts and ends. -/
inductive Row (stands : Nat → α → Nat → Prop) : Nat → List α → Nat → Prop where
  | nil (offset : Nat) : Row stands offset [] offset
  | cons {offset middle stop : Nat} {item : α} {items : List α} :
      stands offset item middle → Row stands middle items stop →
      Row stands offset (item :: items) stop

/-- The item that `read` finds at an offset, and the offset behind it. -/
abbrev Reads (read : Nat → Except ReadError (α × Nat)) (offset : Nat) (item : α) (next : Nat) :
    Prop :=
  read offset = .ok (item, next)

/-! ## Reading a row -/

theorem collect_eq_map (count offset : Nat) (items : List α) :
    collect read count offset items =
      (collect read count offset []).map fun found => (items.reverse ++ found.1, found.2) := by
  induction count generalizing offset items with
  | zero => simp [collect, Except.map]
  | succ count ih =>
      cases result : read offset with
      | error _ => simp only [collect, result, Except.map]
      | ok found =>
          obtain ⟨item, next⟩ := found
          simp only [collect, result]
          rw [ih next (item :: items), ih next [item]]
          cases collect read count next [] <;> simp [Except.map]

/-- `collect` from its first item on, without an accumulator. -/
theorem collect_succ (count offset : Nat) :
    collect read (count + 1) offset [] =
      match read offset with
      | .error error => .error error
      | .ok (item, next) =>
          (collect read count next []).map fun found => (item :: found.1, found.2) := by
  cases result : read offset with
  | error _ => simp only [collect, result]
  | ok found =>
      obtain ⟨item, next⟩ := found
      simp only [collect, result]
      exact collect_eq_map count next [item]

/-- Reading so many items succeeds exactly on a row of that length. -/
theorem collect_eq_ok_iff {count offset stop : Nat} {items : List α} :
    collect read count offset [] = .ok (items, stop) ↔
      items.length = count ∧ Row (Reads read) offset items stop := by
  constructor
  · intro collected
    induction count generalizing offset items with
    | zero =>
        simp only [collect, List.reverse_nil, Except.ok.injEq, Prod.mk.injEq] at collected
        obtain ⟨rfl, rfl⟩ := collected
        exact ⟨rfl, .nil offset⟩
    | succ count ih =>
        rw [collect_succ] at collected
        cases result : read offset with
        | error _ => simp [result] at collected
        | ok found =>
            obtain ⟨item, next⟩ := found
            cases rest : collect read count next [] with
            | error _ => simp [result, rest, Except.map] at collected
            | ok remaining =>
                simp only [result, rest, Except.map, Except.ok.injEq, Prod.mk.injEq] at collected
                obtain ⟨rfl, rfl⟩ := collected
                obtain ⟨length, row⟩ := ih rest
                exact ⟨congrArg Nat.succ length, .cons result row⟩
  · rintro ⟨rfl, row⟩
    induction row with
    | nil offset => rfl
    | cons result row ih =>
        rw [List.length_cons, collect_succ, result]
        simp only [ih, Except.map]

/-- Reading so many items fails exactly behind a shorter row, and with the error of the
item there. -/
theorem collect_eq_error_iff {count offset : Nat} {error : ReadError} :
    collect read count offset [] = .error error ↔
      ∃ items stop, items.length < count ∧ Row (Reads read) offset items stop ∧
        read stop = .error error := by
  constructor
  · intro failed
    induction count generalizing offset with
    | zero => simp [collect] at failed
    | succ count ih =>
        rw [collect_succ] at failed
        cases result : read offset with
        | error found =>
            simp only [result, Except.error.injEq] at failed
            subst failed
            exact ⟨[], offset, Nat.zero_lt_succ count, .nil offset, result⟩
        | ok found =>
            obtain ⟨item, next⟩ := found
            cases rest : collect read count next [] with
            | ok _ => simp [result, rest, Except.map] at failed
            | error found =>
                simp only [result, rest, Except.map, Except.error.injEq] at failed
                subst failed
                obtain ⟨items, stop, shorter, row, last⟩ := ih rest
                exact ⟨item :: items, stop, Nat.succ_lt_succ shorter, .cons result row, last⟩
  · rintro ⟨items, stop, shorter, row, last⟩
    induction row generalizing count with
    | nil offset =>
        obtain ⟨count, rfl⟩ := Nat.exists_eq_add_of_lt shorter
        simp [collect, last]
    | cons result row ih =>
        cases count with
        | zero => exact absurd shorter (Nat.not_lt_zero _)
        | succ count =>
            rw [collect_succ, result]
            simp only [ih (Nat.lt_of_succ_lt_succ shorter) last, Except.map]

/-- If each item can be read unless it is unfit, the items of a row can be read unless one
of them is. -/
theorem Row.collect_eq {stands : Nat → α → Nat → Prop} {fits : α → Prop} [DecidablePred fits]
    {offset stop : Nat} {items : List α} {error : ReadError} (row : Row stands offset items stop)
    (each : ∀ item ∈ items, ∀ start next, stands start item next →
      read start = if fits item then .ok (item, next) else .error error) :
    collect read items.length offset [] =
      if ∀ item ∈ items, fits item then .ok (items, stop) else .error error := by
  induction row with
  | nil offset => simp [collect]
  | @cons offset middle stop item items result row ih =>
      have rest := ih fun other member => each other (List.mem_cons_of_mem item member)
      rw [List.length_cons, collect_succ, each item List.mem_cons_self offset middle result]
      by_cases first : fits item
      · simp only [first, if_true, rest, List.forall_mem_cons, true_and]
        split <;> rfl
      · simp only [first, if_false, List.forall_mem_cons, false_and]

/-- Each item of a row stands at the end of those before it. -/
theorem Row.exists_stands {stands : Nat → α → Nat → Prop} {offset stop position : Nat}
    {items : List α} (row : Row stands offset items stop) (inside : position < items.length) :
    ∃ start next, Row stands offset (items.take position) start ∧
      stands start items[position] next := by
  induction row generalizing position with
  | nil offset => exact absurd inside (Nat.not_lt_zero _)
  | @cons offset middle stop item items result row ih =>
      cases position with
      | zero => exact ⟨offset, middle, .nil offset, result⟩
      | succ position =>
          obtain ⟨start, next, before, found⟩ := ih (Nat.lt_of_succ_lt_succ inside)
          exact ⟨start, next, .cons result before, found⟩

/-- A row of items that stand in one way is one of items that stand in any way that this
implies. -/
theorem Row.imp {stands others : Nat → α → Nat → Prop} {offset stop : Nat} {items : List α}
    (each : ∀ start item next, stands start item next → others start item next)
    (row : Row stands offset items stop) : Row others offset items stop := by
  induction row with
  | nil offset => exact .nil offset
  | cons result _ ih => exact .cons (each _ _ _ result) ih

theorem Row.concat {stands : Nat → α → Nat → Prop} {offset middle stop : Nat} {items : List α}
    {item : α} (row : Row stands offset items middle) (last : stands middle item stop) :
    Row stands offset (items ++ [item]) stop := by
  induction row with
  | nil offset => exact .cons last (.nil stop)
  | cons result _ ih => exact .cons result (ih last)

theorem Row.le {stands : Nat → α → Nat → Prop} {offset stop : Nat} {items : List α}
    (row : Row stands offset items stop)
    (forward : ∀ start item next, stands start item next → start ≤ next) : offset ≤ stop := by
  induction row with
  | nil offset => exact Nat.le_refl offset
  | cons result _ ih => exact Nat.le_trans (forward _ _ _ result) ih

/-- Each item of a row stands somewhere in it. -/
theorem Row.exists_of_mem {stands : Nat → α → Nat → Prop} {offset stop : Nat} {items : List α}
    {item : α} (row : Row stands offset items stop) (member : item ∈ items) :
    ∃ start next, stands start item next := by
  induction row with
  | nil offset => cases member
  | cons result _ ih =>
      rcases List.mem_cons.mp member with rfl | later
      · exact ⟨_, _, result⟩
      · exact ih later

/-! ## Keys and entries -/

variable {read : Nat → Except ReadError (Value × Nat)}

theorem key_eq_ok_iff {offset next : Nat} {text : ByteArray} :
    key read offset = .ok (text, next) ↔ read offset = .ok (.string text, next) := by
  unfold key
  split <;> simp_all

/-- A key fails if there is no item, or if it is no string. -/
theorem key_eq_error_iff {offset : Nat} {error : ReadError} :
    key read offset = .error error ↔
      read offset = .error error ∨
        ∃ other next, read offset = .ok (other, next) ∧ other.kind ≠ .string ∧
          error = .invalidKey offset other.kind := by
  unfold key
  split
  next failed => simp_all
  next found => simp_all [Value.kind]
  next other next notString found =>
      have kind : other.kind ≠ .string := by
        intro equal
        cases other with
        | string text => exact notString text rfl
        | _ => cases equal
      constructor
      · intro failed
        exact .inr ⟨other, next, found, kind, (Except.error.inj failed).symm⟩
      · rintro (failed | ⟨_, _, same, _, rfl⟩)
        · cases found.symm.trans failed
        · cases found.symm.trans same
          rfl

theorem entry_eq_ok_iff {offset next : Nat} {text : ByteArray} {value : Value} :
    entry read offset = .ok ((text, value), next) ↔
      ∃ middle, read offset = .ok (.string text, middle) ∧ read middle = .ok (value, next) := by
  simp only [entry, Except.bind_eq_ok_iff, ← key_eq_ok_iff]
  constructor
  · rintro ⟨⟨held, middle⟩, keyRead, ⟨found, stop⟩, valueRead, equal⟩
    cases equal
    exact ⟨middle, keyRead, valueRead⟩
  · rintro ⟨middle, keyRead, valueRead⟩
    exact ⟨(text, middle), keyRead, (value, next), valueRead, rfl⟩

/-- An entry fails at its key or, behind the key, at its value. -/
theorem entry_eq_error_iff {offset : Nat} {error : ReadError} :
    entry read offset = .error error ↔
      key read offset = .error error ∨
        ∃ text middle, key read offset = .ok (text, middle) ∧ read middle = .error error := by
  simp only [entry, Except.bind_eq_error_iff]
  constructor
  · rintro (failed | ⟨⟨text, middle⟩, keyRead, failed | ⟨_, _, impossible⟩⟩)
    · exact .inl failed
    · exact .inr ⟨text, middle, keyRead, failed⟩
    · cases impossible
  · rintro (failed | ⟨text, middle, keyRead, failed⟩)
    · exact .inl failed
    · exact .inr ⟨(text, middle), keyRead, .inl failed⟩

/-! ## Skipping along a row -/

variable {step : Nat → Except ReadError Nat}

theorem advance_add (first second offset : Nat) :
    advance step (first + second) offset =
      match advance step first offset with
      | .error error => .error error
      | .ok middle => advance step second middle := by
  induction first generalizing offset with
  | zero => rw [Nat.zero_add]; rfl
  | succ first ih =>
      rw [Nat.succ_add]
      cases result : step offset with
      | error _ => simp only [advance, result]
      | ok next => simpa only [advance, result] using ih next

/-- Steps fail where one of them fails. -/
theorem advance_eq_error {count reached offset middle : Nat} {error : ReadError}
    (before : advance step reached offset = .ok middle) (failed : step middle = .error error)
    (inside : reached < count) : advance step count offset = .error error := by
  obtain ⟨rest, rfl⟩ := Nat.exists_eq_add_of_lt inside
  rw [Nat.add_assoc, advance_add, before]
  simp only [advance, failed]

/-- Two steps at a time lead as far as twice as many steps. -/
theorem advance_two_mul (count offset : Nat) :
    advance step (2 * count) offset = advance (advance step 2) count offset := by
  induction count generalizing offset with
  | zero => rfl
  | succ count ih =>
      rw [Nat.mul_succ, Nat.add_comm, advance_add]
      conv => rhs; rw [advance]
      cases advance step 2 offset with
      | error _ => rfl
      | ok middle => exact ih middle

/-- If each item can be skipped unless it is unfit, the items of a row can be skipped
unless one of them is. -/
theorem Row.advance_eq {stands : Nat → α → Nat → Prop} {fits : α → Prop} [DecidablePred fits]
    {offset stop : Nat} {items : List α} {error : ReadError} (row : Row stands offset items stop)
    (each : ∀ item ∈ items, ∀ start next, stands start item next →
      step start = if fits item then .ok next else .error error) :
    advance step items.length offset =
      if ∀ item ∈ items, fits item then .ok stop else .error error := by
  induction row with
  | nil offset => simp [advance]
  | @cons offset middle stop item items result row ih =>
      have rest := ih fun other member => each other (List.mem_cons_of_mem item member)
      rw [List.length_cons, advance, each item List.mem_cons_self offset middle result]
      by_cases first : fits item
      · simp only [first, if_true, rest, List.forall_mem_cons, true_and]
      · simp only [first, if_false, List.forall_mem_cons, false_and]

/-- A step that ends where each item ends leads along every row. -/
theorem Row.advance {stands : Nat → α → Nat → Prop} {offset stop : Nat} {items : List α}
    (row : Row stands offset items stop)
    (agree : ∀ start item next, stands start item next → step start = .ok next) :
    advance step items.length offset = .ok stop := by
  induction row with
  | nil offset => rfl
  | cons result row ih =>
      rw [List.length_cons, Section.advance, agree _ _ _ result]
      exact ih

/-- The same along a row of entries, each of which is two items. -/
theorem Row.advance_entries {offset stop : Nat} {entries : List (ByteArray × Value)}
    (row : Row (Reads (entry read)) offset entries stop)
    (agree : ∀ start value next, read start = .ok (value, next) → step start = .ok next) :
    Section.advance step (2 * entries.length) offset = .ok stop := by
  rw [advance_two_mul]
  apply row.advance
  rintro start ⟨text, value⟩ next result
  obtain ⟨middle, keyRead, valueRead⟩ := entry_eq_ok_iff.mp result
  simp only [Section.advance, agree _ _ _ keyRead, agree _ _ _ valueRead]

end Section

end DataSection
