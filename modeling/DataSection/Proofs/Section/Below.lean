import DataSection.Proofs.Section.Items

/-!
# What stands below an item

The items that reading comes upon below an item are those that start in the row behind its
header: the elements of an array, and the keys and the values of a map.  Where it meets no
pointer, all of them stand between the item's offset and its end.
-/

namespace DataSection.Section

variable {data : Section} {levels start middle stop offset next : Nat} {header : Header}
variable {value : Value} {read : Nat → Except ReadError (Value × Nat)}

/-! ## Where items start -/

/-- Behind fewer than `count` items that are read one after the other, there is an offset. -/
def StartsIn {α : Type} (read : Nat → Except ReadError (α × Nat)) (start count offset : Nat) :
    Prop :=
  ∃ before, Row (Reads read) start before offset ∧ before.length < count

theorem startsIn_succ_iff {α : Type} {read : Nat → Except ReadError (α × Nat)} {item : α}
    {count : Nat} (first : read start = .ok (item, middle)) (offset : Nat) :
    StartsIn read start (count + 1) offset ↔ offset = start ∨ StartsIn read middle count offset := by
  constructor
  · intro starts
    obtain ⟨before, row, few⟩ := starts
    cases row with
    | nil => exact .inl rfl
    | cons other rest =>
        cases first.symm.trans other
        exact .inr ⟨_, rest, Nat.lt_of_succ_lt_succ few⟩
  · intro starts
    rcases starts with rfl | ⟨before, row, few⟩
    · exact ⟨[], .nil _, Nat.succ_pos count⟩
    · exact ⟨item :: before, .cons first row, Nat.succ_lt_succ few⟩

theorem not_startsIn_zero {α : Type} {read : Nat → Except ReadError (α × Nat)} :
    ¬StartsIn read start 0 offset := by
  intro starts
  obtain ⟨before, row, few⟩ := starts
  exact Nat.not_lt_zero _ few

/-! ## Children -/

theorem child_array_iff (found : data.header offset = .ok header) (array : header.kind = .array)
    {item : Nat} :
    Child data read offset item ↔ StartsIn read header.payload header.size item := by
  constructor
  · intro child
    cases child with
    | target same kind _ =>
        cases found.symm.trans same
        cases array.symm.trans kind
    | element same kind row few =>
        cases found.symm.trans same
        exact ⟨_, row, few⟩
    | key same kind _ _ =>
        cases found.symm.trans same
        cases array.symm.trans kind
    | value same kind _ _ _ =>
        cases found.symm.trans same
        cases array.symm.trans kind
  · intro starts
    obtain ⟨before, row, few⟩ := starts
    exact .element found array row few

/-- The key of the entry at an offset, and its value if the key is a string. -/
def InEntry (read : Nat → Except ReadError (Value × Nat)) (offset item : Nat) : Prop :=
  item = offset ∨ ∃ text, read offset = .ok (.string text, item)

theorem child_map_iff (found : data.header offset = .ok header) (map : header.kind = .map)
    {item : Nat} :
    Child data read offset item ↔
      ∃ start, StartsIn (entry read) header.payload header.size start ∧ InEntry read start item := by
  constructor
  · intro child
    cases child with
    | target same kind _ =>
        cases found.symm.trans same
        cases map.symm.trans kind
    | element same kind _ _ =>
        cases found.symm.trans same
        cases map.symm.trans kind
    | key same _ row few =>
        cases found.symm.trans same
        exact ⟨_, ⟨_, row, few⟩, .inl rfl⟩
    | value same _ row few keyRead =>
        cases found.symm.trans same
        exact ⟨_, ⟨_, row, few⟩, .inr ⟨_, keyRead⟩⟩
  · intro inside
    obtain ⟨start, ⟨before, row, few⟩, rfl | ⟨text, keyRead⟩⟩ := inside
    · exact .key found map row few
    · exact .value found map row few keyRead

theorem not_child_of_isLeaf (found : data.header offset = .ok header)
    (leaf : header.kind.isLeaf = true) {item : Nat} : ¬Child data read offset item := by
  intro child
  cases child with
  | target same kind _ | element same kind _ _ | key same kind _ _ | value same kind _ _ _ =>
      cases found.symm.trans same
      rw [kind] at leaf
      cases leaf

/-! ## Without a pointer -/

/-- An item of a row is read, and stands within the row. -/
theorem Row.exists_of_startsIn {α : Type} {read : Nat → Except ReadError (α × Nat)}
    {items : List α} (row : Row (Reads read) start items stop)
    (forward : ∀ offset item next, read offset = .ok (item, next) → offset ≤ next)
    (starts : StartsIn read start items.length offset) :
    ∃ item next, read offset = .ok (item, next) ∧ start ≤ offset ∧ next ≤ stop := by
  induction row with
  | nil start => exact (not_startsIn_zero starts).elim
  | @cons start middle stop item items first row ih =>
      rcases (startsIn_succ_iff first offset).mp starts with rfl | later
      · exact ⟨item, middle, first, Nat.le_refl _, row.le forward⟩
      · obtain ⟨other, next, read, before, behind⟩ := ih later
        exact ⟨other, next, read, Nat.le_trans (forward _ _ _ first) before, behind⟩

/-- An item below another is read, and stands behind its header and before its end. -/
theorem Child.exists_decodeAt {item : Nat}
    (noPointer : ∀ header, data.header offset = .ok header → header.kind ≠ .pointer)
    (child : Child data (data.decodeAt levels) offset item)
    (decoded : data.decodeAt (levels + 1) offset = .ok (value, next)) :
    ∃ below stop, data.decodeAt levels item = .ok (below, stop) ∧ offset ≤ item ∧ stop ≤ next := by
  have forward : ∀ start item stop, data.decodeAt levels start = .ok (item, stop) →
      start ≤ stop := by
    intro start item stop read
    exact Nat.le_of_lt (decodeAt_advances read).1
  obtain ⟨header, found⟩ := exists_header_of_decodeNode decoded
  have opened := Nat.le_of_lt (header_advances found).1
  rcases header.kind.eq_or_isLeaf with pointer | array | map | leaf
  · exact absurd pointer (noPointer header found)
  · obtain ⟨elements, -, length, row⟩ := (decodeNode_array_eq_ok_iff found array).mp decoded
    rw [child_array_iff found array, ← length] at child
    obtain ⟨below, stop, read, before, behind⟩ := row.exists_of_startsIn forward child
    exact ⟨below, stop, read, Nat.le_trans opened before, behind⟩
  · obtain ⟨pairs, -, length, row⟩ := (decodeNode_map_eq_ok_iff found map).mp decoded
    obtain ⟨start, starts, inEntry⟩ := (child_map_iff found map).mp child
    rw [← length] at starts
    have forwardEntry : ∀ start pair stop, entry (data.decodeAt levels) start = .ok (pair, stop) →
        start ≤ stop := by
      intro start pair stop read
      obtain ⟨middle, keyRead, valueRead⟩ := entry_eq_ok_iff.mp read
      exact Nat.le_trans (forward _ _ _ keyRead) (forward _ _ _ valueRead)
    obtain ⟨pair, stop, read, before, behind⟩ := row.exists_of_startsIn forwardEntry starts
    obtain ⟨middle, keyRead, valueRead⟩ := entry_eq_ok_iff.mp read
    rcases inEntry with rfl | ⟨text, again⟩
    · exact ⟨_, middle, keyRead, Nat.le_trans opened before,
        Nat.le_trans (forward _ _ _ valueRead) behind⟩
    · cases keyRead.symm.trans again
      exact ⟨_, stop, valueRead,
        Nat.le_trans (Nat.le_trans opened before) (forward _ _ _ keyRead), behind⟩
  · exact (not_child_of_isLeaf found leaf child).elim

/-- Without a pointer, all that is read stands between the offset and the end. -/
theorem Meets.within {met : Nat} (meets : data.Meets levels offset met)
    (free : data.PointerFree levels offset)
    (decoded : data.decodeAt levels offset = .ok (value, next)) : offset ≤ met ∧ met < next := by
  induction meets generalizing value next with
  | self levels offset => exact ⟨Nat.le_refl offset, (decodeAt_advances decoded).1⟩
  | inside child below ih =>
      obtain ⟨_, stop, read, before, behind⟩ :=
        child.exists_decodeAt (fun header => free.header_ne) decoded
      have within := ih (free.child child) read
      exact ⟨Nat.le_trans before within.1, Nat.lt_of_lt_of_le within.2 behind⟩

end DataSection.Section
