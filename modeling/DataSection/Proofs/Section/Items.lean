import DataSection.Proofs.Section.Extent
import DataSection.Proofs.Section.Recognition
import DataSection.Section.Cursor
import Mathlib.Data.List.Forall2

/-!
# The items of a section

Every item takes at least one byte and ends within the section, which is why a cursor
comes to an end.  If the items that stand one behind the other fill the rest of a section,
a cursor yields exactly those.
-/

namespace DataSection

namespace Section

variable {data : Section} {levels start stop offset next : Nat} {header : Header} {value : Value}

/-! ## Progress -/

/-- A reading that ends further on, and within the section. -/
def Advances (data : Section) (start stop : Nat) : Prop :=
  start < stop ∧ stop ≤ data.size

theorem Occupies.le_size {content : ByteArray} (occupied : data.Occupies start content stop) :
    stop ≤ data.size := by
  obtain ⟨held, rfl⟩ := occupies_iff.mp occupied
  exact (holds_iff.mp held).1

theorem Occupies.le {content : ByteArray} (occupied : data.Occupies start content stop) :
    start ≤ stop := by
  obtain ⟨-, rfl⟩ := occupies_iff.mp occupied
  exact Nat.le_add_right start _

theorem Control.advances {code field : Nat} (form : Control data start code field stop) :
    data.Advances start stop := by
  cases form with
  | inline _ _ _ occupied =>
      refine ⟨?_, occupied.le_size⟩
      obtain ⟨-, rfl⟩ := occupies_iff.mp occupied
      exact Nat.lt_add_of_pos_right (Nat.succ_pos 0)
  | extended _ _ _ occupied =>
      refine ⟨?_, occupied.le_size⟩
      obtain ⟨-, rfl⟩ := occupies_iff.mp occupied
      exact Nat.lt_add_of_pos_right (Nat.succ_pos 1)

theorem Opens.advances {kind : Kind} {size : Nat} (form : Opens data kind start size stop) :
    data.Advances start stop := by
  obtain ⟨field, middle, control, sized⟩ := form
  have first := control.advances
  have occupied : middle ≤ stop ∧ stop ≤ data.size := by
    rcases sized.inline_or_digits with ⟨-, -, rfl⟩ | ⟨_, -, -, -, -, occupied⟩
    · exact ⟨Nat.le_refl _, first.2⟩
    · exact ⟨occupied.le, occupied.le_size⟩
  exact ⟨Nat.lt_of_lt_of_le first.1 occupied.1, occupied.2⟩

theorem header_advances (found : data.header start = .ok header) :
    data.Advances start header.payload := by
  have form := header_eq_ok_iff.mp found
  split at form
  · exact form.advances
  · exact form.advances

theorem advance_advances {step : Nat → Except ReadError Nat} {count : Nat}
    (each : ∀ start stop, step start = .ok stop → data.Advances start stop)
    (inside : start ≤ data.size) (reached : advance step count start = .ok stop) :
    start ≤ stop ∧ stop ≤ data.size := by
  induction count generalizing start with
  | zero =>
      cases reached
      exact ⟨Nat.le_refl _, inside⟩
  | succ count ih =>
      rw [advance] at reached
      cases first : step start with
      | error _ => simp [first] at reached
      | ok middle =>
          simp only [first] at reached
          have progress := each start middle first
          have rest := ih progress.2 reached
          exact ⟨Nat.le_trans (Nat.le_of_lt progress.1) rest.1, rest.2⟩

/-- Skipping an item ends further on, if skipping the items in it does. -/
theorem skipNode_advances {step : Nat → Except ReadError Nat}
    (each : ∀ start stop, step start = .ok stop → data.Advances start stop)
    (skipped : data.skipNode step start = .ok stop) : data.Advances start stop := by
  cases found : data.header start with
  | error _ =>
      rw [skipNode_of_header_error found] at skipped
      cases skipped
  | ok header =>
      have opened := header_advances found
      have behind : header.payload ≤ stop ∧ stop ≤ data.size := by
        rcases header.kind.eq_or_isLeaf with pointer | array | map | leaf
        · rw [skipNode_pointer found pointer, Except.map_eq_ok_iff] at skipped
          obtain ⟨⟨target, behind⟩, reached, rfl⟩ := skipped
          obtain ⟨low, -, occupied, -⟩ := pointer_eq_ok_iff.mp reached
          exact ⟨occupied.le, occupied.le_size⟩
        · rw [skipNode_array found array] at skipped
          exact advance_advances each opened.2 skipped
        · rw [skipNode_map found map] at skipped
          exact advance_advances each opened.2 skipped
        · rcases Kind.eq_boolean_or_of_isLeaf leaf with boolean | scalar
          · rw [skipNode_boolean found boolean] at skipped
            cases skipped
            exact ⟨Nat.le_refl _, opened.2⟩
          · rw [skipNode_content found scalar, Except.map_eq_ok_iff] at skipped
            obtain ⟨⟨payload, behind⟩, content, rfl⟩ := skipped
            obtain ⟨-, occupied⟩ := content_eq_ok_iff.mp content
            exact ⟨occupied.le, occupied.le_size⟩
      exact ⟨Nat.lt_of_lt_of_le opened.1 behind.1, behind.2⟩

theorem skipAt_advances (skipped : data.skipAt levels start = .ok stop) :
    data.Advances start stop := by
  induction levels generalizing start stop with
  | zero =>
      refine skipNode_advances ?_ skipped
      intro start stop impossible
      cases impossible
  | succ levels ih =>
      refine skipNode_advances ?_ skipped
      intro start stop below
      exact ih below

theorem decodeAt_advances (decoded : data.decodeAt levels start = .ok (value, stop)) :
    data.Advances start stop :=
  skipAt_advances (skipAt_of_decodeAt decoded)

end Section

/-! ## Reading on -/

namespace Cursor

/-- What a cursor yields one after the other, until it yields nothing and stays where it
is. -/
inductive Drains : Cursor → List Item → Prop where
  | nil {cursor : Cursor} : cursor.next = (none, cursor) → Drains cursor []
  | cons {cursor behind : Cursor} {item : Item} {items : List Item} :
      cursor.next = (some item, behind) → Drains behind items → Drains cursor (item :: items)

variable {cursor : Cursor} {items : List Item}

theorem Drains.fst_take_eq {count : Nat} (drains : cursor.Drains items)
    (enough : items.length ≤ count) (yielded : List Item) :
    (cursor.take count yielded).1 = yielded.reverse ++ items := by
  induction drains generalizing count yielded with
  | nil ended =>
      cases count with
      | zero => simp [take]
      | succ count => simp [take, ended]
  | cons first rest ih =>
      cases count with
      | zero => exact absurd enough (Nat.not_succ_le_zero _)
      | succ count =>
          rw [take, first]
          dsimp only
          rw [ih (Nat.le_of_succ_le_succ enough)]
          simp

end Cursor

namespace Section

variable {data : Section} {start stop offset next : Nat} {value : Value}

/-- From an offset, a cursor yields no more than it finds room for. -/
theorem items_eq_of_drains {items : List Cursor.Item} (drains : (data.cursor start).Drains items)
    (enough : items.length ≤ data.size - start) : data.items start = items := by
  rw [Section.items, drains.fst_take_eq enough]
  rfl


/-- A cursor at an offset yields the offset with the value there, and goes on at `stop`. -/
def ItemAt (data : Section) (start : Nat) (item : Nat × Value) (stop : Nat) : Prop :=
  item.1 = start ∧ data.decode start = .ok (item.2, stop)

theorem next_cursor (decoded : data.decode offset = .ok (value, next)) :
    (data.cursor offset).next = (some (.ok (offset, value)), data.cursor next) := by
  have progress := decodeAt_advances decoded
  have running : ¬data.size ≤ offset := Nat.not_le.mpr (Nat.lt_of_lt_of_le progress.1 progress.2)
  simp [Cursor.next, cursor, running, decoded]

theorem next_cursor_of_size_le (ended : data.size ≤ offset) :
    (data.cursor offset).next = (none, data.cursor offset) := by
  simp [Cursor.next, cursor, ended]

/-- If something else stands wherever an item of a row stands, then there is a row of it. -/
theorem Row.exists_forall₂ {α β : Type} {stands : Nat → α → Nat → Prop}
    {others : Nat → β → Nat → Prop} {related : α → β → Prop} {items : List α}
    (row : Row stands offset items stop)
    (each : ∀ item ∈ items, ∀ start next, stands start item next →
      ∃ other, others start other next ∧ related item other) :
    ∃ found, Row others offset found stop ∧ List.Forall₂ related items found := by
  induction row with
  | nil offset => exact ⟨[], .nil offset, .nil⟩
  | cons first _ ih =>
      obtain ⟨other, otherStands, otherRelated⟩ := each _ List.mem_cons_self _ _ first
      obtain ⟨found, row, related⟩ :=
        ih fun item member => each item (List.mem_cons_of_mem _ member)
      exact ⟨other :: found, .cons otherStands row, .cons otherRelated related⟩

theorem Row.length_le {items : List (Nat × Value)} (row : Row data.ItemAt start items stop) :
    start + items.length ≤ stop := by
  induction row with
  | nil offset => exact Nat.le_refl offset
  | cons first _ ih =>
      have progress := (decodeAt_advances first.2).1
      rw [List.length_cons]
      omega

theorem Row.le_offset {items : List (Nat × Value)} (row : Row data.ItemAt start items stop) :
    ∀ item ∈ items, start ≤ item.1 := by
  induction row with
  | nil offset => simp
  | cons first _ ih =>
      intro item member
      rcases List.mem_cons.mp member with rfl | later
      · exact Nat.le_of_eq first.1.symm
      · exact Nat.le_trans (Nat.le_of_lt (decodeAt_advances first.2).1) (ih item later)

/-- The items that stand one behind the other have ascending offsets. -/
theorem Row.pairwise_offsets {items : List (Nat × Value)}
    (row : Row data.ItemAt start items stop) :
    items.Pairwise fun first second => first.1 < second.1 := by
  induction row with
  | nil offset => exact .nil
  | cons first row ih =>
      refine .cons ?_ ih
      intro item later
      rw [first.1]
      exact Nat.lt_of_lt_of_le (decodeAt_advances first.2).1 (row.le_offset item later)

/-- A cursor yields the items that stand one behind the other, and then goes on behind
them. -/
theorem Row.drains {items : List (Nat × Value)} {rest : List Cursor.Item}
    (row : Row data.ItemAt start items stop) (behind : (data.cursor stop).Drains rest) :
    (data.cursor start).Drains (items.map .ok ++ rest) := by
  induction row with
  | nil offset => exact behind
  | @cons start middle stop item items first row ih =>
      obtain ⟨offset, value⟩ := item
      obtain ⟨rfl, decoded⟩ := first
      exact .cons (next_cursor decoded) (ih behind)

/-- A cursor yields the items that fill the section from its offset on. -/
theorem items_eq_of_row {items : List (Nat × Value)}
    (row : Row data.ItemAt start items data.size) : data.items start = items.map .ok := by
  have drains := row.drains (.nil (next_cursor_of_size_le (Nat.le_refl data.size)))
  rw [List.append_nil] at drains
  apply items_eq_of_drains drains
  have length := row.length_le
  rw [List.length_map]
  omega

end Section

end DataSection
