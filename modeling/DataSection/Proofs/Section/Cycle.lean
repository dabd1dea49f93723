import DataSection.Proofs.Section.Extent
import DataSection.Proofs.Section.PointerChain
import DataSection.Proofs.Value.Nodes
import Mathlib.Logic.Relation

/-!
# Cycles

Pointers may lead back to where reading came from, at once or by way of other pointers and
of containers.  No limit makes such an item readable: wherever an item leads, what stands
there has to be read with one level less, so a reading that succeeds has levels for every
way on from its item, and a cycle is a way without an end.

Other errors may come first.  Only if nothing but pointers is ever met, the levels run out
for certain.
-/

namespace DataSection.Section

open Relation

variable {data : Section} {levels others start item offset next target stop : Nat} {value : Value}

/-! ## Where items lead -/

/-- An item leads to what has to be read below it: a pointer to its target, and a container
to each of its elements, keys and values.  Those are found by skipping the ones before,
under any limit. -/
inductive Leads (data : Section) : (start item : Nat) → Prop where
  | target {start target stop : Nat} : data.PointerAt start target stop → Leads data start target
  | element {start count payload position levels item : Nat} :
      Opens data .array start count payload → position < count →
      advance (data.skipAt levels) position payload = .ok item → Leads data start item
  /-- Keys have the even positions, values the odd ones. -/
  | keyOrValue {start count payload position levels item : Nat} :
      Opens data .map start count payload → position < 2 * count →
      advance (data.skipAt levels) position payload = .ok item → Leads data start item

/-- A pointer leads nowhere else. -/
theorem PointerAt.eq_of_leads (pointer : data.PointerAt start target stop)
    (leads : data.Leads start item) : item = target := by
  obtain ⟨header, found, kind, -⟩ := pointerAt_iff.mp pointer
  cases leads with
  | target other => exact (pointer.unique other).1
  | element opens _ _ =>
      cases found.symm.trans (header_of_opens rfl opens)
      cases kind
  | keyOrValue opens _ _ =>
      cases found.symm.trans (header_of_opens rfl opens)
      cases kind

/-! ## The items of a container -/

/-- The keys and values of a row of entries, one behind the other. -/
theorem Row.items {read : Nat → Except ReadError (Value × Nat)}
    {entries : List (ByteArray × Value)} (row : Row (Reads (entry read)) offset entries stop) :
    Row (Reads read) offset (Value.itemsOfEntries entries) stop := by
  induction row with
  | nil offset => exact .nil offset
  | @cons offset behind stop pair entries first _ ih =>
      obtain ⟨text, value⟩ := pair
      obtain ⟨middle, keyRead, valueRead⟩ := entry_eq_ok_iff.mp first
      exact .cons keyRead (.cons valueRead ih)

theorem advance_skipAt_add {count : Nat}
    (reached : advance (data.skipAt levels) count offset = .ok stop) (extra : Nat) :
    advance (data.skipAt (levels + extra)) count offset = .ok stop := by
  have follows : Follows data data extra (advance (data.skipAt levels) count offset)
      (advance (data.skipAt (levels + extra)) count offset) :=
    .advance ((Extension.refl data).skipAt levels) count offset
  rw [reached] at follows
  exact follows.eq_ok

/-- How many levels there are for skipping does not matter to where it ends. -/
theorem advance_skipAt_eq {count left right : Nat}
    (first : advance (data.skipAt levels) count offset = .ok left)
    (second : advance (data.skipAt others) count offset = .ok right) : left = right := by
  have both := advance_skipAt_add second levels
  rw [Nat.add_comm, advance_skipAt_add first others] at both
  exact Except.ok.inj both

/-- If the items of a row are read below a container, each of them is read with one level
less than the container, wherever it is found by skipping. -/
theorem Row.exists_decodeAt {count position : Nat} {items : List Value}
    (row : Row (Reads (data.descend data.decodeAt levels)) offset items stop)
    (length : items.length = count) (inside : position < count)
    (skipped : Section.advance (data.skipAt others) position offset = .ok item) :
    ∃ fewer result, levels = fewer + 1 ∧ data.decodeAt fewer item = .ok result := by
  subst length
  obtain ⟨found, behind, before, read⟩ := row.exists_stands inside
  cases levels with
  | zero => cases read
  | succ fewer =>
      have reached := before.advance fun start item next read => skipAt_of_decodeAt read
      rw [List.length_take, Nat.min_eq_left (Nat.le_of_lt inside)] at reached
      cases advance_skipAt_eq reached skipped
      exact ⟨fewer, _, rfl, read⟩

/-! ## Descent -/

/-- Whatever an item leads to is read with one level less. -/
theorem Leads.exists_decodeAt (leads : data.Leads start item)
    (decoded : data.decodeAt levels start = .ok (value, next)) :
    ∃ fewer result, levels = fewer + 1 ∧ data.decodeAt fewer item = .ok result := by
  cases leads with
  | target pointer =>
      cases levels with
      | zero =>
          rw [pointer.decodeAt_zero] at decoded
          cases decoded
      | succ fewer =>
          rw [pointer.decodeAt_succ, Except.map_eq_ok_iff] at decoded
          obtain ⟨result, read, -⟩ := decoded
          exact ⟨fewer, result, rfl, read⟩
  | element opens inside skipped =>
      rw [decodeAt_eq_decodeNode] at decoded
      obtain ⟨elements, -, length, row⟩ :=
        (decodeNode_array_eq_ok_iff (header_of_opens rfl opens) rfl).mp decoded
      exact row.exists_decodeAt length inside skipped
  | keyOrValue opens inside skipped =>
      rw [decodeAt_eq_decodeNode] at decoded
      obtain ⟨entries, -, length, row⟩ :=
        (decodeNode_map_eq_ok_iff (header_of_opens rfl opens) rfl).mp decoded
      have twice := Value.length_itemsOfEntries entries
      rw [length] at twice
      exact row.items.exists_decodeAt twice inside skipped

/-- From the offset one comes to another that leads back to itself. -/
def Recurs (data : Section) (start : Nat) : Prop :=
  ∃ cyclic, ReflTransGen data.Leads start cyclic ∧ TransGen data.Leads cyclic cyclic

/-- There is always a way on to a cycle and along it. -/
theorem Recurs.exists_leads (recurs : data.Recurs start) :
    ∃ item, data.Leads start item ∧ data.Recurs item := by
  obtain ⟨cyclic, way, cycle⟩ := recurs
  rcases way.cases_head with rfl | ⟨item, first, rest⟩
  · obtain ⟨item, first, rest⟩ := TransGen.head'_iff.mp cycle
    exact ⟨item, first, start, rest, cycle⟩
  · exact ⟨item, first, cyclic, rest, cycle⟩

/-- The levels that a reading would need go down along the cycle without an end. -/
theorem Recurs.decodeAt_ne_ok (recurs : data.Recurs start) (levels : Nat) (value : Value)
    (next : Nat) : data.decodeAt levels start ≠ .ok (value, next) := by
  induction levels generalizing start value next with
  | zero =>
      intro decoded
      obtain ⟨item, leads, -⟩ := recurs.exists_leads
      obtain ⟨fewer, -, impossible, -⟩ := leads.exists_decodeAt decoded
      cases impossible
  | succ levels ih =>
      intro decoded
      obtain ⟨item, leads, recursBelow⟩ := recurs.exists_leads
      obtain ⟨fewer, ⟨held, behind⟩, equal, read⟩ := leads.exists_decodeAt decoded
      cases equal
      exact ih recursBelow held behind read

/-! ## Pointers only -/

/-- A complete pointer stands at the offset and wherever one comes to from it. -/
def OnlyPointers (data : Section) (start : Nat) : Prop :=
  ∀ reached, ReflTransGen data.Leads start reached →
    ∃ target stop, data.PointerAt reached target stop

/-- Among pointers only, chains have any length. -/
theorem OnlyPointers.exists_chain (only : data.OnlyPointers start) (length : Nat) :
    ∃ middle target stop, data.PointerAt start middle stop ∧ data.Chain length middle target := by
  induction length generalizing start with
  | zero =>
      obtain ⟨middle, stop, pointer⟩ := only start .refl
      exact ⟨middle, middle, stop, pointer, .nil middle⟩
  | succ length ih =>
      obtain ⟨middle, stop, pointer⟩ := only start .refl
      have onlyBelow : data.OnlyPointers middle := by
        intro reached way
        exact only reached (.head (.target pointer) way)
      obtain ⟨_, target, _, first, rest⟩ := ih onlyBelow
      exact ⟨middle, target, stop, pointer, .cons first rest⟩

/-- Among pointers only, any number of levels is used up. -/
theorem OnlyPointers.tooDeep (only : data.OnlyPointers start) (levels : Nat) :
    data.decodeAt levels start = .error (.tooDeep data.limit) ∧
      ∀ path, data.lookupAt path levels start = .error (.tooDeep data.limit) := by
  obtain ⟨middle, target, stop, first, rest⟩ := only.exists_chain levels
  exact first.tooDeep_chain rest (Nat.le_refl levels)

/-- An item that leads back to itself has no value, and neither has any item from which one
comes to it.  If only pointers are met on the way, reading and looking up run out of levels,
while skipping ends behind the first pointer. -/
theorem cycle_has_no_value (data : Section) (cycle : TransGen data.Leads offset offset) :
    (∀ start, ReflTransGen data.Leads start offset →
        ∀ value next, data.decode start ≠ .ok (value, next)) ∧
      (data.OnlyPointers offset →
        data.decode offset = .error (.tooDeep data.limit) ∧
          (∀ path, data.lookup offset path = .error (.tooDeep data.limit)) ∧
          ∃ target stop, data.PointerAt offset target stop ∧ data.skip offset = .ok stop) := by
  constructor
  · intro start way
    have recurs : data.Recurs start := ⟨offset, way, cycle⟩
    exact recurs.decodeAt_ne_ok data.limit
  · intro only
    obtain ⟨decoded, lookedUp⟩ := only.tooDeep data.limit
    obtain ⟨target, stop, pointer⟩ := only offset .refl
    exact ⟨decoded, lookedUp, target, stop, pointer, pointer.skipAt data.limit⟩

/-- An array of a pointer, and behind it a pointer back to that one. -/
def pointerCycle : Section :=
  { bytes := ⟨#[0x01, 0x04, 0x20, 0x04, 0x20, 0x02]⟩, limit := 3 }

theorem decode_pointerCycle :
    TransGen pointerCycle.Leads 2 2 ∧ ReflTransGen pointerCycle.Leads 0 2 ∧
      pointerCycle.OnlyPointers 2 ∧ (∀ value next, pointerCycle.decode 0 ≠ .ok (value, next)) ∧
      pointerCycle.decode 2 = .error (.tooDeep 3) ∧
      pointerCycle.lookup 2 [.index 0] = .error (.tooDeep 3) ∧ pointerCycle.skip 2 = .ok 4 := by
  have there : pointerCycle.PointerAt 2 4 4 := pointerAt_iff.mpr ⟨⟨.pointer, 0, 3⟩, rfl, rfl, rfl⟩
  have back : pointerCycle.PointerAt 4 2 6 := pointerAt_iff.mpr ⟨⟨.pointer, 0, 5⟩, rfl, rfl, rfl⟩
  have array : pointerCycle.header 0 = .ok ⟨.array, 1, 2⟩ := rfl
  have inside : pointerCycle.Leads 0 2 :=
    .element (header_eq_ok_iff.mp array) Nat.zero_lt_one
      (show advance (pointerCycle.skipAt 0) 0 2 = .ok 2 from rfl)
  have cycle : TransGen pointerCycle.Leads 2 2 := .tail (.single (.target there)) (.target back)
  have only : pointerCycle.OnlyPointers 2 := by
    intro reached way
    have either : reached = 2 ∨ reached = 4 := by
      induction way with
      | refl => exact .inl rfl
      | tail _ last ih =>
          rcases ih with rfl | rfl
          · exact .inr (there.eq_of_leads last)
          · exact .inl (back.eq_of_leads last)
    rcases either with rfl | rfl
    · exact ⟨4, 4, there⟩
    · exact ⟨2, 6, back⟩
  obtain ⟨never, pure⟩ := cycle_has_no_value pointerCycle cycle
  obtain ⟨decoded, lookedUp, target, stop, pointer, skipped⟩ := pure only
  obtain ⟨rfl, rfl⟩ := there.unique pointer
  exact ⟨cycle, .single inside, only, never 0 (.single inside), decoded, lookedUp [.index 0],
    skipped⟩

end DataSection.Section
