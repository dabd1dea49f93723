import DataSection.Proofs.Encoding.Pointer
import DataSection.Proofs.Encoding.RoundTrip
import DataSection.Proofs.Section.Items
import DataSection.Proofs.Writer.Log

/-!
# Reading what a writer wrote

Every offset that a writer returned keeps its meaning whatever is appended later: a value
is read there, and behind a pointer to it, and behind a pointer to that pointer.  The
records of a run fill its section, so a cursor yields them and nothing else.
-/

namespace DataSection

namespace Section

variable {α β : Type} {related : α → β → Prop}

theorem exists_mem_of_forall₂ {items : List α} {found : List β} {item : α}
    (all : List.Forall₂ related items found) (member : item ∈ items) :
    ∃ other ∈ found, related item other := by
  induction all with
  | nil => cases member
  | cons first _ ih =>
      rcases List.mem_cons.mp member with rfl | later
      · exact ⟨_, List.mem_cons_self, first⟩
      · obtain ⟨other, otherMember, otherRelated⟩ := ih later
        exact ⟨other, List.mem_cons_of_mem _ otherMember, otherRelated⟩

end Section

namespace Writer

open Section

variable {events : List Event} {call : Call} {value : Value} {writer : Writer}
  {offset levels base limit : Nat}

/-! ## What records carry -/

/-- Every pointer was written to an offset that an earlier call returned. -/
def TargetsReturned (events : List Event) : Prop :=
  ∀ first target result rest, events = first ++ (.pointer target, result) :: rest →
    ∃ call, (call, .ok target.toNat) ∈ first

/-- The value that is read at the offset that a call returned, and the levels that this
takes: those of the value, and one for each pointer on the way to it. -/
inductive Carries (events : List Event) : Call → Nat → Value → Nat → Prop where
  | value {value : Value} {offset : Nat} :
      (.value value, .ok offset) ∈ events → Carries events (.value value) offset value value.depth
  | pointer {target : UInt32} {offset : Nat} {call : Call} {value : Value} {levels : Nat} :
      (.pointer target, .ok offset) ∈ events → Carries events call target.toNat value levels →
      Carries events (.pointer target) offset value (levels + 1)

/-- The limit is not below the levels that any record takes. -/
def Covers (limit : Nat) (events : List Event) : Prop :=
  ∀ call offset value levels, Carries events call offset value levels → levels ≤ limit

theorem Carries.mem (carries : Carries events call offset value levels) :
    (call, .ok offset) ∈ events := by
  cases carries with
  | value member => exact member
  | pointer member _ => exact member

theorem Carries.mono {longer : List Event} (subset : events ⊆ longer)
    (carries : Carries events call offset value levels) :
    Carries longer call offset value levels := by
  induction carries with
  | value member => exact .value (subset member)
  | pointer member _ ih => exact .pointer (subset member) ih

theorem TargetsReturned.of_append {rest : List Event} (targets : TargetsReturned (events ++ rest)) :
    TargetsReturned events := by
  intro first target result behind equal
  apply targets first target result (behind ++ rest)
  rw [equal, List.append_assoc, List.cons_append]

/-- If every pointer leads back to an earlier record, each chain of them ends at a value. -/
theorem exists_carries (targets : TargetsReturned events) (member : (call, .ok offset) ∈ events) :
    ∃ value levels, Carries events call offset value levels := by
  induction events using List.reverseRecOn generalizing call offset with
  | nil => cases member
  | append_singleton events last ih =>
      have earlier : ∀ {call offset}, (call, .ok offset) ∈ events →
          ∃ value levels, Carries (events ++ [last]) call offset value levels := by
        intro call offset member
        obtain ⟨value, levels, carries⟩ := ih targets.of_append member
        exact ⟨value, levels, carries.mono (List.subset_append_left _ _)⟩
      rcases mem_concat_iff.mp member with inside | rfl
      · exact earlier inside
      · cases call with
        | value value => exact ⟨value, value.depth, .value member⟩
        | pointer target =>
            obtain ⟨targeted, targetMember⟩ := targets events target _ [] rfl
            obtain ⟨value, levels, carries⟩ := earlier targetMember
            exact ⟨value, levels + 1, .pointer member carries⟩

/-! ## Records in the section -/

/-- A record whose bytes stand from the offset on that its call returned. -/
def Record.Stands (data : Section) (start : Nat) (record : Record) (stop : Nat) : Prop :=
  record.Placed start stop ∧ data.Holds start record.bytes

theorem row_of_contents {data : Section} {records : List Record} {start stop : Nat}
    (placed : Row Record.Placed start records stop) (held : data.Holds start (contents records)) :
    Row (Record.Stands data) start records stop := by
  induction placed with
  | nil start => exact .nil start
  | @cons start middle stop record records first _ ih =>
      obtain ⟨firstHeld, restHeld⟩ := holds_append.mp held
      refine .cons ⟨first, firstHeld⟩ (ih ?_)
      rwa [first.2]

namespace Describes

variable (describes : Describes events writer)
include describes

theorem row :
    Row (Record.Stands ⟨writer.bytes, base, limit⟩) 0 (records [] events) writer.size := by
  apply row_of_contents describes.placed
  rw [← describes.bytes_eq]
  simpa using holds_middle .empty writer.bytes .empty base limit

/-- What a call asked for stands at the offset that it returned. -/
theorem exists_holds (base limit : Nat) (member : (call, .ok offset) ∈ events) :
    ∃ bytes, call.encode = .ok bytes ∧ Holds ⟨writer.bytes, base, limit⟩ offset bytes := by
  obtain ⟨record, recordMember, returned, encoded⟩ := describes.recorded call offset member
  obtain ⟨start, next, ⟨started, -⟩, held⟩ := describes.row.exists_of_mem recordMember
  cases returned.symm.trans started
  exact ⟨record.bytes, encoded, held⟩

variable (wellFormed : ∀ value offset, (.value value, .ok offset) ∈ events → value.WellFormed)
include wellFormed

/-- A value is read at the offset that was returned for it. -/
theorem decodeAt_value (base limit : Nat) (member : (.value value, .ok offset) ∈ events)
    {encoding : ByteArray} (encoded : value.encode = .ok encoding)
    (shallow : value.depth ≤ levels) :
    decodeAt ⟨writer.bytes, base, limit⟩ levels offset = .ok (value, offset + encoding.size) := by
  obtain ⟨bytes, same, held⟩ := describes.exists_holds base limit member
  cases encoded.symm.trans same
  have stands : Section.Stands ⟨writer.bytes, base, limit⟩ offset value
      (offset + encoding.size) := ⟨encoding, encoded, held, rfl⟩
  rw [stands.decodeAt_eq (wellFormed value offset member), if_pos shallow]

/-- What a record carries is read at its offset, and ends where the record does. -/
theorem decodeAt_carried (limit : Nat) (carries : Carries events call offset value levels)
    {enough : Nat} (shallow : levels ≤ enough) {bytes : ByteArray}
    (encoded : call.encode = .ok bytes) :
    decodeAt ⟨writer.bytes, 0, limit⟩ enough offset = .ok (value, offset + bytes.size) := by
  induction carries generalizing enough bytes with
  | value member => exact describes.decodeAt_value wellFormed 0 limit member encoded shallow
  | @pointer target offset call value levels member below ih =>
      obtain ⟨enough, rfl⟩ := Nat.exists_eq_add_of_lt shallow
      obtain ⟨targetBytes, targetEncoded, -⟩ := describes.exists_holds 0 limit below.mem
      obtain ⟨pointerBytes, pointerEncoded, held⟩ := describes.exists_holds 0 limit member
      cases encoded
      cases pointerEncoded
      have inside : target.toNat + 0 < Format.offsetRange :=
        Nat.lt_trans target.toNat_lt (by decide)
      have below := ih (Nat.le_add_right levels enough) targetEncoded
      exact decodeAt_pointer_of_holds held inside below

/-- Nothing but one value is carried at an offset, whatever calls returned it. -/
theorem value_eq_of_carries {other : Call} {otherValue : Value} {otherLevels : Nat}
    (carries : Carries events call offset value levels)
    (otherCarries : Carries events other offset otherValue otherLevels) : value = otherValue := by
  obtain ⟨bytes, encoded, -⟩ := describes.exists_holds 0 0 carries.mem
  obtain ⟨otherBytes, otherEncoded, -⟩ := describes.exists_holds 0 0 otherCarries.mem
  -- Levels that are enough for both read them from the same bytes.
  have first := describes.decodeAt_carried wellFormed 0 carries
    (Nat.le_max_left levels otherLevels) encoded
  have second := describes.decodeAt_carried wellFormed 0 otherCarries
    (Nat.le_max_right levels otherLevels) otherEncoded
  exact (Prod.mk.inj (Except.ok.inj (first.symm.trans second))).1

/-- Values have the same offset exactly if they are the same. -/
theorem offset_eq_iff {other : Value} {otherOffset : Nat}
    (member : (.value value, .ok offset) ∈ events)
    (otherMember : (.value other, .ok otherOffset) ∈ events) :
    offset = otherOffset ↔ value = other := by
  constructor
  · rintro rfl
    exact describes.value_eq_of_carries wellFormed (.value member) (.value otherMember)
  · rintro rfl
    obtain ⟨encoding, encoded, -⟩ := describes.exists_holds 0 0 member
    have first := (describes.stored_iff encoding offset).mpr ⟨value, member, encoded⟩
    have second := (describes.stored_iff encoding otherOffset).mpr ⟨value, otherMember, encoded⟩
    exact Option.some.inj (first.symm.trans second)

end Describes

/-! ## All records of a section -/

/-- An item has the offset of a record and the value that the record carries. -/
def Record.Gives (events : List Event) (record : Record) (item : Nat × Value) : Prop :=
  record.result = .ok item.1 ∧ ∃ levels, Carries events record.call item.1 item.2 levels

/-- A record is yielded as an item: at the offset that its call returned, with its value
or, if it is a pointer, with the value of the item at its target. -/
def Record.Yields (items : List (Nat × Value)) (record : Record) (item : Nat × Value) : Prop :=
  record.result = .ok item.1 ∧
    match record.call with
    | .value value => item.2 = value
    | .pointer target => (target.toNat, item.2) ∈ items

namespace Describes

variable (describes : Describes events writer)
  (wellFormed : ∀ value offset, (.value value, .ok offset) ∈ events → value.WellFormed)
include describes wellFormed

/-- A record is read where it stands, if the limit covers what is carried. -/
theorem exists_item (targets : TargetsReturned events) (covers : Covers limit events)
    {record : Record} {start next : Nat} (member : record ∈ records [] events)
    (stands : record.Stands ⟨writer.bytes, 0, limit⟩ start next) :
    ∃ item, ItemAt ⟨writer.bytes, 0, limit⟩ start item next ∧ record.Gives events item := by
  obtain ⟨⟨returned, rfl⟩, -⟩ := stands
  obtain ⟨returning, encoded⟩ := mem_of_mem_records member
  rw [returned] at returning
  obtain ⟨value, levels, carries⟩ := exists_carries targets returning
  have shallow := covers _ _ _ _ carries
  have decoded := describes.decodeAt_carried wellFormed limit carries shallow encoded
  exact ⟨(start, value), ⟨rfl, decoded⟩, returned, levels, carries⟩

theorem yields_of_gives {items : List (Nat × Value)} {record : Record} {item : Nat × Value}
    (all : List.Forall₂ (Record.Gives events) (records [] events) items)
    (gives : record.Gives events item) : record.Yields items item := by
  obtain ⟨returned, levels, carries⟩ := gives
  refine ⟨returned, ?_⟩
  obtain ⟨call, result, bytes⟩ := record
  cases carries with
  | value member => rfl
  | @pointer target _ call _ levels member below =>
      -- The record at the target gives an item, too, and no other value is carried there.
      obtain ⟨targeted, targetMember, targetReturned, -⟩ := describes.recorded _ _ below.mem
      obtain ⟨⟨start, held⟩, itemMember, started, _, heldCarries⟩ :=
        exists_mem_of_forall₂ all targetMember
      cases targetReturned.symm.trans started
      cases describes.value_eq_of_carries wellFormed below heldCarries
      exact itemMember

/-- A cursor yields the records, if the limit covers what they carry. -/
theorem items_eq (targets : TargetsReturned events) (covers : Covers limit events) :
    ∃ items, Section.items ⟨writer.bytes, 0, limit⟩ 0 = items.map .ok ∧
      (items.Pairwise fun first second => first.1 < second.1) ∧
      List.Forall₂ (Record.Yields items) (records [] events) items := by
  obtain ⟨items, row, all⟩ := describes.row.exists_forall₂ fun record member start next stands =>
    describes.exists_item wellFormed targets covers member stands
  refine ⟨items, items_eq_of_row row, row.pairwise_offsets, all.imp ?_⟩
  intro record item gives
  exact describes.yields_of_gives wellFormed all gives

end Describes

/-- A run on a new writer, of calls that may fail, leaves the section of its records, as
long as 32-bit offsets suffice.  A call fails exactly as writing its value does.  The bytes
are those of the records, and no later call changes them.  Values have the same offset
exactly if they are the same, and are read there.  If pointers lead back to earlier records
and the limit covers the values with the pointers on the way to them, then a cursor yields
the records. -/
theorem run_writes_records (calls : List Call)
    (wellFormed : ∀ value, .value value ∈ calls → value.WellFormed)
    (room : (written calls).size < 2 ^ 32) :
    let events := log calls
    let bytes := (written calls).bytes
    events.map Prod.fst = calls ∧
      (∀ call result, (call, result) ∈ events →
        Encoding.error? result = Encoding.error? call.encode) ∧
      bytes = contents (records [] events) ∧
      (∀ first rest, calls = first ++ rest → ∃ more, bytes = (written first).bytes ++ more) ∧
      (∀ value offset other otherOffset, (.value value, .ok offset) ∈ events →
        (.value other, .ok otherOffset) ∈ events → (offset = otherOffset ↔ value = other)) ∧
      (∀ value offset, (.value value, .ok offset) ∈ events →
        ∃ encoding, value.encode = .ok encoding ∧
          ∀ base limit, value.depth ≤ limit →
            Section.decode ⟨bytes, base, limit⟩ offset = .ok (value, offset + encoding.size)) ∧
      ∀ limit, TargetsReturned events → Covers limit events →
        ∃ items, Section.items ⟨bytes, 0, limit⟩ 0 = items.map .ok ∧
          (items.Pairwise fun first second => first.1 < second.1) ∧
          List.Forall₂ (Record.Yields items) (records [] events) items := by
  have describes := describes_log calls room
  have storedWellFormed : ∀ value offset, (.value value, .ok offset) ∈ log calls →
      value.WellFormed := by
    intro value offset member
    exact wellFormed value (mem_of_mem_log member)
  refine ⟨map_fst_log calls, describes.answered, describes.bytes_eq, ?_, ?_, ?_, ?_⟩
  · rintro first rest rfl
    exact exists_bytes_written first rest
  · intro value offset other otherOffset member otherMember
    exact describes.offset_eq_iff storedWellFormed member otherMember
  · intro value offset member
    obtain ⟨encoding, encoded, -⟩ := describes.exists_holds 0 0 member
    refine ⟨encoding, encoded, ?_⟩
    intro base limit shallow
    exact describes.decodeAt_value storedWellFormed base limit member encoded shallow
  · intro limit targets covers
    exact describes.items_eq storedWellFormed targets covers

/-- A number that is stored twice, a pointer to it, and a pointer to that pointer. -/
def pointerChain : List Call :=
  [.value (.uint16 7), .value (.uint16 7), .pointer 0, .pointer 2]

theorem log_pointerChain :
    log pointerChain =
      [(.value (.uint16 7), .ok 0), (.value (.uint16 7), .ok 0), (.pointer 0, .ok 2),
        (.pointer 2, .ok 4)] := rfl

theorem targetsReturned_pointerChain : TargetsReturned (log pointerChain) := by
  intro first target result rest equal
  rw [log_pointerChain] at equal
  match first with
  | [] => simp at equal
  | [_] => simp at equal
  | [_, _] =>
      simp only [List.cons_append, List.nil_append, List.cons.injEq, Prod.mk.injEq,
        Call.pointer.injEq] at equal
      obtain ⟨rfl, rfl, ⟨rfl, rfl⟩, rfl⟩ := equal
      exact ⟨_, List.mem_cons_self⟩
  | [_, _, _] =>
      simp only [List.cons_append, List.nil_append, List.cons.injEq, Prod.mk.injEq,
        Call.pointer.injEq] at equal
      obtain ⟨rfl, rfl, rfl, ⟨rfl, rfl⟩, rfl⟩ := equal
      exact ⟨.pointer 0, by simp⟩
  | _ :: _ :: _ :: _ :: _ => simp at equal

theorem mem_log_pointerChain :
    (call, .ok offset) ∈ log pointerChain ↔
      call = .value (.uint16 7) ∧ offset = 0 ∨ call = .pointer 0 ∧ offset = 2 ∨
        call = .pointer 2 ∧ offset = 4 := by
  simp [log_pointerChain]

/-- Each pointer of the chain takes two bytes and one more level. -/
theorem two_mul_levels_of_carries
    (carries : Carries (log pointerChain) call offset value levels) : 2 * levels = offset := by
  induction carries with
  | value member =>
      rcases mem_log_pointerChain.mp member with ⟨equal, rfl⟩ | ⟨equal, -⟩ | ⟨equal, -⟩
      · cases equal
        rfl
      · cases equal
      · cases equal
  | pointer member _ ih =>
      rw [Nat.mul_succ, ih]
      rcases mem_log_pointerChain.mp member with ⟨equal, -⟩ | ⟨equal, rfl⟩ | ⟨equal, rfl⟩
      · cases equal
      · cases equal
        rfl
      · cases equal
        rfl

/-- The number is appended once, and all three records are read as it. -/
theorem run_writes_records_pointerChain :
    (∀ value, .value value ∈ pointerChain → value.WellFormed) ∧
      (written pointerChain).size < 2 ^ 32 ∧
      (written pointerChain).bytes = ⟨#[0xA1, 0x07, 0x20, 0x00, 0x20, 0x02]⟩ ∧
      (log pointerChain).map Prod.snd = [.ok 0, .ok 0, .ok 2, .ok 4] ∧
      Section.decode ⟨(written pointerChain).bytes, 0, 0⟩ 0 = .ok (.uint16 7, 2) ∧
      Section.items ⟨(written pointerChain).bytes, 0, 2⟩ 0 =
        [.ok (0, .uint16 7), .ok (2, .uint16 7), .ok (4, .uint16 7)] := by
  have bytes : (written pointerChain).bytes = ⟨#[0xA1, 0x07, 0x20, 0x00, 0x20, 0x02]⟩ := rfl
  have recorded : records [] (log pointerChain) =
    [⟨.value (.uint16 7), .ok 0, ⟨#[0xA1, 0x07]⟩⟩, ⟨.pointer 0, .ok 2, ⟨#[0x20, 0x00]⟩⟩,
      ⟨.pointer 2, .ok 4, ⟨#[0x20, 0x02]⟩⟩] := rfl
  have wellFormed : ∀ value, .value value ∈ pointerChain → value.WellFormed := by
    intro value member
    obtain rfl : value = .uint16 7 := by simpa [pointerChain] using member
    trivial
  have room : (written pointerChain).size < 2 ^ 32 := by
    rw [size, bytes]
    decide
  have covers : Covers 2 (log pointerChain) := by
    intro call offset value levels carries
    have levels := two_mul_levels_of_carries carries
    have offsets := mem_log_pointerChain.mp carries.mem
    omega
  obtain ⟨-, -, -, -, -, decoded, yielded⟩ := run_writes_records pointerChain wellFormed room
  obtain ⟨encoding, encoded, decoded⟩ := decoded (.uint16 7) 0 (by simp [log_pointerChain])
  cases encoded
  obtain ⟨items, equal, -, all⟩ := yielded 2 targetsReturned_pointerChain covers
  refine ⟨wellFormed, room, bytes, rfl, decoded 0 0 (Nat.le_refl 0), ?_⟩
  rw [recorded] at all
  obtain ⟨⟨_, _⟩, _, ⟨firstAt, rfl⟩, all, rfl⟩ := List.forall₂_cons_left_iff.mp all
  obtain ⟨⟨_, _⟩, _, ⟨secondAt, second⟩, all, rfl⟩ := List.forall₂_cons_left_iff.mp all
  obtain ⟨⟨_, _⟩, _, ⟨thirdAt, third⟩, all, rfl⟩ := List.forall₂_cons_left_iff.mp all
  cases all
  cases firstAt
  cases secondAt
  cases thirdAt
  -- The item at the first pointer's target is the number, and so is then that at the second's.
  obtain rfl : _ = Value.uint16 7 := by simpa using second
  obtain rfl : _ = Value.uint16 7 := by simpa using third
  exact equal

end Writer

end DataSection
