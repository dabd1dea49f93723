import DataSection.Proofs.Machine.Loops

/-!
# A machine reads like a section

Every function of the machine comes to what its counterpart in numbers comes to: the errors
are the same, and the words stand for the numbers.  No word is ever too short for its number,
for three reasons.  Sizes are added to offsets only behind a check that what lies between is
inside the bytes.  Numbers are as small as their few bytes allow.  And the depth is checked on
every way down.

Reading and skipping go down by induction on the frames, one for each level and one more, so
frames are never missing either.
-/

namespace DataSection.Machine

variable {machine : Machine}

/-! ## Reading -/

/-- The word of its own number is the word. -/
theorem ofNat_toNat {width : Nat} (word : BitVec width) :
    BitVec.ofNat width word.toNat = word := by
  rw [BitVec.ofNat_toNat, BitVec.setWidth_eq]

/-- A number of fixed size is copied as it is. -/
theorem gives_fixed (short : machine.bytes.size < 2 ^ 63) {opening : Opening} (count : Nat)
    (fixed : opening.kind.allowsSize opening.size.toNat = (opening.size.toNat == count))
    (make : BitVec (8 * count) → Value) :
    Gives (Prod.map id BitVec.toNat)
      (do
        let (bits, next) ← machine.word count opening
        return (make bits, next))
      (do
        let (number, next) ← machine.data.number opening.header
        return (make (BitVec.ofNat (8 * count) number), next)) := by
  apply (gives_word short fixed).bind
  rintro ⟨bits, next⟩ -
  exact .found (congrArg (fun bits => (make bits, next.toNat)) (ofNat_toNat bits).symm)

/-- A number that is small because of its size is narrowed without losing a bit. -/
theorem gives_narrowed (short : machine.bytes.size < 2 ^ 63) {opening : Opening}
    {bits largest : Nat} (bounded : opening.kind.maxPayload? = some largest)
    (allows : opening.kind.allowsSize opening.size.toNat =
      decide (opening.size.toNat ≤ largest))
    (few : largest ≤ 16) (room : 256 ^ largest ≤ 2 ^ bits) (make : BitVec bits → Value) :
    Gives (Prod.map id BitVec.toNat)
      (do
        let (number, next) ← machine.number opening
        let number ← Word.narrow bits number
        return (make number, next))
      (do
        let (number, next) ← machine.data.number opening.header
        return (make (BitVec.ofNat bits number), next)) := by
  apply (agrees_number short bounded few allows).bind
  rintro ⟨number, next⟩ _ - ⟨rfl, small⟩
  obtain ⟨narrow, done, same⟩ := Word.exists_narrow bits number (Nat.lt_of_lt_of_le small room)
  refine .checked done (.found ?_)
  rw [Prod.map_apply, ← same, ofNat_toNat, id_eq]

/-- A number as wide as the word in which numerals are put together stays in it. -/
theorem gives_widest (short : machine.bytes.size < 2 ^ 63) {opening : Opening}
    (bounded : opening.kind.maxPayload? = some 16)
    (allows : opening.kind.allowsSize opening.size.toNat = decide (opening.size.toNat ≤ 16)) :
    Gives (Prod.map id BitVec.toNat)
      (do
        let (number, next) ← machine.number opening
        return (Value.uint128 number, next))
      (do
        let (number, next) ← machine.data.number opening.header
        return (Value.uint128 (BitVec.ofNat 128 number), next)) := by
  apply (agrees_number short bounded (Nat.le_refl 16) allows).bind
  rintro ⟨number, next⟩ _ - ⟨rfl, -⟩
  exact .found (congrArg (fun word => (Value.uint128 word, next.toNat)) (ofNat_toNat number).symm)

/-- The elements gathered so far, the last one last or first. -/
def SameElements (words : Array Value) (items : List Value) : Prop :=
  words.toList.reverse = items

/-- The entries written so far, and what has been written, the last one first. -/
def SameEntries (words : Dictionary.Indexed Value) (entries : List (ByteArray × Value)) : Prop :=
  words.Represents (Dictionary.ofList entries.reverse)

section Each

variable {read : Size → Run (Value × Size)} {readNumbers : Nat → Except ReadError (Value × Nat)}
variable (each : ∀ offset : Size,
  Gives (Prod.map id BitVec.toNat) (read offset) (readNumbers offset.toNat))
include each

theorem agrees_element {soFar : Array Value} {items : List Value}
    (start : SameElements soFar items) (offset : Size) :
    Agrees (SameStep SameElements) (element read soFar offset)
      (readNumbers offset.toNat >>= fun found => .ok (found.1 :: items, found.2)) := by
  apply (each offset).bind
  rintro ⟨element, next⟩ -
  have longer : SameElements (soFar.push element) (element :: items) := by
    rw [SameElements, Array.toList_push, List.reverse_append, start]
    rfl
  exact .found ⟨longer, rfl⟩

theorem gives_key (offset : Size) :
    Gives (Prod.map id BitVec.toNat) (key read offset) (Section.key readNumbers offset.toNat) := by
  rw [Section.key_eq_bind]
  apply (each offset).bind
  rintro ⟨value, next⟩ -
  cases value with
  | string text => exact .found rfl
  | _ => exact .failed _

/-- The entries written so far are found by their positions, so the next one is written without
a trap and leaves the dictionary that it should. -/
theorem agrees_entry {soFar : Dictionary.Indexed Value} {entries : List (ByteArray × Value)}
    (start : SameEntries soFar entries) (offset : Size) :
    Agrees (SameStep SameEntries) (entry read soFar offset)
      (Section.entry readNumbers offset.toNat >>= fun found =>
        .ok (found.1 :: entries, found.2)) := by
  rw [Section.entry, bind_assoc]
  apply (gives_key each offset).bind
  rintro ⟨key, middle⟩ -
  dsimp only [Prod.map_apply]
  rw [bind_assoc]
  apply (each middle).bind
  rintro ⟨value, next⟩ -
  obtain ⟨longer, inserted, represents⟩ := start.exists_insert key value
  have written : SameEntries longer ((key, value) :: entries) := by
    rw [Dictionary.exchange_eq] at represents
    rwa [SameEntries, List.reverse_cons, Dictionary.ofList_concat]
  exact .checked inserted (.found ⟨written, rfl⟩)

end Each

section Node

variable (short : machine.bytes.size < 2 ^ 63) (shallow : machine.limit.toNat < 2 ^ 64 - 1)
variable {depth : Size} {levels : Nat}
variable (spent : depth.toNat + levels = machine.limit.toNat)
variable {read : (offset depth : Size) → Run (Value × Size)}
variable {readNumbers : (levels offset : Nat) → Except ReadError (Value × Nat)}
variable (each : OneBelow machine levels (Prod.map id BitVec.toNat) read readNumbers)
include shallow spent each

include short in
theorem gives_pointee (opening : Opening) :
    Gives (Prod.map id BitVec.toNat) (machine.pointee read opening depth)
      (do
        let (target, next) ← machine.data.pointer opening.header
        let (value, _) ← machine.data.descend readNumbers levels target
        return (value, next)) := by
  apply (gives_pointer short opening).bind
  rintro ⟨target, next⟩ -
  apply agrees_enter_one shallow spent
  · rintro rfl
    rfl
  · rintro fewer deeper rfl count
    apply (each fewer deeper rfl count target).bind
    rintro ⟨value, stop⟩ -
    exact .found rfl

theorem gives_array (opening : Opening) :
    Gives (Prod.map id BitVec.toNat) (machine.array read opening depth)
      (do
        let (elements, next) ← Section.collect (machine.data.descend readNumbers levels)
          opening.size.toNat opening.payload.toNat []
        return (.array elements, next)) := by
  have start : SameElements (Array.emptyWithCapacity (machine.room opening)) [] := rfl
  refine agrees_enter_gather (loops_collect _) shallow spent ?_ ?_ start ?_
  · rintro rfl items offset
    rfl
  · rintro fewer deeper rfl count soFar items start offset
    exact agrees_element (each fewer deeper rfl count) start offset
  · rintro ⟨elements, next⟩ items rfl
    refine .found ?_
    rw [List.reverse_reverse]
    rfl

theorem gives_map (opening : Opening) :
    Gives (Prod.map id BitVec.toNat) (machine.map read opening depth)
      (do
        let (entries, next) ←
          Section.collect (Section.entry (machine.data.descend readNumbers levels))
            opening.size.toNat opening.payload.toNat []
        return (.map (Dictionary.ofList entries), next)) := by
  have start : SameEntries (.withCapacity (machine.room opening / 2)) [] :=
    Dictionary.Indexed.represents_withCapacity _
  refine agrees_enter_gather (loops_collect _) shallow spent ?_ ?_ start ?_
  · rintro rfl items offset
    rfl
  · rintro fewer deeper rfl count soFar entries start offset
    exact agrees_entry (each fewer deeper rfl count) start offset
  · rintro ⟨dictionary, next⟩ entries represents
    have same : ⟨dictionary.entries.toList⟩ = Dictionary.ofList entries.reverse := by
      rw [represents.entries]
    refine .found ?_
    rw [← same]
    rfl

include short in
/-- An item is read alike if what is below it is read alike with the levels left there. -/
theorem gives_decodeNode (offset : Size) :
    Gives (Prod.map id BitVec.toNat) (machine.decodeNode read offset depth)
      (machine.data.decodeNode (machine.data.descend readNumbers levels) offset.toNat) := by
  apply (gives_opening short offset).bind
  rintro ⟨kind, size, payload⟩ -
  cases kind with
  | pointer => exact gives_pointee short shallow spent each _
  | array => exact gives_array shallow spent each _
  | map => exact gives_map shallow spent each _
  | boolean =>
      have set : (size != 0) = (size.toNat != 0) := by
        rw [Bool.eq_iff_iff, bne_iff_ne, bne_iff_ne, ne_eq, ne_eq, ← BitVec.toNat_inj]
        rfl
      refine .found ?_
      rw [Prod.map_apply, id_eq, set]
      rfl
  | string | bytes =>
      apply (gives_content short _).bind
      rintro ⟨content, next⟩ -
      exact .found rfl
  | double => exact gives_fixed short 8 rfl fun bits => .double (.ofBitVec bits)
  | float => exact gives_fixed short 4 rfl fun bits => .float (.ofBitVec bits)
  | uint16 =>
      exact gives_narrowed short rfl rfl (by decide) (by decide) fun word =>
        .uint16 (.ofBitVec word)
  | uint32 =>
      exact gives_narrowed short rfl rfl (by decide) (by decide) fun word =>
        .uint32 (.ofBitVec word)
  | uint64 =>
      exact gives_narrowed short rfl rfl (by decide) (by decide) fun word =>
        .uint64 (.ofBitVec word)
  | uint128 => exact gives_widest short rfl rfl
  | int32 =>
      exact gives_narrowed short rfl rfl (by decide) (by decide) fun word =>
        .int32 (UInt32.ofBitVec word).toInt32

end Node

section Whole

variable (short : machine.bytes.size < 2 ^ 63) (shallow : machine.limit.toNat < 2 ^ 64 - 1)
include short shallow

/-- With a frame for each level and one more, reading comes to the same at every depth. -/
theorem gives_decodeAt {frames levels : Nat} {depth : Size}
    (spent : depth.toNat + levels = machine.limit.toNat) (enough : levels < frames)
    (offset : Size) :
    Gives (Prod.map id BitVec.toNat) (machine.decodeAt frames offset depth)
      (machine.data.decodeAt levels offset.toNat) := by
  induction frames generalizing levels depth offset with
  | zero => exact absurd enough (Nat.not_lt_zero levels)
  | succ frames ih =>
      rw [Section.decodeAt_eq_decodeNode]
      apply gives_decodeNode short shallow spent
      rintro fewer deeper rfl count
      exact ih count (Nat.lt_of_succ_lt_succ enough)

/-! ## Skipping -/

omit short shallow in
theorem agrees_pass {step : Size → Run Size} {stepNumbers : Nat → Except ReadError Nat}
    (each : ∀ offset : Size, Gives BitVec.toNat (step offset) (stepNumbers offset.toNat))
    (nothing none : Unit) (_ : nothing = none) (offset : Size) :
    Agrees (SameStep Eq) (pass step nothing offset)
      (stepNumbers offset.toNat >>= fun next => .ok ((), next)) := by
  apply (each offset).bind
  rintro next -
  exact .found ⟨rfl, rfl⟩

omit short shallow in
theorem gives_advance {step : Size → Run Size} {stepNumbers : Nat → Except ReadError Nat}
    (each : ∀ offset : Size, Gives BitVec.toNat (step offset) (stepNumbers offset.toNat))
    (count : Nat) (offset : Size) :
    Gives BitVec.toNat (advance step count offset)
      (Section.advance stepNumbers count offset.toNat) := by
  rw [← bind_pure (Section.advance stepNumbers count offset.toNat)]
  have start : () = () := rfl
  apply (agrees_gather (loops_advance stepNumbers) (agrees_pass each) count start offset).bind
  rintro ⟨nothing, next⟩ _ - ⟨_, -, rfl⟩
  exact .found rfl

omit short in
theorem gives_skipItems {depth : Size} {levels : Nat}
    (spent : depth.toNat + levels = machine.limit.toNat)
    {step : (offset depth : Size) → Run Size}
    {stepNumbers : (levels offset : Nat) → Except ReadError Nat}
    (each : OneBelow machine levels BitVec.toNat step stepNumbers)
    (items offset : Size) :
    Gives BitVec.toNat (machine.skipItems step items offset depth)
      (Section.advance (machine.data.descend stepNumbers levels) items.toNat offset.toNat) := by
  rw [← bind_pure (Section.advance _ _ _)]
  have start : () = () := rfl
  refine agrees_enter_gather (loops_advance _) shallow spent ?_ ?_ start ?_
  · rintro rfl nothing offset
    rfl
  · rintro fewer deeper rfl count
    exact agrees_pass (each fewer deeper rfl count)
  · rintro ⟨nothing, next⟩ none -
    exact .found rfl

/-- An item is skipped alike if what is below it is skipped alike with the levels left there. -/
theorem gives_skipNode {depth : Size} {levels : Nat}
    (spent : depth.toNat + levels = machine.limit.toNat)
    {step : (offset depth : Size) → Run Size}
    {stepNumbers : (levels offset : Nat) → Except ReadError Nat}
    (each : OneBelow machine levels BitVec.toNat step stepNumbers)
    (offset : Size) :
    Gives BitVec.toNat (machine.skipNode step offset depth)
      (machine.data.skipNode (machine.data.descend stepNumbers levels) offset.toNat) := by
  apply (gives_opening short offset).bind
  rintro ⟨kind, size, payload⟩ read
  cases kind with
  | pointer =>
      apply (gives_pointer short _).bind
      rintro ⟨target, next⟩ -
      exact .found rfl
  | array => exact gives_skipItems shallow spent each size payload
  | map =>
      have bound : size.toNat ≤ Format.maxSize :=
        (Section.header_eq_ok_iff.mp read : Section.Opens _ _ _ _ _).size_le
      rw [Format.maxSize_eq] at bound
      have doubled : (Word.twice size).toNat = 2 * size.toNat :=
        Word.toNat_twice_of_lt (by omega)
      have skipped := gives_skipItems shallow spent each (Word.twice size) payload
      rwa [doubled] at skipped
  | boolean => exact .found rfl
  | _ =>
      apply (gives_content short _).bind
      rintro ⟨content, next⟩ -
      exact .found rfl

theorem gives_skipAt {frames levels : Nat} {depth : Size}
    (spent : depth.toNat + levels = machine.limit.toNat) (enough : levels < frames)
    (offset : Size) :
    Gives BitVec.toNat (machine.skipAt frames offset depth)
      (machine.data.skipAt levels offset.toNat) := by
  induction frames generalizing levels depth offset with
  | zero => exact absurd enough (Nat.not_lt_zero levels)
  | succ frames ih =>
      rw [Section.skipAt_eq_skipNode]
      apply gives_skipNode short shallow spent
      rintro fewer deeper rfl count
      exact ih count (Nat.lt_of_succ_lt_succ enough)

/-! ## Looking up -/

/-- The header at the end of pointers is the same, and the depth there leaves the levels that
are left. -/
theorem agrees_resolve {frames levels : Nat} {depth : Size}
    (spent : depth.toNat + levels = machine.limit.toNat) (enough : levels < frames)
    (offset : Size) :
    Agrees (fun words outcome => words.1.header = outcome.1 ∧
        words.2.toNat + outcome.2 = machine.limit.toNat)
      (machine.resolve frames offset depth) (machine.data.resolve levels offset.toNat) := by
  induction frames generalizing levels depth offset with
  | zero => exact absurd enough (Nat.not_lt_zero levels)
  | succ frames ih =>
      rw [Section.resolve_eq_bind]
      apply (gives_opening short offset).bind
      rintro opening -
      change Agrees _ _ (if opening.kind = .pointer then _ else _)
      split
      · apply agrees_enter_one shallow spent
        · rintro rfl
          rfl
        · rintro fewer deeper rfl count
          apply (gives_pointer short opening).bind
          rintro ⟨target, next⟩ -
          exact ih count (Nat.lt_of_succ_lt_succ enough) target
      · exact .found ⟨rfl, spent⟩

section Levels

variable {frames levels : Nat} {depth : Size}
variable (spent : depth.toNat + levels = machine.limit.toNat) (enough : levels < frames)
include spent enough

theorem agrees_candidate (wanted : ByteArray) (found : Option Size) (last : Option Nat)
    (same : found.map BitVec.toNat = last) (offset : Size) :
    Agrees (SameStep fun (words : Option Size) numbers => words.map BitVec.toNat = numbers)
      (machine.candidate frames depth wanted found offset)
      (Section.key (machine.data.decodeAt levels) offset.toNat >>= fun held =>
        machine.data.skipAt levels held.2 >>= fun next =>
          .ok (if held.1 = wanted then some held.2 else last, next)) := by
  apply (gives_key (gives_decodeAt short shallow spent enough) offset).bind
  rintro ⟨held, start⟩ -
  apply (gives_skipAt short shallow spent enough start).bind
  rintro next -
  refine .found ⟨?_, rfl⟩
  subst same
  exact apply_ite (Option.map BitVec.toNat) (held = wanted) (some start) found

theorem gives_child (opening : Opening) (step : Step) :
    Gives (Option.map BitVec.toNat) (machine.child frames depth opening step)
      (machine.data.child levels opening.header step.number) := by
  have same : opening.header.kind = opening.kind := rfl
  cases step with
  | key text =>
      rw [child, Step.number, Section.child, same]
      by_cases map : opening.kind = .map
      · have start : (none : Option Size).map BitVec.toNat = none := rfl
        rw [if_pos map, if_pos map, ← bind_pure (Section.findKey _ _ _ _ _ _)]
        apply (agrees_gather (loops_findKey _ _ _)
          (agrees_candidate short shallow spent enough text.toUTF8)
          opening.size.toNat start opening.payload).bind
        rintro ⟨found, next⟩ _ - ⟨_, same, rfl⟩
        exact .found same
      · rw [if_neg map, if_neg map]
        exact .found rfl
  | index position =>
      have inside : position < opening.size ↔ position.toNat < opening.header.size :=
        BitVec.lt_def
      rw [child, Step.number, Section.child, same]
      by_cases reached : opening.kind = .array ∧ position.toNat < opening.header.size
      · rw [if_pos ⟨reached.1, inside.mpr reached.2⟩, if_pos reached]
        apply (gives_advance (gives_skipAt short shallow spent enough) _ _).bind_map
        rintro start -
        exact .found rfl
      · rw [if_neg fun both => reached ⟨both.1, inside.mp both.2⟩, if_neg reached]
        exact .found rfl

end Levels

theorem gives_lookupAt {frames : Nat} (enough : machine.limit.toNat < frames)
    (path : List Step) {levels : Nat} {depth : Size}
    (spent : depth.toNat + levels = machine.limit.toNat) (offset : Size) :
    Gives id (machine.lookupAt frames path offset depth)
      (machine.data.lookupAt (path.map Step.number) levels offset.toNat) := by
  induction path generalizing levels depth offset with
  | nil =>
      apply (gives_decodeAt short shallow spent (by omega) offset).bind_map
      rintro ⟨value, next⟩ -
      exact .found rfl
  | cons step path ih =>
      rw [List.map_cons, Section.lookupAt]
      apply (agrees_resolve short shallow spent (by omega) offset).bind
      rintro ⟨opening, deep⟩ ⟨_, left⟩ - ⟨rfl, count⟩
      apply agrees_enter_one shallow count
      · rintro rfl
        rfl
      · rintro fewer deeper rfl count
        apply (gives_child short shallow count (by omega) opening step).bind
        rintro (_ | start) -
        · exact .found rfl
        · exact ih count start

/-! ## From the top -/

theorem gives_decode (offset : Size) :
    Gives (Prod.map id BitVec.toNat) (machine.decode offset)
      (machine.data.decode offset.toNat) :=
  gives_decodeAt short shallow (Nat.zero_add _) (Nat.lt_succ_self _) offset

theorem gives_skip (offset : Size) :
    Gives BitVec.toNat (machine.skip offset) (machine.data.skip offset.toNat) :=
  gives_skipAt short shallow (Nat.zero_add _) (Nat.lt_succ_self _) offset

theorem gives_lookup (offset : Size) (path : List Step) :
    Gives id (machine.lookup offset path)
      (machine.data.lookup offset.toNat (path.map Step.number)) :=
  gives_lookupAt short shallow (Nat.lt_succ_self _) path (Nat.zero_add _) offset

end Whole

namespace Cursor

/-- A cursor yields the same item, and comes to the same offset in the same bytes. -/
theorem exists_next (cursor : Cursor) (short : cursor.machine.bytes.size < 2 ^ 63)
    (shallow : cursor.machine.limit.toNat < 2 ^ 64 - 1) :
    ∃ item behind, cursor.next = .ok (item, behind) ∧ behind.machine = cursor.machine ∧
      cursor.number.next = (item.map Item.number, behind.number) := by
  have ended : (cursor.number.failed || decide (cursor.number.data.size ≤ cursor.number.offset)) =
      (cursor.failed || decide (cursor.machine.length ≤ cursor.offset)) := by
    have same : cursor.machine.length ≤ cursor.offset ↔
        cursor.number.data.size ≤ cursor.number.offset := by
      rw [BitVec.le_def, toNat_length short]
      rfl
    rw [decide_eq_decide.mpr same]
    rfl
  have numbers : cursor.number.data.decode cursor.number.offset =
      cursor.machine.data.decode cursor.offset.toNat := rfl
  have gives := gives_decode short shallow cursor.offset
  rw [next, DataSection.Cursor.next, ended, numbers]
  split
  · exact ⟨none, cursor, rfl, rfl, rfl⟩
  · generalize cursor.machine.decode cursor.offset = run at gives
    generalize cursor.machine.data.decode cursor.offset.toNat = outcome at gives
    cases gives with
    | @found word _ same =>
        subst same
        exact ⟨some (.ok (cursor.offset, word.1)), { cursor with offset := word.2 }, rfl, rfl, rfl⟩
    | failed error => exact ⟨some (.error error), { cursor with failed := true }, rfl, rfl, rfl⟩

theorem exists_take (cursor : Cursor) (short : cursor.machine.bytes.size < 2 ^ 63)
    (shallow : cursor.machine.limit.toNat < 2 ^ 64 - 1) (count : Nat) (items : List Item) :
    ∃ yielded behind, cursor.take count items = .ok (yielded, behind) ∧
      cursor.number.take count (items.map Item.number) =
        (yielded.map Item.number, behind.number) := by
  induction count generalizing cursor items with
  | zero => exact ⟨_, _, rfl, by rw [List.map_reverse]; rfl⟩
  | succ count ih =>
      obtain ⟨item, behind, yielded, same, number⟩ := cursor.exists_next short shallow
      rw [take, yielded, DataSection.Cursor.take, number]
      cases item with
      | none => exact ⟨_, _, rfl, by rw [List.map_reverse]; rfl⟩
      | some item =>
          rw [← same] at short shallow
          exact ih behind short shallow (item :: items)

end Cursor

/-- In fewer than `2 ^ 63` bytes and with a limit below the largest word, a machine never traps,
whatever the bytes, the base, the offset and the path are.  What it comes to stands for what
reading in numbers comes to, in which a pointer to where no word reaches leads outside. -/
theorem never_traps_and_reads_alike (short : machine.bytes.size < 2 ^ 63)
    (shallow : machine.limit.toNat < 2 ^ 64 - 1) (offset : Size) (path : List Step)
    (count : Nat) :
    (machine.decode offset).run.map (Except.map (Prod.map id BitVec.toNat)) =
        .ok (machine.data.decode offset.toNat) ∧
      (machine.skip offset).run.map (Except.map BitVec.toNat) =
        .ok (machine.data.skip offset.toNat) ∧
      (machine.lookup offset path).run =
        .ok (machine.data.lookup offset.toNat (path.map Step.number)) ∧
      ((machine.cursor offset).take count []).map
          (Prod.map (List.map Cursor.Item.number) Cursor.number) =
        .ok ((machine.data.cursor offset.toNat).take count []) := by
  refine ⟨(gives_decode short shallow offset).run_eq, (gives_skip short shallow offset).run_eq,
    ?_, ?_⟩
  · have looked := (gives_lookup short shallow offset path).run_eq
    rwa [Except.map_id, Except.map_id] at looked
  · obtain ⟨yielded, behind, taken, number⟩ :=
      (machine.cursor offset).exists_take short shallow count []
    rw [taken]
    exact congrArg Except.ok number.symm

/-- An array of a pointer, and the number behind it to which the pointer leads. -/
def pointerInArray : Machine where
  bytes := ⟨#[0x01, 0x04, 0x20, 0x04, 0xA1, 0x07]⟩
  base := 0
  limit := 2

theorem pointerInArray_reads_alike :
    let item : Value := .array [.uint16 7]
    pointerInArray.bytes.size < 2 ^ 63 ∧ pointerInArray.limit.toNat < 2 ^ 64 - 1 ∧
      (pointerInArray.decode 0).run.map (Except.map (Prod.map id BitVec.toNat)) =
        .ok (.ok (item, 4)) ∧
      (pointerInArray.skip 0).run.map (Except.map BitVec.toNat) = .ok (.ok 4) ∧
      (pointerInArray.lookup 0 [.index 0]).run = .ok (.ok (some (.uint16 7))) ∧
      ((pointerInArray.cursor 0).take 3 []).map
          (Prod.map (List.map Cursor.Item.number) Cursor.number) =
        .ok ([.ok (0, item), .ok (4, .uint16 7)], ⟨pointerInArray.data, 6, false⟩) := by
  intro item
  have short : pointerInArray.bytes.size < 2 ^ 63 := by decide
  have shallow : pointerInArray.limit.toNat < 2 ^ 64 - 1 := by decide
  exact ⟨short, shallow, never_traps_and_reads_alike short shallow 0 [.index 0] 3⟩

end DataSection.Machine
