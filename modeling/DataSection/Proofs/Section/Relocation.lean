import DataSection.Proofs.Section.Item
import DataSection.Section.Cursor
import DataSection.Section.Lookup

/-!
# Relocating a section

A section may stand behind other bytes, as it does in a file that begins with something
else.  If its pointers count from where it now begins, everything that can be done with it
comes out the same, with every offset further on by the number of bytes before it.

There is one statement for each reading function.  An outcome is relocated as a whole, so
values, ends and errors need no statements of their own.
-/

namespace DataSection

/-- The same error in a section that stands behind so many bytes. -/
def ReadError.relocate (distance : Nat) : ReadError → ReadError
  | .unknownKind code offset => .unknownKind code (distance + offset)
  | .outOfBounds offset needed available =>
      .outOfBounds (distance + offset) needed (distance + available)
  | .invalidKey offset found => .invalidKey (distance + offset) found
  | .tooDeep limit => .tooDeep limit
  | .invalidSize kind size offset => .invalidSize kind size (distance + offset)
  | .illFormedText validUpTo => .illFormedText validUpTo

/-- The same header in a section that stands behind so many bytes. -/
def Header.relocate (distance : Nat) (header : Header) : Header :=
  { header with payload := distance + header.payload }

@[simp] theorem Header.kind_relocate (distance : Nat) (header : Header) :
    (header.relocate distance).kind = header.kind := rfl

@[simp] theorem Header.size_relocate (distance : Nat) (header : Header) :
    (header.relocate distance).size = header.size := rfl

@[simp] theorem Header.payload_relocate (distance : Nat) (header : Header) :
    (header.relocate distance).payload = distance + header.payload := rfl

namespace Section

variable {α β γ δ : Type}

/-! ## Outcomes -/

/-- The outcome in a section that stands behind so many bytes, where `place` does the
same to what was found. -/
def relocate (distance : Nat) (place : α → β) : Except ReadError α → Except ReadError β
  | .error error => .error (error.relocate distance)
  | .ok found => .ok (place found)

/-- What was found, with its end further on. -/
def placeEnd (distance : Nat) (found : α × Nat) : α × Nat :=
  (found.1, distance + found.2)

@[simp] theorem relocate_error (distance : Nat) (place : α → β) (error : ReadError) :
    relocate distance place (.error error) = .error (error.relocate distance) := rfl

@[simp] theorem relocate_ok (distance : Nat) (place : α → β) (found : α) :
    relocate distance place (.ok found) = .ok (place found) := rfl

/-- Two readings one after the other are relocated if each of them is. -/
theorem relocate_bind {distance : Nat} {place : α → β} {placeLast : γ → δ}
    {outcome : Except ReadError α} {next : α → Except ReadError γ}
    {relocatedNext : β → Except ReadError δ}
    (each : ∀ found, relocatedNext (place found) = relocate distance placeLast (next found)) :
    relocate distance place outcome >>= relocatedNext =
      relocate distance placeLast (outcome >>= next) := by
  cases outcome with
  | error error => rfl
  | ok found => exact each found

theorem map_relocate {distance : Nat} {place : α → α} {placeImage : β → β} {f : α → β}
    (commute : ∀ found, f (place found) = placeImage (f found)) (outcome : Except ReadError α) :
    (relocate distance place outcome).map f = relocate distance placeImage (outcome.map f) := by
  cases outcome with
  | error error => rfl
  | ok found => exact congrArg Except.ok (commute found)

/-! ## Bytes -/

variable (data : Section) (before : ByteArray)

/-- The section behind other bytes, with pointers that count from behind them. -/
def behind : Section where
  bytes := before ++ data.bytes
  base := data.base + before.size
  limit := data.limit

@[simp] theorem size_behind : (data.behind before).size = before.size + data.size :=
  ByteArray.size_append

@[simp] theorem base_behind : (data.behind before).base = data.base + before.size := rfl

@[simp] theorem limit_behind : (data.behind before).limit = data.limit := rfl

variable {data before}

theorem byteAt_behind (offset : Nat) :
    (data.behind before).byteAt (before.size + offset) =
      relocate before.size id (data.byteAt offset) := by
  cases read : data.byteAt offset with
  | error error =>
      obtain ⟨outside, rfl⟩ := byteAt_eq_error_iff.mp read
      refine byteAt_eq_error_iff.mpr ⟨?_, ?_⟩
      · rw [size_behind]
        exact Nat.add_le_add_left outside _
      · rw [size_behind]
        rfl
  | ok byte =>
      obtain ⟨inside, rfl⟩ := byteAt_eq_ok_iff.mp read
      have behindInside : before.size + offset < (before ++ data.bytes).size := by
        rw [ByteArray.size_append]
        exact Nat.add_lt_add_left inside _
      refine byteAt_eq_ok_iff.mpr ⟨behindInside, ?_⟩
      have same : (before ++ data.bytes)[before.size + offset] = data.bytes[offset] := by
        rw [ByteArray.getElem_append_right (Nat.le_add_right _ _)]
        simp only [Nat.add_sub_cancel_left]
      exact same

theorem slice_behind (offset length : Nat) :
    (data.behind before).slice (before.size + offset) length =
      relocate before.size id (data.slice offset length) := by
  rw [slice, slice, size_behind, Nat.add_assoc]
  by_cases inside : offset + length ≤ data.size
  · rw [if_pos inside, if_pos (Nat.add_le_add_left inside _)]
    simp only [behind, relocate_ok, id_eq, ByteArray.extract_append_size_add]
  · rw [if_neg inside, if_neg (fun further => inside (Nat.le_of_add_le_add_left further))]
    rfl

theorem numeral_behind (offset length : Nat) :
    (data.behind before).numeral (before.size + offset) length =
      relocate before.size id (data.numeral offset length) := by
  rw [numeral, slice_behind, numeral]
  apply map_relocate
  intro digits
  rfl

/-! ## Headers and pointers -/

theorem kindCode_behind (control : UInt8) (offset : Nat) :
    (data.behind before).kindCode control (before.size + offset) =
      relocate before.size (placeEnd before.size) (data.kindCode control offset) := by
  unfold kindCode
  split
  · rw [Nat.add_assoc, byteAt_behind]
    apply relocate_bind
    intro extension
    rfl
  · rfl

theorem sizeField_behind (field offset : Nat) :
    (data.behind before).sizeField field (before.size + offset) =
      relocate before.size (placeEnd before.size) (data.sizeField field offset) := by
  unfold sizeField
  split
  · rfl
  · dsimp only
    rw [numeral_behind]
    apply relocate_bind
    intro number
    simp only [pure, Except.pure, relocate_ok, placeEnd, id_eq, Nat.add_assoc]

variable (data before) in
theorem header_behind (offset : Nat) :
    (data.behind before).header (before.size + offset) =
      relocate before.size (Header.relocate before.size) (data.header offset) := by
  unfold Section.header
  rw [byteAt_behind]
  apply relocate_bind
  intro control
  rw [id_eq, kindCode_behind]
  apply relocate_bind
  rintro ⟨code, next⟩
  simp only [placeEnd]
  cases Kind.ofCode? code with
  | none => rfl
  | some kind =>
      dsimp only
      split
      · rfl
      · rw [sizeField_behind]
        apply relocate_bind
        rintro ⟨size, payload⟩
        rfl

/-- What a pointer's bytes and bits express, with the bias of its width, is far below the
range of offsets. -/
theorem pointer_number_lt {low : Nat} {field : Nat} (small : low < 256 ^ pointerBytes field) :
    (if pointerBytes field = 4 then low else field % 8 * 256 ^ pointerBytes field + low) +
      Format.pointerBias (pointerBytes field) < 2 ^ 33 := by
  have widths : pointerBytes field = 1 ∨ pointerBytes field = 2 ∨ pointerBytes field = 3 ∨
      pointerBytes field = 4 := by
    unfold pointerBytes
    omega
  rcases widths with width | width | width | width <;> rw [width] at small ⊢ <;>
    simp [Format.pointerBias] <;> omega

/-- A pointer leads to the same item.  The hypothesis keeps every target within the range
of offsets, at either place. -/
theorem pointer_behind (room : data.base + before.size + 2 ^ 33 < Format.offsetRange)
    (header : Header) :
    (data.behind before).pointer (header.relocate before.size) =
      relocate before.size (fun reached => (before.size + reached.1, before.size + reached.2))
        (data.pointer header) := by
  unfold pointer
  dsimp only
  rw [Header.payload_relocate, Header.size_relocate, numeral_behind]
  cases read : data.numeral header.payload (pointerBytes header.size) with
  | error error => rfl
  | ok low =>
      have bound := pointer_number_lt (numeral_lt read)
      simp only [relocate_ok, id_eq, bind, Except.bind]
      generalize (if pointerBytes header.size = 4 then low else _) = number at bound ⊢
      have target : number + (data.behind before).base +
            Format.pointerBias (pointerBytes header.size) =
          before.size + (number + data.base + Format.pointerBias (pointerBytes header.size)) := by
        rw [base_behind]
        omega
      rw [target, if_pos (by omega), if_pos (by omega), Nat.add_assoc before.size]
      rfl

/-! ## Reading -/

theorem content_behind (header : Header) :
    (data.behind before).content (header.relocate before.size) =
      relocate before.size (placeEnd before.size) (data.content header) := by
  unfold content
  rw [Header.payload_relocate, Header.size_relocate, slice_behind]
  apply relocate_bind
  intro content
  rw [Nat.add_assoc]
  rfl

theorem number_behind (header : Header) :
    (data.behind before).number (header.relocate before.size) =
      relocate before.size (placeEnd before.size) (data.number header) := by
  rw [number_eq, number_eq, content_behind, Header.kind_relocate, Header.size_relocate]
  split
  · apply map_relocate
    intro found
    rfl
  · rfl

/-- Reading with `behindRead` from behind other bytes is reading with `read`, relocated. -/
def Relocated (distance : Nat) (behindRead read : Nat → Except ReadError (α × Nat)) : Prop :=
  ∀ offset, behindRead (distance + offset) =
    relocate distance (placeEnd distance) (read offset)

theorem Relocated.collect {distance : Nat} {behindRead read : Nat → Except ReadError (α × Nat)}
    (relocated : Relocated distance behindRead read) (count offset : Nat) (items : List α) :
    Section.collect behindRead count (distance + offset) items =
      relocate distance (placeEnd distance) (Section.collect read count offset items) := by
  induction count generalizing offset items with
  | zero => rfl
  | succ count ih =>
      rw [Section.collect, Section.collect, relocated offset]
      cases read offset with
      | error error => rfl
      | ok found => exact ih found.2 (found.1 :: items)

section Values

variable {distance : Nat} {behindRead read : Nat → Except ReadError (Value × Nat)}

theorem Relocated.key (relocated : Relocated distance behindRead read) :
    Relocated distance (Section.key behindRead) (Section.key read) := by
  intro offset
  rw [Section.key, Section.key, relocated offset]
  cases read offset with
  | error error => rfl
  | ok found =>
      obtain ⟨value, next⟩ := found
      cases value <;> rfl

theorem Relocated.entry (relocated : Relocated distance behindRead read) :
    Relocated distance (Section.entry behindRead) (Section.entry read) := by
  intro offset
  unfold Section.entry
  rw [relocated.key offset]
  apply relocate_bind
  rintro ⟨key, middle⟩
  dsimp only [placeEnd]
  rw [relocated middle]
  apply relocate_bind
  rintro ⟨value, next⟩
  rfl

end Values

variable {behindRead read : Nat → Except ReadError (Value × Nat)}

/-- An item reads the same if the items below it and behind pointers do. -/
theorem Relocated.decodeNode (room : data.base + before.size + 2 ^ 33 < Format.offsetRange)
    (relocated : Relocated before.size behindRead read) :
    Relocated before.size ((data.behind before).decodeNode behindRead)
      (data.decodeNode read) := by
  intro offset
  have header := header_behind data before offset
  cases found : data.header offset with
  | error error =>
      rw [found] at header
      rw [decodeNode_of_header_error found, decodeNode_of_header_error header]
      rfl
  | ok opened =>
      rw [found] at header
      rcases opened.kind.eq_or_isLeaf with pointer | array | map | leaf
      · rw [decodeNode_pointer found pointer, decodeNode_pointer header pointer,
          pointer_behind room]
        cases data.pointer opened with
        | error error => rfl
        | ok reached =>
            dsimp only [relocate_ok]
            rw [relocated reached.1]
            cases read reached.1 <;> rfl
      · rw [decodeNode_array found array, decodeNode_array header array]
        rw [Header.size_relocate, Header.payload_relocate, relocated.collect]
        apply map_relocate
        intro elements
        rfl
      · rw [decodeNode_map found map, decodeNode_map header map]
        rw [Header.size_relocate, Header.payload_relocate, relocated.entry.collect]
        apply map_relocate
        intro entries
        rfl
      · rcases Kind.eq_boolean_or_of_isLeaf leaf with boolean | text | number
        · rw [decodeNode_boolean found boolean, decodeNode_boolean header boolean]
          rfl
        · rw [decodeNode_text found text, decodeNode_text header text, content_behind]
          apply map_relocate
          intro payload
          rfl
        · rw [decodeNode_number found number, decodeNode_number header number, number_behind]
          apply map_relocate
          intro payload
          rfl

theorem decodeAt_behind (room : data.base + before.size + 2 ^ 33 < Format.offsetRange)
    (levels : Nat) :
    Relocated before.size ((data.behind before).decodeAt levels) (data.decodeAt levels) := by
  induction levels with
  | zero =>
      apply Relocated.decodeNode room
      intro offset
      rfl
  | succ levels ih => exact Relocated.decodeNode room ih

/-! ## Skipping -/

theorem advance_behind {distance : Nat} {behindStep step : Nat → Except ReadError Nat}
    (relocated : ∀ offset, behindStep (distance + offset) =
      relocate distance (distance + ·) (step offset)) (count offset : Nat) :
    advance behindStep count (distance + offset) =
      relocate distance (distance + ·) (advance step count offset) := by
  induction count generalizing offset with
  | zero => rfl
  | succ count ih =>
      rw [advance, advance, relocated offset]
      cases step offset with
      | error error => rfl
      | ok next => exact ih next

/-- An item is skipped to the same place if the items below it are. -/
theorem skipNode_behind (room : data.base + before.size + 2 ^ 33 < Format.offsetRange)
    {behindStep step : Nat → Except ReadError Nat}
    (relocated : ∀ offset, behindStep (before.size + offset) =
      relocate before.size (before.size + ·) (step offset)) (offset : Nat) :
    (data.behind before).skipNode behindStep (before.size + offset) =
      relocate before.size (before.size + ·) (data.skipNode step offset) := by
  have header := header_behind data before offset
  cases found : data.header offset with
  | error error =>
      rw [found] at header
      rw [skipNode_of_header_error found, skipNode_of_header_error header]
      rfl
  | ok opened =>
      rw [found] at header
      rcases opened.kind.eq_or_isLeaf with pointer | array | map | leaf
      · rw [skipNode_pointer found pointer, skipNode_pointer header pointer, pointer_behind room]
        cases data.pointer opened <;> rfl
      · rw [skipNode_array found array, skipNode_array header array]
        exact advance_behind relocated _ _
      · rw [skipNode_map found map, skipNode_map header map]
        exact advance_behind relocated _ _
      · rcases Kind.eq_boolean_or_of_isLeaf leaf with boolean | scalar
        · rw [skipNode_boolean found boolean, skipNode_boolean header boolean]
          rfl
        · rw [skipNode_content found scalar, skipNode_content header scalar, content_behind]
          cases data.content opened <;> rfl

theorem skipAt_behind (room : data.base + before.size + 2 ^ 33 < Format.offsetRange)
    (levels offset : Nat) :
    (data.behind before).skipAt levels (before.size + offset) =
      relocate before.size (before.size + ·) (data.skipAt levels offset) := by
  induction levels generalizing offset with
  | zero =>
      apply skipNode_behind room
      intro offset
      rfl
  | succ levels ih =>
      apply skipNode_behind room
      exact ih

/-! ## Looking up -/

theorem resolve_behind (room : data.base + before.size + 2 ^ 33 < Format.offsetRange)
    (levels offset : Nat) :
    (data.behind before).resolve levels (before.size + offset) =
      relocate before.size (fun found => (found.1.relocate before.size, found.2))
        (data.resolve levels offset) := by
  induction levels generalizing offset with
  | zero =>
      unfold resolve
      rw [header_behind]
      apply relocate_bind
      intro header
      rw [Header.kind_relocate]
      split <;> rfl
  | succ levels ih =>
      unfold resolve
      rw [header_behind]
      apply relocate_bind
      intro header
      rw [Header.kind_relocate]
      split
      · rw [pointer_behind room]
        apply relocate_bind
        intro reached
        exact ih reached.1
      · rfl

theorem findKey_behind (room : data.base + before.size + 2 ^ 33 < Format.offsetRange)
    (levels : Nat) (wanted : ByteArray) (count offset : Nat) (found : Option Nat) :
    (data.behind before).findKey levels wanted count (before.size + offset)
        (found.map (before.size + ·)) =
      relocate before.size (Option.map (before.size + ·))
        (data.findKey levels wanted count offset found) := by
  induction count generalizing offset found with
  | zero => rfl
  | succ count ih =>
      rw [findKey, findKey, (decodeAt_behind room levels).key offset]
      cases key (data.decodeAt levels) offset with
      | error error => rfl
      | ok read =>
          obtain ⟨held, start⟩ := read
          dsimp only [relocate_ok, placeEnd]
          rw [skipAt_behind room]
          cases data.skipAt levels start with
          | error error => rfl
          | ok next =>
              dsimp only [relocate_ok]
              rw [← ih]
              split <;> rfl

theorem child_behind (room : data.base + before.size + 2 ^ 33 < Format.offsetRange)
    (levels : Nat) (header : Header) (step : Step) :
    (data.behind before).child levels (header.relocate before.size) step =
      relocate before.size (Option.map (before.size + ·)) (data.child levels header step) := by
  cases step with
  | key text =>
      rw [child, child, Header.kind_relocate]
      split
      · exact findKey_behind room levels _ _ _ none
      · rfl
  | index position =>
      rw [child, child, Header.kind_relocate, Header.size_relocate]
      split
      · rw [Header.payload_relocate, advance_behind (skipAt_behind room levels)]
        apply map_relocate
        intro start
        rfl
      · rfl

theorem lookupAt_behind (room : data.base + before.size + 2 ^ 33 < Format.offsetRange)
    (path : Path) (levels offset : Nat) :
    (data.behind before).lookupAt path levels (before.size + offset) =
      relocate before.size id (data.lookupAt path levels offset) := by
  induction path generalizing levels offset with
  | nil =>
      rw [lookupAt, lookupAt, decodeAt_behind room levels offset]
      cases data.decodeAt levels offset <;> rfl
  | cons step path ih =>
      rw [lookupAt, lookupAt, resolve_behind room]
      apply relocate_bind
      rintro ⟨header, left⟩
      cases left with
      | zero => rfl
      | succ left =>
          dsimp only
          rw [child_behind room]
          apply relocate_bind
          intro start
          cases start with
          | none => rfl
          | some start => exact ih left start

end Section

/-! ## Reading on -/

namespace Cursor

variable {before : ByteArray}

/-- A cursor at the same place of the section behind other bytes. -/
def behind (cursor : Cursor) (before : ByteArray) : Cursor where
  data := cursor.data.behind before
  offset := before.size + cursor.offset
  failed := cursor.failed

/-- The same item in a section that stands behind so many bytes. -/
def Item.relocate (distance : Nat) : Item → Item :=
  Section.relocate distance fun found => (distance + found.1, found.2)

theorem next_behind (cursor : Cursor)
    (room : cursor.data.base + before.size + 2 ^ 33 < Format.offsetRange) :
    (cursor.behind before).next =
      (cursor.next.1.map (Item.relocate before.size), cursor.next.2.behind before) := by
  have ended : (cursor.behind before).data.size ≤ (cursor.behind before).offset ↔
      cursor.data.size ≤ cursor.offset := by
    change (cursor.data.behind before).size ≤ before.size + cursor.offset ↔ _
    rw [Section.size_behind, Nat.add_le_add_iff_left]
  have decoded : (cursor.behind before).data.decode (cursor.behind before).offset =
      Section.relocate before.size (Section.placeEnd before.size)
        (cursor.data.decode cursor.offset) :=
    Section.decodeAt_behind room cursor.data.limit cursor.offset
  unfold next
  rw [decoded]
  simp only [ended]
  by_cases stopped : (cursor.failed || decide (cursor.data.size ≤ cursor.offset)) = true
  · have behindStopped : ((cursor.behind before).failed ||
        decide (cursor.data.size ≤ cursor.offset)) = true := stopped
    rw [if_pos stopped, if_pos behindStopped]
    rfl
  · have behindRunning : ¬((cursor.behind before).failed ||
        decide (cursor.data.size ≤ cursor.offset)) = true := stopped
    rw [if_neg stopped, if_neg behindRunning]
    cases cursor.data.decode cursor.offset <;> rfl

theorem data_next (cursor : Cursor) : cursor.next.2.data = cursor.data := by
  unfold next
  split
  · rfl
  · split <;> rfl

theorem take_behind (count : Nat) (cursor : Cursor)
    (room : cursor.data.base + before.size + 2 ^ 33 < Format.offsetRange) (items : List Item) :
    take count (cursor.behind before) (items.map (Item.relocate before.size)) =
      ((take count cursor items).1.map (Item.relocate before.size),
        (take count cursor items).2.behind before) := by
  induction count generalizing cursor items with
  | zero =>
      rw [take, take, List.map_reverse]
  | succ count ih =>
      rw [take, take, next_behind cursor room]
      have data := data_next cursor
      cases result : cursor.next with
      | mk item rest =>
          rw [result] at data
          cases item with
          | none => simp only [Option.map_none, List.map_reverse]
          | some item =>
              dsimp only [Option.map_some]
              rw [← data] at room
              exact ih rest room (item :: items)

end Cursor

namespace Section

theorem items_behind (data : Section) (before : ByteArray)
    (room : data.base + before.size + 2 ^ 33 < Format.offsetRange) (offset : Nat) :
    (data.behind before).items (before.size + offset) =
      (data.items offset).map (Cursor.Item.relocate before.size) := by
  have taken := Cursor.take_behind (data.size - offset) (data.cursor offset) room []
  unfold items
  rw [size_behind, Nat.add_sub_add_left]
  exact congrArg Prod.fst taken

/-- A section behaves the same behind other bytes, if its pointers count from where it now
begins.  Every reading function gives the same values, with ends, offsets of items and
offsets of errors further on by the number of bytes before it, and the same in all else.
So do any number of steps of a cursor. -/
theorem relocated_behind (data : Section) (before : ByteArray)
    (room : data.base + before.size + 2 ^ 33 < Format.offsetRange) (offset : Nat) (path : Path) :
    (data.behind before).decode (before.size + offset) =
        relocate before.size (fun found => (found.1, before.size + found.2))
          (data.decode offset) ∧
      (data.behind before).skip (before.size + offset) =
        relocate before.size (before.size + ·) (data.skip offset) ∧
      (data.behind before).lookup (before.size + offset) path =
        relocate before.size id (data.lookup offset path) ∧
      (∀ count,
        (Cursor.take count ((data.behind before).cursor (before.size + offset)) []).1 =
          (Cursor.take count (data.cursor offset) []).1.map
            (relocate before.size fun found => (before.size + found.1, found.2))) ∧
      (data.behind before).items (before.size + offset) =
        (data.items offset).map
          (relocate before.size fun found => (before.size + found.1, found.2)) := by
  refine ⟨?_, ?_, ?_, ?_, ?_⟩
  · exact decodeAt_behind room data.limit offset
  · exact skipAt_behind room data.limit offset
  · exact lookupAt_behind room path data.limit offset
  · intro count
    exact congrArg Prod.fst (Cursor.take_behind count (data.cursor offset) room [])
  · exact items_behind data before room offset

/-- A pointer to the number behind it, and that number. -/
def pointerToNext : Section :=
  { bytes := ⟨#[0x20, 0x02, 0xA1, 0x07]⟩, limit := 1 }

/-- Behind another byte the pointer leads to the same number, and what is missing behind
the number is missing there. -/
theorem relocated_pointerToNext :
    pointerToNext.base + 1 + 2 ^ 33 < Format.offsetRange ∧
      pointerToNext.decode 0 = .ok (.uint16 7, 2) ∧
      (pointerToNext.behind ⟨#[0xFF]⟩).decode 1 = .ok (.uint16 7, 3) ∧
      pointerToNext.decode 4 = .error (.outOfBounds 4 1 4) ∧
      (pointerToNext.behind ⟨#[0xFF]⟩).decode 5 = .error (.outOfBounds 5 1 5) := by
  have room : pointerToNext.base + 1 + 2 ^ 33 < Format.offsetRange := by decide
  have first : pointerToNext.decode 0 = .ok (.uint16 7, 2) := rfl
  have last : pointerToNext.decode 4 = .error (.outOfBounds 4 1 4) := rfl
  have found := (relocated_behind pointerToNext ⟨#[0xFF]⟩ room 0 []).1
  have missing := (relocated_behind pointerToNext ⟨#[0xFF]⟩ room 4 []).1
  rw [first] at found
  rw [last] at missing
  exact ⟨room, first, found, last, missing⟩

end Section

end DataSection
