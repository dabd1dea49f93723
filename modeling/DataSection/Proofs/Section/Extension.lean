import DataSection.Proofs.Section.Lookup

/-!
# Extending a section

An extension of a section has the same bytes, perhaps with more behind them, and pointers
that count from the same offset.  A reading of it may also be left more levels.

Such a reading follows the one of the section itself.  What that finds it finds, and where
that fails it fails alike, because an error that lies in the bytes is there to stay.  Two
errors are different: a read past the end depends on where the end is, and running out of
levels on how many there are.

`Follows` says this of two outcomes, and one statement for each reading function carries
it to whole values and whole lookups.  More bytes, more levels and another limit are the
same statements with different extensions.
-/

namespace DataSection

/-- Whether the error lies in bytes that are there, so that neither more bytes nor more
levels remove it. -/
def ReadError.isFault : ReadError → Bool
  | .outOfBounds _ _ _ | .tooDeep _ => false
  | _ => true

namespace Section

/-- The other section begins with the same bytes and has its pointers count alike. -/
structure Extension (data other : Section) : Prop where
  bytes : ∃ after, other.bytes = data.bytes ++ after
  base : other.base = data.base

/-- What the outcome in a section says of the outcome in an extension that is left `extra`
levels more. -/
inductive Follows (data other : Section) (extra : Nat) {α : Type} :
    (outcome otherOutcome : Except ReadError α) → Prop where
  | found (result : α) : Follows data other extra (.ok result) (.ok result)
  | fault {error : ReadError} : error.isFault = true →
      Follows data other extra (.error error) (.error error)
  | outside {offset needed : Nat} : other.bytes = data.bytes →
      Follows data other extra (.error (.outOfBounds offset needed data.size))
        (.error (.outOfBounds offset needed data.size))
  /-- What lies outside of the section may lie within the extension. -/
  | lengthened {offset needed : Nat} {otherOutcome : Except ReadError α} :
      other.bytes ≠ data.bytes →
      Follows data other extra (.error (.outOfBounds offset needed data.size)) otherOutcome
  | exhausted : extra = 0 →
      Follows data other extra (.error (.tooDeep data.limit)) (.error (.tooDeep other.limit))
  /-- Where the levels are used up, the extra levels are left. -/
  | deepened {otherOutcome : Except ReadError α} : extra ≠ 0 →
      Follows data other extra (.error (.tooDeep data.limit)) otherOutcome

variable {α β : Type} {data other : Section} {extra : Nat}

/-! ## Outcomes -/

namespace Follows

variable {outcome otherOutcome : Except ReadError α}

/-- A read past the end fails alike if the end is where it was. -/
theorem outOfBounds {offset needed : Nat}
    (outside : other.size = data.size →
      otherOutcome = .error (.outOfBounds offset needed data.size)) :
    Follows data other extra (.error (.outOfBounds offset needed data.size)) otherOutcome := by
  by_cases same : other.bytes = data.bytes
  · rw [outside (congrArg ByteArray.size same)]
    exact .outside same
  · exact .lengthened same

/-- A want of levels stays one if there are no extra levels. -/
theorem tooDeep (exhausted : extra = 0 → otherOutcome = .error (.tooDeep other.limit)) :
    Follows data other extra (.error (.tooDeep data.limit)) otherOutcome := by
  by_cases none : extra = 0
  · rw [exhausted none]
    exact .exhausted none
  · exact .deepened none

/-- Below the last level of the section, only the extra levels are left. -/
theorem descend_zero (below : Nat → Nat → Except ReadError α) (offset : Nat) :
    Follows data other extra (.error (.tooDeep data.limit))
      (other.descend below extra offset) := by
  apply tooDeep
  rintro rfl
  rfl

theorem bind {f g : α → Except ReadError β} (first : Follows data other extra outcome otherOutcome)
    (each : ∀ result, Follows data other extra (f result) (g result)) :
    Follows data other extra (outcome >>= f) (otherOutcome >>= g) := by
  cases first with
  | found result => exact each result
  | fault fault => exact .fault fault
  | outside same => exact .outside same
  | lengthened longer => exact .lengthened longer
  | exhausted none => exact .exhausted none
  | deepened more => exact .deepened more

theorem map (f : α → β) (follows : Follows data other extra outcome otherOutcome) :
    Follows data other extra (outcome.map f) (otherOutcome.map f) := by
  have bound := follows.bind fun result => found (f result)
  cases outcome <;> cases otherOutcome <;> exact bound

/-- What was found is found again. -/
theorem eq_ok {result : α} (follows : Follows data other extra (.ok result) otherOutcome) :
    otherOutcome = .ok result := by
  cases follows
  rfl

/-- A reading that runs out of levels says how many there were. -/
theorem limit_eq {reported : Nat}
    (follows : Follows data other extra (.error (.tooDeep reported)) otherOutcome) :
    reported = data.limit := by
  cases follows with
  | fault fault => cases fault
  | exhausted _ => rfl
  | deepened _ => rfl

/-- With as many levels, only a read past the end comes out otherwise behind more bytes. -/
theorem eq_of_ne_outOfBounds (follows : Follows data other 0 outcome otherOutcome)
    (limit : other.limit = data.limit)
    (inside : ∀ offset needed available, outcome ≠ .error (.outOfBounds offset needed available)) :
    otherOutcome = outcome := by
  cases follows with
  | found result => rfl
  | fault _ => rfl
  | outside _ => rfl
  | lengthened _ => exact absurd rfl (inside _ _ _)
  | exhausted _ => rw [limit]
  | deepened more => exact absurd rfl more

/-- In the same bytes, only running out of levels comes out otherwise with more levels. -/
theorem eq_of_ne_tooDeep (follows : Follows data other extra outcome otherOutcome)
    (bytes : other.bytes = data.bytes) (enough : ∀ limit, outcome ≠ .error (.tooDeep limit)) :
    otherOutcome = outcome := by
  cases follows with
  | found result => rfl
  | fault _ => rfl
  | outside _ => rfl
  | lengthened longer => exact absurd bytes longer
  | exhausted _ => exact absurd rfl (enough _)
  | deepened _ => exact absurd rfl (enough _)

end Follows

namespace Extension

/-- A section is an extension of itself, read with more levels. -/
theorem refl (data : Section) : Extension data data :=
  ⟨⟨.empty, ByteArray.append_empty.symm⟩, rfl⟩

variable (extension : Extension data other)
include extension

/-! ## Bytes -/

theorem byteAt (offset : Nat) :
    Follows data other extra (data.byteAt offset) (other.byteAt offset) := by
  cases read : data.byteAt offset with
  | error error =>
      obtain ⟨outside, rfl⟩ := byteAt_eq_error_iff.mp read
      apply Follows.outOfBounds
      intro size
      rw [byteAt_eq_error_iff, size]
      exact ⟨outside, rfl⟩
  | ok byte =>
      obtain ⟨inside, rfl⟩ := byteAt_eq_ok_iff.mp read
      obtain ⟨after, bytes⟩ := extension.bytes
      have otherInside : offset < other.bytes.size := by
        rw [bytes, ByteArray.size_append]
        exact Nat.lt_add_right _ inside
      have same : other.bytes[offset] = data.bytes[offset] := by
        simp only [bytes]
        exact ByteArray.getElem_append_left inside
      rw [byteAt_eq_ok_iff.mpr ⟨otherInside, same⟩]
      exact .found _

theorem slice (offset length : Nat) :
    Follows data other extra (data.slice offset length) (other.slice offset length) := by
  cases read : data.slice offset length with
  | error error =>
      obtain ⟨outside, rfl⟩ := slice_eq_error_iff.mp read
      apply Follows.outOfBounds
      intro size
      rw [slice_eq_error_iff, size]
      exact ⟨outside, rfl⟩
  | ok content =>
      obtain ⟨inside, rfl⟩ := slice_eq_ok_iff.mp read
      obtain ⟨after, bytes⟩ := extension.bytes
      have otherInside : offset + length ≤ other.size := by
        unfold Section.size at inside ⊢
        rw [bytes, ByteArray.size_append]
        exact Nat.le_add_right_of_le inside
      have same : other.bytes.extract offset (offset + length) =
          data.bytes.extract offset (offset + length) := by
        have short : offset + length - data.bytes.size = 0 := Nat.sub_eq_zero_of_le inside
        have none : after.extract (offset - data.bytes.size) 0 = .empty :=
          ByteArray.extract_eq_empty_iff.mpr (Nat.zero_le _)
        rw [bytes, ByteArray.extract_append, short, none, ByteArray.append_empty]
      rw [slice_eq_ok_iff.mpr ⟨otherInside, same⟩]
      exact .found _

theorem numeral (offset length : Nat) :
    Follows data other extra (data.numeral offset length) (other.numeral offset length) :=
  (extension.slice offset length).map fun digits => BigEndian.value digits.data.toList

/-! ## Headers and pointers -/

theorem kindCode (control : UInt8) (offset : Nat) :
    Follows data other extra (data.kindCode control offset) (other.kindCode control offset) := by
  unfold Section.kindCode
  split
  · apply (extension.byteAt (offset + 1)).bind
    intro byte
    exact .found _
  · exact .found _

theorem sizeField (field offset : Nat) :
    Follows data other extra (data.sizeField field offset) (other.sizeField field offset) := by
  unfold Section.sizeField
  split
  · exact .found _
  · apply (extension.numeral offset _).bind
    intro number
    exact .found _

theorem header (offset : Nat) :
    Follows data other extra (data.header offset) (other.header offset) := by
  unfold Section.header
  apply (extension.byteAt offset).bind
  intro control
  apply (extension.kindCode control offset).bind
  rintro ⟨code, next⟩
  dsimp only
  cases Kind.ofCode? code with
  | none => exact .fault rfl
  | some kind =>
      dsimp only
      split
      · exact .found _
      · apply (extension.sizeField _ next).bind
        rintro ⟨size, payload⟩
        exact .found _

theorem pointer (header : Header) :
    Follows data other extra (data.pointer header) (other.pointer header) := by
  unfold Section.pointer
  apply (extension.numeral header.payload _).bind
  intro low
  generalize (if pointerBytes header.size = 4 then low else _) = number
  dsimp only
  rw [extension.base]
  split
  · exact .found _
  · apply Follows.outOfBounds
    intro size
    rw [size]
    rfl

/-! ## Reading -/

theorem content (header : Header) :
    Follows data other extra (data.content header) (other.content header) := by
  apply (extension.slice header.payload header.size).bind
  intro content
  exact .found _

theorem number (header : Header) :
    Follows data other extra (data.number header) (other.number header) := by
  rw [number_eq, number_eq]
  split
  · exact (extension.content header).map _
  · exact .fault rfl

end Extension

/-! ## Loops -/

theorem collect_succ_eq_bind (read : Nat → Except ReadError (α × Nat)) (count offset : Nat)
    (items : List α) :
    collect read (count + 1) offset items =
      read offset >>= fun found => collect read count found.2 (found.1 :: items) := by
  rw [collect]
  cases read offset <;> rfl

theorem advance_succ_eq_bind (step : Nat → Except ReadError Nat) (count offset : Nat) :
    advance step (count + 1) offset = step offset >>= advance step count := by
  rw [advance]
  cases step offset <;> rfl

theorem key_eq_bind (read : Nat → Except ReadError (Value × Nat)) (offset : Nat) :
    key read offset =
      read offset >>= fun
        | (.string text, next) => .ok (text, next)
        | (other, _) => .error (.invalidKey offset other.kind) := by
  rw [key]
  cases read offset with
  | error _ => rfl
  | ok found =>
      obtain ⟨value, next⟩ := found
      cases value <;> rfl

theorem findKey_succ_eq_bind (data : Section) (levels : Nat) (wanted : ByteArray)
    (count offset : Nat) (last : Option Nat) :
    data.findKey levels wanted (count + 1) offset last =
      key (data.decodeAt levels) offset >>= fun held =>
        data.skipAt levels held.2 >>= fun next =>
          data.findKey levels wanted count next
            (if held.1 = wanted then some held.2 else last) := by
  rw [findKey]
  cases key (data.decodeAt levels) offset with
  | error _ => rfl
  | ok held =>
      obtain ⟨text, start⟩ := held
      simp only [bind, Except.bind]
      cases data.skipAt levels start <;> rfl

theorem resolve_eq_bind (levels offset : Nat) :
    data.resolve levels offset =
      data.header offset >>= fun header =>
        if header.kind = .pointer then
          data.descend (fun fewer _ =>
            data.pointer header >>= fun reached => data.resolve fewer reached.1) levels offset
        else
          .ok (header, levels) := by
  cases levels <;> rfl

namespace Follows

theorem collect {read otherRead : Nat → Except ReadError (α × Nat)}
    (each : ∀ offset, Follows data other extra (read offset) (otherRead offset))
    (count offset : Nat) (items : List α) :
    Follows data other extra (Section.collect read count offset items)
      (Section.collect otherRead count offset items) := by
  induction count generalizing offset items with
  | zero => exact .found _
  | succ count ih =>
      rw [collect_succ_eq_bind, collect_succ_eq_bind]
      apply (each offset).bind
      intro found
      exact ih found.2 (found.1 :: items)

theorem advance {step otherStep : Nat → Except ReadError Nat}
    (each : ∀ offset, Follows data other extra (step offset) (otherStep offset))
    (count offset : Nat) :
    Follows data other extra (Section.advance step count offset)
      (Section.advance otherStep count offset) := by
  induction count generalizing offset with
  | zero => exact .found _
  | succ count ih =>
      rw [advance_succ_eq_bind, advance_succ_eq_bind]
      apply (each offset).bind
      intro next
      exact ih next

section Values

variable {read otherRead : Nat → Except ReadError (Value × Nat)}
variable (each : ∀ offset, Follows data other extra (read offset) (otherRead offset))
include each

theorem key (offset : Nat) :
    Follows data other extra (Section.key read offset) (Section.key otherRead offset) := by
  rw [key_eq_bind, key_eq_bind]
  apply (each offset).bind
  rintro ⟨value, next⟩
  cases value with
  | string text => exact .found _
  | _ => exact .fault rfl

theorem entry (offset : Nat) :
    Follows data other extra (Section.entry read offset) (Section.entry otherRead offset) := by
  apply (key each offset).bind
  rintro ⟨text, middle⟩
  apply (each middle).bind
  rintro ⟨value, next⟩
  exact .found _

end Values

end Follows

namespace Extension

variable (extension : Extension data other)
include extension

/-! ## Items -/

/-- An item is read alike if the items below it and behind pointers are. -/
theorem decodeNode {read otherRead : Nat → Except ReadError (Value × Nat)}
    (each : ∀ offset, Follows data other extra (read offset) (otherRead offset)) (offset : Nat) :
    Follows data other extra (data.decodeNode read offset) (other.decodeNode otherRead offset) := by
  unfold Section.decodeNode
  apply (extension.header offset).bind
  intro header
  cases header.kind with
  | pointer =>
      apply (extension.pointer header).bind
      rintro ⟨target, next⟩
      apply (each target).bind
      intro pointee
      exact .found _
  | array =>
      apply (Follows.collect each _ _ _).bind
      intro elements
      exact .found _
  | map =>
      apply (Follows.collect (Follows.entry each) _ _ _).bind
      intro entries
      exact .found _
  | boolean => exact .found _
  | string | bytes =>
      apply (extension.content header).bind
      intro content
      exact .found _
  | _ =>
      apply (extension.number header).bind
      intro number
      exact .found _

/-- An item is skipped alike if the items below it are. -/
theorem skipNode {step otherStep : Nat → Except ReadError Nat}
    (each : ∀ offset, Follows data other extra (step offset) (otherStep offset)) (offset : Nat) :
    Follows data other extra (data.skipNode step offset) (other.skipNode otherStep offset) := by
  unfold Section.skipNode
  apply (extension.header offset).bind
  intro header
  cases header.kind with
  | pointer =>
      apply (extension.pointer header).bind
      intro reached
      exact .found _
  | array => exact .advance each _ _
  | map => exact .advance each _ _
  | boolean => exact .found _
  | _ =>
      apply (extension.content header).bind
      intro content
      exact .found _

/-! ## All levels -/

theorem decodeAt (levels offset : Nat) :
    Follows data other extra (data.decodeAt levels offset)
      (other.decodeAt (levels + extra) offset) := by
  induction levels generalizing offset with
  | zero =>
      rw [decodeAt_eq_decodeNode, decodeAt_eq_decodeNode, Nat.zero_add]
      exact extension.decodeNode (Follows.descend_zero other.decodeAt) offset
  | succ levels ih =>
      rw [Nat.add_right_comm]
      exact extension.decodeNode ih offset

theorem skipAt (levels offset : Nat) :
    Follows data other extra (data.skipAt levels offset)
      (other.skipAt (levels + extra) offset) := by
  induction levels generalizing offset with
  | zero =>
      rw [skipAt_eq_skipNode, skipAt_eq_skipNode, Nat.zero_add]
      exact extension.skipNode (Follows.descend_zero other.skipAt) offset
  | succ levels ih =>
      rw [Nat.add_right_comm]
      exact extension.skipNode ih offset

/-! ## Looking up -/

/-- What is done at the end of pointers is done with the extra levels. -/
theorem resolve_bind {f g : Header × Nat → Except ReadError α}
    (each : ∀ header left, Follows data other extra (f (header, left)) (g (header, left + extra)))
    (levels offset : Nat) :
    Follows data other extra (data.resolve levels offset >>= f)
      (other.resolve (levels + extra) offset >>= g) := by
  induction levels generalizing offset with
  | zero =>
      rw [resolve_eq_bind, resolve_eq_bind, Nat.zero_add, bind_assoc, bind_assoc]
      apply (extension.header offset).bind
      intro header
      split
      · apply Follows.tooDeep
        rintro rfl
        rfl
      · have last := each header 0
        rwa [Nat.zero_add] at last
  | succ levels ih =>
      rw [Nat.add_right_comm, resolve_eq_bind, resolve_eq_bind, bind_assoc, bind_assoc]
      apply (extension.header offset).bind
      intro header
      split
      · rw [descend_succ, descend_succ, bind_assoc, bind_assoc]
        apply (extension.pointer header).bind
        intro reached
        exact ih reached.1
      · have last := each header (levels + 1)
        rwa [Nat.add_right_comm] at last

theorem findKey (levels : Nat) (wanted : ByteArray) (count offset : Nat) (last : Option Nat) :
    Follows data other extra (data.findKey levels wanted count offset last)
      (other.findKey (levels + extra) wanted count offset last) := by
  induction count generalizing offset last with
  | zero => exact .found _
  | succ count ih =>
      rw [findKey_succ_eq_bind, findKey_succ_eq_bind]
      apply (Follows.key (extension.decodeAt levels) offset).bind
      intro held
      apply (extension.skipAt levels held.2).bind
      intro next
      exact ih next _

theorem child (levels : Nat) (header : Header) (step : Step) :
    Follows data other extra (data.child levels header step)
      (other.child (levels + extra) header step) := by
  cases step with
  | key text =>
      rw [Section.child, Section.child]
      split
      · exact extension.findKey levels _ _ _ _
      · exact .found _
  | index position =>
      rw [Section.child, Section.child]
      split
      · exact (Follows.advance (extension.skipAt levels) _ _).map some
      · exact .found _

theorem lookupAt (path : Path) (levels offset : Nat) :
    Follows data other extra (data.lookupAt path levels offset)
      (other.lookupAt path (levels + extra) offset) := by
  induction path generalizing levels offset with
  | nil => exact (extension.decodeAt levels offset).map _
  | cons step path ih =>
      rw [Section.lookupAt, Section.lookupAt]
      apply extension.resolve_bind
      intro header left
      cases left with
      | zero =>
          apply Follows.tooDeep
          rintro rfl
          rfl
      | succ left =>
          rw [Nat.add_right_comm]
          apply (extension.child left header step).bind
          intro start
          cases start with
          | none => exact .found _
          | some start => exact ih left start

end Extension

/-- What is read with few levels is read with the limit. -/
theorem decode_of_decodeAt {levels offset : Nat} {result : Value × Nat}
    (few : levels ≤ data.limit) (decoded : data.decodeAt levels offset = .ok result) :
    data.decode offset = .ok result := by
  obtain ⟨extra, limit⟩ := Nat.exists_eq_add_of_le few
  have follows : Follows data data extra (data.decodeAt levels offset)
      (data.decodeAt (levels + extra) offset) := (Extension.refl data).decodeAt levels offset
  rw [decoded, ← limit] at follows
  exact follows.eq_ok

/-! ## More bytes -/

/-- The section with more bytes behind it. -/
def followedBy (data : Section) (after : ByteArray) : Section :=
  { data with bytes := data.bytes ++ after }

theorem extension_followedBy (data : Section) (after : ByteArray) :
    Extension data (data.followedBy after) :=
  ⟨⟨after, rfl⟩, rfl⟩

/-- Bytes behind a section change no answer.  Whatever reading, skipping or looking up gives
but a read past the end, it gives as well when more bytes follow. -/
theorem followedBy_answers_alike (data : Section) (after : ByteArray) (offset : Nat)
    (path : Path) :
    ((∀ start needed available,
          data.decode offset ≠ .error (.outOfBounds start needed available)) →
        (data.followedBy after).decode offset = data.decode offset) ∧
      ((∀ start needed available,
          data.skip offset ≠ .error (.outOfBounds start needed available)) →
        (data.followedBy after).skip offset = data.skip offset) ∧
      ((∀ start needed available,
          data.lookup offset path ≠ .error (.outOfBounds start needed available)) →
        (data.followedBy after).lookup offset path = data.lookup offset path) := by
  have extension := extension_followedBy data after
  refine ⟨fun inside => ?_, fun inside => ?_, fun inside => ?_⟩
  · exact (extension.decodeAt data.limit offset).eq_of_ne_outOfBounds rfl inside
  · exact (extension.skipAt data.limit offset).eq_of_ne_outOfBounds rfl inside
  · exact (extension.lookupAt path data.limit offset).eq_of_ne_outOfBounds rfl inside

/-- An array of a number and another one whose size is not allowed and whose payload is
missing. -/
def brokenArray : Section :=
  { bytes := ⟨#[0x02, 0x04, 0xA1, 0x07, 0xC5]⟩, limit := 1 }

/-- The size is refused and the first number is found whether or not bytes follow. -/
theorem followedBy_brokenArray :
    let after : ByteArray := ⟨#[0x00, 0x00, 0x00, 0x00, 0x01]⟩
    brokenArray.decode 0 = .error (.invalidSize .uint32 5 5) ∧
      (brokenArray.followedBy after).decode 0 = .error (.invalidSize .uint32 5 5) ∧
      brokenArray.skip 2 = .ok 4 ∧ (brokenArray.followedBy after).skip 2 = .ok 4 ∧
      brokenArray.lookup 0 [.index 0] = .ok (some (.uint16 7)) ∧
      (brokenArray.followedBy after).lookup 0 [.index 0] = .ok (some (.uint16 7)) := by
  intro after
  have refused : brokenArray.decode 0 = .error (.invalidSize .uint32 5 5) := rfl
  have skipped : brokenArray.skip 2 = .ok 4 := rfl
  have found : brokenArray.lookup 0 [.index 0] = .ok (some (.uint16 7)) := rfl
  have whole := (followedBy_answers_alike brokenArray after 0 []).1
  have behind := (followedBy_answers_alike brokenArray after 2 []).2.1
  have inside := (followedBy_answers_alike brokenArray after 0 [.index 0]).2.2
  rw [refused] at whole
  rw [skipped] at behind
  rw [found] at inside
  exact ⟨refused, whole (by simp), skipped, behind (by simp), found, inside (by simp)⟩

end Section

end DataSection
