import DataSection.Proofs.Encoding.Shortest

/-!
# The forms of a header

A header is written in one form and read in hardly more.  What is written is read as its kind
and its size wherever it stands, and what is read is what is written for it, byte for byte.
The one exception are maps that name their kind in a byte of its own, which is not written.

Sizes have no second form at all.  Their five bits say in which of four ranges a size lies,
the ranges follow one another without a gap, and the bytes that complete the size count from
the start of its range.
-/

namespace DataSection

namespace Format

/-- The sizes that five bits announce: small ones themselves, and for one to three bytes
behind them a range that starts where the range before it ends. -/
inductive Announces : (field size : Nat) → Prop where
  | inline {size : Nat} : size ≤ 28 → Announces size size
  | one {size : Nat} : 29 ≤ size → size ≤ 284 → Announces 29 size
  | two {size : Nat} : 285 ≤ size → size ≤ 65820 → Announces 30 size
  | three {size : Nat} : 65821 ≤ size → size ≤ maxSize → Announces 31 size

/-- No size lies in two ranges. -/
theorem Announces.unique {field other size : Nat} (announces : Announces field size)
    (others : Announces other size) : other = field := by
  cases announces <;> cases others <;> omega

theorem Announces.size_le {field size : Nat} (announces : Announces field size) :
    size ≤ maxSize := by
  rw [maxSize_eq]
  cases announces with
  | three _ small => rwa [maxSize_eq] at small
  | _ => omega

/-- A size is written with the bits that announce it. -/
theorem announces_sizeBits {size : Nat} (small : size ≤ maxSize) :
    Announces (Encoding.sizeBits size) size := by
  unfold Encoding.sizeBits
  rcases extraBytes_cases size with
    ⟨inline, extra⟩ | ⟨low, high, extra⟩ | ⟨low, high, extra⟩ | ⟨low, extra⟩ <;> rw [extra]
  · exact .inline inline
  · exact .one low (Nat.le_of_lt_succ high)
  · exact .two low (Nat.le_of_lt_succ high)
  · exact .three low small

/-- The ranges leave out no size up to the largest. -/
theorem le_maxSize_iff {size : Nat} : size ≤ maxSize ↔ ∃! field, Announces field size := by
  constructor
  · intro small
    exact ⟨_, announces_sizeBits small, fun _ others => (announces_sizeBits small).unique others⟩
  · intro announced
    obtain ⟨field, announces, -⟩ := announced
    exact announces.size_le

end Format

namespace Encoding

/-- The bits say how many bytes complete the size. -/
theorem sizeBits_sub (size : Nat) :
    sizeBits size - Format.maxInlineSize = Format.extraBytes size := by
  have ranges := Format.extraBytes_cases size
  rw [sizeBits, Format.sizeCode, show Format.maxInlineSize = 28 from rfl]
  split <;> omega

/-- The first byte of a control ends in its five bits. -/
theorem exists_control_eq_cons (kind : Kind) {field : Nat} (small : field < 32) :
    ∃ first rest, control kind field = first :: rest ∧ first.toNat % 32 = field := by
  unfold control
  split
  next extended =>
      refine ⟨UInt8.ofNat field, _, rfl, ?_⟩
      rw [UInt8.toNat_ofNat']
      omega
  next inline =>
      refine ⟨UInt8.ofNat (kind.code * 32 + field), _, rfl, ?_⟩
      rw [UInt8.toNat_ofNat']
      omega

/-- A written header begins with the bits that announce its size. -/
theorem exists_control_of_header {kind : Kind} {size : Nat} {written : List UInt8}
    (equal : header kind size = .ok written) :
    ∃ first rest, written = first :: rest ∧ Format.Announces (first.toNat % 32) size := by
  obtain ⟨small, rfl⟩ := header_eq_ok_iff.mp equal
  obtain ⟨first, rest, begins, bits⟩ := exists_control_eq_cons kind (sizeBits_lt size)
  refine ⟨first, rest ++ sizeBytes size, by rw [begins, List.cons_append], ?_⟩
  rw [bits]
  exact Format.announces_sizeBits small

end Encoding

namespace Section

variable {data other : Section} {start stop otherStart otherStop size otherSize : Nat}
variable {kind otherKind : Kind}

/-! ## Sizes -/

/-- The five bits in which the header between two offsets states its size, and the bytes
that they ask for. -/
def sizeForm (data : Section) (start payload : Nat) : Except ReadError (Nat × ByteArray) := do
  let control ← data.byteAt start
  let field := control.toNat % 32
  return (field, data.bytes.extract (payload - (field - Format.maxInlineSize)) payload)

/-- A header states its size as the writer does. -/
theorem sizeForm_of_opens (form : Opens data kind start size stop) :
    data.sizeForm start stop =
      .ok (Encoding.sizeBits size, (Encoding.sizeBytes size).toByteArray) := by
  obtain ⟨field, middle, control, sized⟩ := form
  obtain ⟨rfl, occupied⟩ := sized.written control.advances.2
  obtain ⟨first, read, bits, -⟩ := control_iff.mp control
  obtain ⟨held, rfl⟩ := occupies_iff.mp occupied
  have bytes := (holds_iff.mp held).2
  have behind : middle + (Encoding.sizeBytes size).toByteArray.size -
      (Encoding.sizeBits size - Format.maxInlineSize) = middle := by
    rw [Encoding.sizeBits_sub, List.size_toByteArray, Encoding.length_sizeBytes,
      Nat.add_sub_cancel]
  simp only [sizeForm, read, bind, Except.bind, pure, Except.pure, bits, behind, bytes]

/-- Two headers state their sizes in the same form exactly if the sizes are the same. -/
theorem sizeForm_eq_iff (form : Opens data kind start size stop)
    (others : Opens other otherKind otherStart otherSize otherStop) :
    data.sizeForm start stop = other.sizeForm otherStart otherStop ↔ size = otherSize := by
  rw [sizeForm_of_opens form, sizeForm_of_opens others, Except.ok.injEq, Prod.mk.injEq,
    List.toByteArray_inj]
  constructor
  · intro same
    exact Encoding.eq_of_sizeBits_eq form.size_le others.size_le same.1 same.2
  · intro same
    subst same
    exact ⟨rfl, rfl⟩

/-! ## Kinds -/

/-- A map that names its kind apart has a zero between its five bits and the rest, and those
bits would have had room for the kind. -/
theorem Control.exists_of_namesMapApart {field : Nat}
    (form : Control data start kind.code field stop) (apart : data.NamesMapApart start) :
    kind = .map ∧ ∃ first : UInt8, Encoding.control kind field = [first + 224] ∧
      data.Occupies start [first, 0].toByteArray stop := by
  obtain ⟨first, read, zero, second⟩ := apart
  cases form with
  | @inline control split positive small occupied =>
      cases (byteAt_of_holds (occupies_iff.mp occupied).1).symm.trans read
      omega
  | @extended control extension equal small named occupied =>
      obtain ⟨firstHeld, rest⟩ := holds_cons.mp (occupies_iff.mp occupied).1
      cases firstHeld.symm.trans read
      cases (byteAt_of_holds rest).symm.trans second
      have map : kind = .map := Kind.code_injective named
      subst map
      refine ⟨rfl, first, ?_, occupied⟩
      have written : UInt8.ofNat (Kind.map.code * 32 + field) = first + 224 := by
        rw [← UInt8.toNat_inj, UInt8.toNat_ofNat', UInt8.toNat_add, equal, Nat.add_comm]
        rfl
      exact congrArg (fun byte => [byte]) written

/-- What is written for a header that was read.  It is the same bytes, less the byte in which
a map may name its kind. -/
theorem Opens.exists_written (form : Opens data kind start size stop) :
    ∃ written, Encoding.header kind size = .ok written ∧
      (¬data.NamesMapApart start ∧ stop = start + written.length ∧
          data.bytes.extract start stop = written.toByteArray ∨
        data.NamesMapApart start ∧ kind = .map ∧ stop = start + written.length + 1 ∧
          ∃ first rest, written = (first + 224) :: rest ∧
            data.bytes.extract start stop = (first :: 0 :: rest).toByteArray) := by
  have written := Encoding.header_of_le kind form.size_le
  have inside : start ≤ stop ∧ stop ≤ data.bytes.size :=
    ⟨Nat.le_of_lt form.advances.1, form.advances.2⟩
  refine ⟨_, written, ?_⟩
  by_cases apart : data.NamesMapApart start
  · obtain ⟨field, middle, control, sized⟩ := form
    obtain ⟨rfl, behind⟩ := sized.written control.advances.2
    obtain ⟨map, first, byte, occupied⟩ := control.exists_of_namesMapApart apart
    obtain ⟨firstHeld, rfl⟩ := occupies_iff.mp occupied
    obtain ⟨restHeld, rfl⟩ := occupies_iff.mp behind
    refine .inr ⟨apart, map, ?_, first, Encoding.sizeBytes size, by rw [byte]; rfl, ?_⟩
    · rw [byte, List.size_toByteArray, List.size_toByteArray, List.length_append]
      simp only [List.length_cons, List.length_nil]
      omega
    · have whole := holds_append.mpr ⟨firstHeld, restHeld⟩
      rw [holds_iff, ByteArray.size_append, ← Nat.add_assoc] at whole
      rw [whole.2, ← List.toByteArray_append]
      rfl
  · obtain ⟨other, otherWritten, replaces⟩ := form.replaces (Nat.le_refl size)
    cases written.symm.trans otherWritten
    have same := replaces.eq_iff.mpr ⟨rfl, apart⟩
    have lengths := congrArg ByteArray.size same
    rw [List.size_toByteArray, ByteArray.size_extract] at lengths
    exact .inl ⟨apart, by omega, same.symm⟩

/-! ## Headers -/

/-- The forms of headers that state a size, which all do but those of pointers and booleans.

A header can be written for every size up to the largest, and wherever it stands it is read as
its kind and its size.  A header that is read states such a size and is what is written for
it, unless it is that of a map that names its kind in a byte of its own, which is not written.
No size has two forms, and the bits with which one begins tell the ranges of the sizes apart,
which leave out none. -/
theorem headers_written_and_read :
    (∀ (kind : Kind) (size : Nat), kind.ownsSizeBits = false → size ≤ Format.maxSize →
        ∃ written, Encoding.header kind size = .ok written ∧
          (∃ first rest, written = first :: rest ∧ Format.Announces (first.toNat % 32) size) ∧
          ∀ before after base limit,
            Section.header ⟨before ++ written.toByteArray ++ after, base, limit⟩ before.size =
              .ok ⟨kind, size, before.size + written.length⟩) ∧
      (∀ (data : Section) (start : Nat) (header : Header), data.header start = .ok header →
        header.kind.ownsSizeBits = false →
          header.size ≤ Format.maxSize ∧
          (∃ first, data.byteAt start = .ok first ∧
            Format.Announces (first.toNat % 32) header.size) ∧
          ∃ written, Encoding.header header.kind header.size = .ok written ∧
            (¬data.NamesMapApart start ∧ header.payload = start + written.length ∧
                data.bytes.extract start header.payload = written.toByteArray ∨
              data.NamesMapApart start ∧ header.kind = .map ∧
                header.payload = start + written.length + 1 ∧
                ∃ first rest, written = (first + 224) :: rest ∧
                  data.bytes.extract start header.payload = (first :: 0 :: rest).toByteArray)) ∧
      (∀ (data other : Section) (start otherStart : Nat) (header otherHeader : Header),
        data.header start = .ok header → other.header otherStart = .ok otherHeader →
          header.kind.ownsSizeBits = false → otherHeader.kind.ownsSizeBits = false →
            (data.sizeForm start header.payload = other.sizeForm otherStart otherHeader.payload ↔
              header.size = otherHeader.size)) ∧
      ∀ size, size ≤ Format.maxSize ↔ ∃! field, Format.Announces field size := by
  refine ⟨?_, ?_, ?_, fun size => Format.le_maxSize_iff⟩
  · intro kind size free small
    have written := Encoding.header_of_le kind small
    refine ⟨_, written, Encoding.exists_control_of_header written, ?_⟩
    intro before after base limit
    have held := holds_middle before (Encoding.control kind (Encoding.sizeBits size) ++
      Encoding.sizeBytes size).toByteArray after base limit
    exact header_of_holds written (fun owned => absurd owned (by simp [free])) held
  · intro data start header found free
    have form := opens_of_header found free
    refine ⟨form.size_le, ?_, form.exists_written⟩
    obtain ⟨field, middle, control, sized⟩ := form
    obtain ⟨rfl, -⟩ := sized.written control.advances.2
    obtain ⟨first, read, bits, -⟩ := control_iff.mp control
    refine ⟨first, read, ?_⟩
    rw [bits]
    exact Format.announces_sizeBits sized.size_le
  · intro data other start otherStart header otherHeader found otherFound free otherFree
    exact sizeForm_eq_iff (opens_of_header found free) (opens_of_header otherFound otherFree)

/-- A map of one entry, whose kind stands in a byte of its own. -/
def mapApart : Section :=
  { bytes := ⟨#[0x01, 0x00, 0x40, 0xA0]⟩ }

theorem headers_written_and_read_mapApart :
    mapApart.header 0 = .ok ⟨.map, 1, 2⟩ ∧
      ∃ first rest, Encoding.header .map 1 = .ok ((first + 224) :: rest) ∧
        mapApart.bytes.extract 0 2 = (first :: 0 :: rest).toByteArray ∧
        Section.header ⟨((first + 224) :: rest).toByteArray, 0, 0⟩ 0 =
          .ok ⟨.map, 1, ((first + 224) :: rest).length⟩ := by
  obtain ⟨written, read, -, -⟩ := headers_written_and_read
  have found : mapApart.header 0 = .ok ⟨.map, 1, 2⟩ := rfl
  have apart : mapApart.NamesMapApart 0 := ⟨0x01, rfl, rfl, rfl⟩
  obtain ⟨small, -, bytes, equal, either⟩ := read mapApart 0 ⟨.map, 1, 2⟩ found rfl
  obtain ⟨again, sameWritten, -, anywhere⟩ := written .map 1 rfl small
  cases equal.symm.trans sameWritten
  rcases either with ⟨direct, -⟩ | ⟨-, -, -, first, rest, rfl, held⟩
  · exact absurd apart direct
  · have readAgain := anywhere .empty .empty 0 0
    rw [ByteArray.empty_append, ByteArray.append_empty, ByteArray.size_empty, Nat.zero_add]
      at readAgain
    exact ⟨found, first, rest, equal, held, readAgain⟩

end Section

end DataSection
