import DataSection.Proofs.Encoding.WriteBack
import DataSection.Proofs.Section.Items

/-!
# The shortest form

What is written for the bytes of an item never takes more room than they did, and whether
it is those bytes can be told part by part: because no part grows, the whole is unchanged
only if every part is.

Of the parts of a header, the five bits and the bytes of a size have one form, so only the
kind of a map can be written shorter than it was read.  Of the payloads, only integers can
lose bytes, those that are zero in front.  A dictionary is written in no more bytes than the
pairs it was made from.
-/

namespace DataSection

/-! ## Numerals -/

namespace BigEndian

/-- A numeral is the shortest of its number exactly if no zero stands in front. -/
theorem minimal_value_eq_iff {digits : List UInt8} :
    minimal (value digits) = digits ↔ digits.head? ≠ some 0 := by
  have shortest : minimal (value digits) = digits ↔ digits.length ≤ width (value digits) := by
    constructor
    · intro same
      rw [← length_minimal]
      exact Nat.le_of_eq (congrArg List.length same).symm
    · intro long
      apply eq_of_value_eq
      · apply Nat.le_antisymm (length_minimal_le digits)
        rwa [length_minimal]
      · exact value_minimal (value digits)
  rw [shortest]
  cases digits with
  | nil => simp
  | cons digit rest =>
      have below := value_lt rest
      have front : digit.toNat = 0 ↔ digit = 0 := by
        rw [← UInt8.toNat_inj]
        rfl
      rw [List.head?_cons, ne_eq, Option.some.injEq, ← front, List.length_cons, Nat.succ_le_iff,
        ← Nat.not_le, width_le_iff, value_cons, not_iff_not]
      constructor
      · intro small
        by_contra nonzero
        have large : 1 * 256 ^ rest.length ≤ digit.toNat * 256 ^ rest.length :=
          Nat.mul_le_mul_right _ (Nat.pos_of_ne_zero nonzero)
        omega
      · intro zero
        rw [zero, Nat.zero_mul, Nat.zero_add]
        exact below

end BigEndian

namespace Format

/-- A smaller size needs no more bytes. -/
theorem extraBytes_mono {small large : Nat} (le : small ≤ large) :
    extraBytes small ≤ extraBytes large := by
  have first := extraBytes_cases small
  have second := extraBytes_cases large
  omega

end Format

/-! ## Dictionaries -/

namespace Value

/-- Writing an entry to its key adds no more bytes than writing it behind all others. -/
theorem exists_encodeEntries_put {key : ByteArray} {value : Value}
    {entries : List (ByteArray × Value)} {body bytes : ByteArray}
    (written : encodeEntries entries = .ok body)
    (entryWritten : encodeEntries [(key, value)] = .ok bytes) :
    ∃ shorter, encodeEntries (Dictionary.put key value entries) = .ok shorter ∧
      shorter.size ≤ body.size + bytes.size := by
  induction entries generalizing body with
  | nil => exact ⟨bytes, entryWritten, Nat.le_add_left _ _⟩
  | cons first rest ih =>
      obtain ⟨held, old⟩ := first
      obtain ⟨heldBytes, oldBytes, last, heldWritten, oldWritten, restWritten, rfl⟩ :=
        encodeEntries_cons_eq_ok_iff.mp written
      by_cases same : held = key
      · subst same
        obtain ⟨keyBytes, valueBytes, none, keyWritten, valueWritten, noneWritten, rfl⟩ :=
          encodeEntries_cons_eq_ok_iff.mp entryWritten
        rw [Dictionary.put, if_pos rfl]
        refine ⟨keyBytes ++ (valueBytes ++ last), ?_, ?_⟩
        · exact encodeEntries_cons_eq_ok_iff.mpr
            ⟨keyBytes, valueBytes, last, keyWritten, valueWritten, restWritten, rfl⟩
        · simp only [ByteArray.size_append]
          omega
      · obtain ⟨shorter, putWritten, bound⟩ := ih restWritten
        rw [Dictionary.put, if_neg same]
        refine ⟨heldBytes ++ (oldBytes ++ shorter), ?_, ?_⟩
        · exact encodeEntries_cons_eq_ok_iff.mpr
            ⟨heldBytes, oldBytes, shorter, heldWritten, oldWritten, putWritten, rfl⟩
        · simp only [ByteArray.size_append]
          omega

/-- The entries of the dictionary of a list of pairs are written in no more bytes than the
pairs. -/
theorem exists_encodeEntries_ofList {pairs : List (ByteArray × Value)} {body : ByteArray}
    (written : encodeEntries pairs = .ok body) :
    ∃ shorter, encodeEntries (Dictionary.ofList pairs).entries = .ok shorter ∧
      shorter.size ≤ body.size := by
  induction pairs using List.reverseRecOn generalizing body with
  | nil => exact ⟨body, written, Nat.le_refl _⟩
  | append_singleton pairs pair ih =>
      obtain ⟨first, last, firstWritten, lastWritten, rfl⟩ :=
        encodeEntries_append_eq_ok_iff.mp written
      obtain ⟨shorter, shorterWritten, bound⟩ := ih firstWritten
      obtain ⟨whole, wholeWritten, wholeBound⟩ :=
        exists_encodeEntries_put shorterWritten lastWritten
      refine ⟨whole, ?_, ?_⟩
      · rw [Dictionary.ofList_concat, Dictionary.entries_insert]
        exact wholeWritten
      · rw [ByteArray.size_append]
        exact Nat.le_trans wholeBound (Nat.add_le_add_right bound _)

end Value

/-! ## Sizes -/

namespace Encoding

theorem sizeBits_of_le {size : Nat} (small : size ≤ 28) : sizeBits size = size :=
  if_pos (if_pos small)

theorem sizeBytes_of_le {size : Nat} (small : size ≤ 28) : sizeBytes size = [] := by
  rw [← List.length_eq_zero_iff, length_sizeBytes]
  exact if_pos small

/-- A size that was completed by bytes is written in the same bits and bytes. -/
theorem sizeBits_of_digits {digits : List UInt8} (some : 0 < digits.length)
    (few : digits.length ≤ 3) :
    sizeBits (Format.sizeBase digits.length + BigEndian.value digits) =
      Format.sizeCode digits.length := by
  rw [sizeBits, Format.extraBytes_sizeBase_add some few (BigEndian.value_lt digits),
    if_neg (Nat.ne_of_gt some)]

theorem sizeBytes_of_digits {digits : List UInt8} (some : 0 < digits.length)
    (few : digits.length ≤ 3) :
    sizeBytes (Format.sizeBase digits.length + BigEndian.value digits) = digits := by
  rw [sizeBytes, Format.extraBytes_sizeBase_add some few (BigEndian.value_lt digits),
    Nat.add_sub_cancel_left, BigEndian.fixed_value]

/-- The bits and the bytes determine the size. -/
theorem eq_of_sizeBits_eq {first second : Nat} (firstSmall : first ≤ Format.maxSize)
    (secondSmall : second ≤ Format.maxSize) (bits : sizeBits first = sizeBits second)
    (bytes : sizeBytes first = sizeBytes second) : first = second := by
  have firstHeader := header_of_le .bytes firstSmall
  have secondHeader := header_of_le .bytes secondSmall
  rw [bits, bytes] at firstHeader
  -- One header cannot be read as two.
  have held := Section.holds_whole
    (control .bytes (sizeBits second) ++ sizeBytes second).toByteArray 0 0
  have firstRead := Section.header_of_holds firstHeader (fun owned => nomatch owned) held
  have secondRead := Section.header_of_holds secondHeader (fun owned => nomatch owned) held
  have same := Except.ok.inj (firstRead.symm.trans secondRead)
  exact (Header.mk.inj same).2.1

end Encoding

namespace Section

variable {data : Section} {start middle stop offset : Nat} {content other : ByteArray}
variable {exact others : Prop}

/-! ## Parts -/

/-- What is written for the bytes between two offsets.  It takes no more room than they
do, and is the same bytes exactly under a condition. -/
structure Replaces (data : Section) (start : Nat) (content : ByteArray) (stop : Nat)
    (exact : Prop) : Prop where
  fits : start + content.size ≤ stop
  inside : stop ≤ data.size
  eq_iff : content = data.bytes.extract start stop ↔ exact

theorem Replaces.congr (replaces : data.Replaces start content stop exact)
    (same : exact ↔ others) : data.Replaces start content stop others :=
  ⟨replaces.fits, replaces.inside, replaces.eq_iff.trans same⟩

theorem Replaces.of_occupies (occupied : data.Occupies start content stop)
    (small : other.size ≤ content.size) : data.Replaces start other stop (other = content) where
  fits := by
    obtain ⟨-, rfl⟩ := occupies_iff.mp occupied
    exact Nat.add_le_add_left small start
  inside := occupied.le_size
  eq_iff := by
    obtain ⟨held, rfl⟩ := occupies_iff.mp occupied
    rw [(holds_iff.mp held).2]

theorem Replaces.of_digits {digits written : List UInt8}
    (occupied : data.Occupies start digits.toByteArray stop)
    (short : written.length ≤ digits.length) :
    data.Replaces start written.toByteArray stop (written = digits) := by
  have sizes : written.toByteArray.size ≤ digits.toByteArray.size := by
    rwa [List.size_toByteArray, List.size_toByteArray]
  exact (Replaces.of_occupies occupied sizes).congr List.toByteArray_inj

theorem Replaces.empty (inside : start ≤ data.size) :
    data.Replaces start .empty start True where
  fits := Nat.le_refl start
  inside := inside
  eq_iff := by
    rw [ByteArray.extract_same]
    exact iff_of_true rfl trivial

/-- Two parts one behind the other are unchanged exactly if both are, because neither can
make up for a loss of the other. -/
theorem Replaces.append (first : data.Replaces start content middle exact)
    (second : data.Replaces middle other stop others) :
    data.Replaces start (content ++ other) stop (exact ∧ others) where
  fits := by
    rw [ByteArray.size_append, ← Nat.add_assoc]
    exact Nat.le_trans (Nat.add_le_add_right first.fits _) second.fits
  inside := second.inside
  eq_iff := by
    have before : start ≤ middle := Nat.le_trans (Nat.le_add_right _ _) first.fits
    have behind : middle ≤ stop := Nat.le_trans (Nat.le_add_right _ _) second.fits
    rw [ByteArray.extract_eq_extract_append_extract middle before behind, ← first.eq_iff,
      ← second.eq_iff]
    constructor
    · intro same
      have sizes := congrArg ByteArray.size same
      simp only [ByteArray.size_append, ByteArray.size_extract] at sizes
      have head : content = data.bytes.extract start middle := by
        apply ByteArray.append_inj_left same
        have firstFits := first.fits
        have secondFits := second.fits
        have inside : stop ≤ data.bytes.size := second.inside
        rw [ByteArray.size_extract]
        omega
      refine ⟨head, ?_⟩
      rw [← head] at same
      exact (ByteArray.append_right_inj content).mp same
    · intro same
      rw [same.1, same.2]

/-! ## Headers -/

/-- A map's kind stands in a byte of its own, behind a control without a kind. -/
def NamesMapApart (data : Section) (offset : Nat) : Prop :=
  ∃ control, data.byteAt offset = .ok control ∧ control.toNat / 32 = 0 ∧
    data.byteAt (offset + 1) = .ok 0

theorem NamesMapApart.kind_eq {header : Header} (apart : data.NamesMapApart offset)
    (found : data.header offset = .ok header) : header.kind = .map := by
  obtain ⟨control, first, zero, second⟩ := apart
  have code : data.kindCode control offset = .ok (7, offset + 2) := by
    rw [kindCode, if_pos zero, second]
    rfl
  have known : Kind.ofCode? 7 = some .map := rfl
  rw [Section.header, first] at found
  simp only [bind, Except.bind, code, known, Kind.ownsSizeBits, Bool.false_eq_true, if_false]
    at found
  cases sized : data.sizeField (control.toNat % 32) (offset + 2) with
  | error _ =>
      rw [sized] at found
      cases found
  | ok result =>
      rw [sized] at found
      cases found
      rfl

/-- A control is written in one byte, or in two if the kind is extended.  Only the kind of a
map can be read from a control that is longer. -/
theorem Control.replaces {kind : Kind} {field written : Nat}
    (form : Control data start kind.code field stop) (small : written < 32) :
    data.Replaces start (Encoding.control kind written).toByteArray stop
      (written = field ∧ ¬data.NamesMapApart start) := by
  have bounded := kind.code_le
  cases form with
  | @inline control split positive fieldSmall occupied =>
      have controlBound := control.toNat_lt
      have short : kind.isExtended = false := by
        rw [Kind.isExtended, decide_eq_false_iff_not]
        omega
      have direct : ¬data.NamesMapApart start := by
        intro apart
        obtain ⟨other, first, zero, -⟩ := apart
        cases (byteAt_of_holds (occupies_iff.mp occupied).1).symm.trans first
        omega
      rw [Encoding.control, short, if_neg Bool.false_ne_true]
      refine Replaces.congr (Replaces.of_digits occupied (Nat.le_refl 1)) ?_
      rw [List.singleton_inj, ← UInt8.toNat_inj, UInt8.toNat_ofNat', Nat.mod_eq_of_lt (by omega),
        split]
      simp only [direct, not_false_eq_true, and_true, Nat.add_left_cancel_iff]
  | @extended control extension fieldEqual fieldSmall named occupied =>
      obtain ⟨first, rest⟩ := holds_cons.mp (occupies_iff.mp occupied).1
      have second := byteAt_of_holds rest
      have apart : data.NamesMapApart start ↔ extension = 0 := by
        constructor
        · intro apart
          obtain ⟨_, _, -, zero⟩ := apart
          exact Except.ok.inj (second.symm.trans zero)
        · intro zero
          exact ⟨control, first, by omega, zero ▸ second⟩
      have extensionZero : extension = 0 ↔ extension.toNat = 0 := by
        rw [← UInt8.toNat_inj]
        rfl
      rw [apart, extensionZero, Encoding.control]
      by_cases long : kind.isExtended = true
      · have large : 7 < kind.code := of_decide_eq_true long
        rw [if_pos long]
        refine Replaces.congr (Replaces.of_digits occupied (Nat.le_refl 2)) ?_
        rw [List.cons.injEq, List.singleton_inj, ← UInt8.toNat_inj, ← UInt8.toNat_inj,
          UInt8.toNat_ofNat', UInt8.toNat_ofNat']
        omega
      · have zero : extension.toNat = 0 := by
          have notLarge : ¬7 < kind.code := fun large => long (decide_eq_true large)
          omega
        rw [if_neg long]
        refine Replaces.congr (Replaces.of_digits occupied (Nat.le_succ 1)) ?_
        simp [zero]

/-- The bits and the bytes of a size are those in which it is written. -/
theorem SizeBytes.written {field size : Nat} (form : SizeBytes data field start size stop)
    (inside : start ≤ data.size) :
    field = Encoding.sizeBits size ∧
      data.Occupies start (Encoding.sizeBytes size).toByteArray stop := by
  rcases form.inline_or_digits with ⟨small, rfl, rfl⟩ | ⟨digits, some, few, rfl, rfl, occupied⟩
  · rw [Encoding.sizeBits_of_le small, Encoding.sizeBytes_of_le small]
    refine ⟨rfl, occupies_iff.mpr ⟨?_, rfl⟩⟩
    exact holds_iff.mpr ⟨inside, ByteArray.extract_same⟩
  · rw [Encoding.sizeBits_of_digits some few, Encoding.sizeBytes_of_digits some few]
    exact ⟨rfl, occupied⟩

/-- A header for no larger a size is written in no more bytes.  Apart from a map whose kind
stands in a byte of its own, it is the same bytes if the size is the same. -/
theorem Opens.replaces {kind : Kind} {size written : Nat}
    (form : Opens data kind start size stop) (le : written ≤ size) :
    ∃ header, Encoding.header kind written = .ok header ∧
      data.Replaces start header.toByteArray stop (written = size ∧ ¬data.NamesMapApart start) := by
  have small := form.size_le
  obtain ⟨field, middle, control, sized⟩ := form
  obtain ⟨rfl, occupied⟩ := sized.written control.advances.2
  have shorter : (Encoding.sizeBytes written).length ≤ (Encoding.sizeBytes size).length := by
    rw [Encoding.length_sizeBytes, Encoding.length_sizeBytes]
    exact Format.extraBytes_mono le
  refine ⟨_, Encoding.header_of_le kind (Nat.le_trans le small), ?_⟩
  rw [List.toByteArray_append]
  apply ((control.replaces (Encoding.sizeBits_lt written)).append
    (Replaces.of_digits occupied shorter)).congr
  constructor
  · intro same
    exact ⟨Encoding.eq_of_sizeBits_eq (Nat.le_trans le small) small same.1.1 same.2, same.1.2⟩
  · intro same
    cases same.1
    exact ⟨⟨rfl, same.2⟩, rfl⟩

end Section

end DataSection
