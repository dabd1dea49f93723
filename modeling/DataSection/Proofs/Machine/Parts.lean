import DataSection.Proofs.Encoding.WriteBack
import DataSection.Proofs.Machine.Reader
import DataSection.Proofs.Section.Extension

/-!
# The parts of an item, in words

A run on a machine agrees with a reading in numbers if it does not trap, and comes to results
that are related or to the same error.  Agreement goes through sequences: if the first runs
agree, and whatever follows them agrees on related results, so do the whole.  A checked
operation has no counterpart in numbers.  It has to be shown that it does not trap, and then
it can be left out.

The parts of an item agree for one reason.  What has been read lies inside the bytes, so the
offset behind it is no larger than their number, and a few bytes write only a small number.
-/

namespace DataSection

variable {α β γ δ : Type}

/-- Without a trap, a run comes to the same as the outcome in numbers: to results that are
related, or to one error. -/
inductive Agrees (same : α → β → Prop) : Run α → Except ReadError β → Prop
  | found {word : α} {number : β} : same word number → Agrees same (pure word) (.ok number)
  | failed (error : ReadError) : Agrees same (throw error) (.error error)

/-- Without a trap, a run comes to words that stand for the outcome, or to the same error. -/
abbrev Gives (number : α → β) : Run α → Except ReadError β → Prop :=
  Agrees fun word outcome => number word = outcome

namespace Agrees

variable {same : α → β → Prop} {other : γ → δ → Prop}
variable {run : Run α} {outcome : Except ReadError β}
variable {next : α → Run γ} {behind : β → Except ReadError δ}

theorem bind (first : Agrees same run outcome)
    (rest : ∀ word number, outcome = .ok number → same word number →
      Agrees other (next word) (behind number)) :
    Agrees other (run >>= next) (outcome >>= behind) := by
  cases first with
  | found related => exact rest _ _ rfl related
  | failed error => exact .failed error

/-- A checked operation that does not trap leaves no trace. -/
theorem checked {operation : Checked α} {result : α} {expected : Except ReadError δ}
    (done : operation = .ok result) (rest : Agrees other (next result) expected) :
    Agrees other (do let word ← operation; next word) expected := by
  subst done
  exact rest

end Agrees

namespace Gives

variable {number : α → β} {other : γ → δ → Prop}
variable {run : Run α} {outcome : Except ReadError β}
variable {next : α → Run γ} {behind : β → Except ReadError δ}

theorem bind (first : Gives number run outcome)
    (rest : ∀ word, outcome = .ok (number word) →
      Agrees other (next word) (behind (number word))) :
    Agrees other (run >>= next) (outcome >>= behind) := by
  apply Agrees.bind first
  rintro word _ read rfl
  exact rest word read

theorem bind_map {f : β → δ} (first : Gives number run outcome)
    (rest : ∀ word, outcome = .ok (number word) →
      Agrees other (next word) (.ok (f (number word)))) :
    Agrees other (run >>= next) (outcome.map f) := by
  cases first with
  | found related =>
      subst related
      exact rest _ rfl
  | failed error => exact .failed error

theorem run_eq (gives : Gives number run outcome) :
    run.run.map (Except.map number) = .ok outcome := by
  cases gives with
  | found related =>
      subst related
      rfl
  | failed error => rfl

end Gives

namespace Machine

variable {machine : Machine}

/-! ## Numerals -/

theorem exists_shiftIn {number : BitVec 128} (digit : UInt8)
    (fits : (number.toNat + 1) * 256 ≤ 2 ^ 128) :
    ∃ longer, shiftIn number digit = .ok longer ∧
      longer.toNat = number.toNat * 256 + digit.toNat := by
  obtain ⟨shifted, done, equal⟩ := Word.exists_shiftUp 8 number (by decide) (by omega)
  refine ⟨shifted ||| digit.toBitVec.setWidth 128, by rw [shiftIn, done]; rfl, ?_⟩
  have small : digit.toNat < 2 ^ 8 := digit.toNat_lt
  have low : (digit.toBitVec.setWidth 128).toNat = digit.toNat :=
    BitVec.toNat_setWidth_of_le (by decide)
  rw [BitVec.toNat_or, equal, low, Nat.mul_comm, ← Nat.two_pow_add_eq_or_of_lt small]

/-- A numeral is put together without losing a bit if the word has room for its digits. -/
theorem exists_foldlM_shiftIn {high : BitVec 128} {digits : List UInt8}
    (fits : (high.toNat + 1) * 256 ^ digits.length ≤ 2 ^ 128) :
    ∃ number, digits.foldlM shiftIn high = .ok number ∧
      number.toNat = high.toNat * 256 ^ digits.length + BigEndian.value digits := by
  induction digits generalizing high with
  | nil => exact ⟨high, rfl, by simp⟩
  | cons digit rest ih =>
      have bound := digit.toNat_lt
      rw [List.length_cons, Nat.pow_succ', ← Nat.mul_assoc] at fits
      have first : (high.toNat + 1) * 256 ≤ 2 ^ 128 :=
        Nat.le_trans (Nat.le_mul_of_pos_right _ (Nat.pow_pos (by decide))) fits
      obtain ⟨longer, done, equal⟩ := exists_shiftIn digit first
      have next : longer.toNat + 1 ≤ (high.toNat + 1) * 256 := by omega
      obtain ⟨number, read, total⟩ := ih (Nat.le_trans (Nat.mul_le_mul_right _ next) fits)
      refine ⟨number, ?_, ?_⟩
      · rw [List.foldlM_cons, done]
        exact read
      · rw [total, equal, BigEndian.value_cons, List.length_cons, Nat.pow_succ', Nat.add_mul,
          Nat.mul_assoc, Nat.add_assoc]

theorem exists_numeral (high : BitVec 128) {digits : ByteArray} {count : Nat}
    (size : digits.size = count) (fits : (high.toNat + 1) * 256 ^ count ≤ 2 ^ 128) :
    ∃ number, numeral high digits = .ok number ∧
      number.toNat = high.toNat * 256 ^ count + BigEndian.value digits.data.toList := by
  have length : digits.data.toList.length = count := size
  rw [← length] at fits ⊢
  exact exists_foldlM_shiftIn fits

/-- Bytes are read as a number by reading them as they are first. -/
theorem numeral_bind (data : Section) (offset length : Nat) (f : Nat → Except ReadError β) :
    data.numeral offset length >>= f =
      data.slice offset length >>= fun digits => f (BigEndian.value digits.data.toList) := by
  rw [Section.numeral]
  cases data.slice offset length <;> rfl

/-- Bytes that have been read write a number with as many digits. -/
theorem value_lt_of_slice {data : Section} {offset length : Nat} {digits : ByteArray}
    (read : data.slice offset length = .ok digits) :
    BigEndian.value digits.data.toList < 256 ^ length := by
  have bound := BigEndian.value_lt digits.data.toList
  rwa [Array.length_toList, ByteArray.size_data, Section.size_of_slice read] at bound

/-- Up to sixteen bytes that have been read are put together to the number they write. -/
theorem exists_numeral_of_slice {data : Section} {offset length : Nat} {digits : ByteArray}
    (few : length ≤ 16) (read : data.slice offset length = .ok digits) :
    ∃ number, numeral 0 digits = .ok number ∧
      number.toNat = BigEndian.value digits.data.toList ∧ number.toNat < 256 ^ length := by
  have zero : (0 : BitVec 128).toNat = 0 := rfl
  have fits : ((0 : BitVec 128).toNat + 1) * 256 ^ length ≤ 2 ^ 128 := by
    rw [zero, Nat.zero_add, Nat.one_mul]
    exact Nat.pow_le_pow_right (by decide) few
  obtain ⟨number, done, value⟩ := exists_numeral 0 (Section.size_of_slice read) fits
  rw [zero, Nat.zero_mul, Nat.zero_add] at value
  exact ⟨number, done, value, value ▸ value_lt_of_slice read⟩

section Short

variable (short : machine.bytes.size < 2 ^ 63)
include short

/-! ## Bytes -/

theorem toNat_length : machine.length.toNat = machine.data.size := by
  have fits : machine.bytes.size < 2 ^ 64 := by omega
  rw [length, BitVec.toNat_ofNat, Nat.mod_eq_of_lt fits]
  rfl

theorem gives_byteAt (offset : Size) :
    Gives id (machine.byteAt offset) (machine.data.byteAt offset.toNat) := by
  unfold byteAt Section.byteAt
  by_cases inside : offset.toNat < machine.data.bytes.size
  · have found : machine.bytes.data[offset.toNat]? = some machine.data.bytes[offset.toNat] :=
      Array.getElem?_eq_getElem inside
    rw [dif_pos inside, found]
    exact .found rfl
  · have missing : machine.bytes.data[offset.toNat]? = none :=
      Array.getElem?_eq_none (Nat.not_lt.mp inside)
    rw [dif_neg inside, missing, toNat_length short]
    exact .failed _

theorem gives_slice (offset count : Size) :
    Gives id (machine.slice offset count) (machine.data.slice offset.toNat count.toNat) := by
  have length := toNat_length short
  unfold slice Section.slice
  cases found : (Word.sum? offset count).filter fun stop => stop ≤ machine.length with
  | some stop =>
      rw [Option.filter_eq_some_iff, Word.sum?_eq_some_iff, decide_eq_true_eq, BitVec.le_def,
        length] at found
      obtain ⟨sum, inside⟩ := found
      have done : machine.range offset stop =
          .ok (machine.data.bytes.extract offset.toNat (offset.toNat + count.toNat)) := by
        rw [range, sum, if_pos ⟨Nat.le_add_right _ _, sum ▸ inside⟩]
        rfl
      rw [if_pos (sum ▸ inside)]
      dsimp only
      rw [done]
      exact .found rfl
  | none =>
      have outside : ¬offset.toNat + count.toNat ≤ machine.data.size := by
        intro inside
        have fits : offset.toNat + count.toNat < 2 ^ 64 :=
          Nat.lt_of_le_of_lt inside (Nat.lt_trans short (by decide))
        have sum := Word.toNat_add_of_lt fits
        have within : offset + count ≤ machine.length := by
          rw [BitVec.le_def, sum, length]
          exact inside
        rw [Word.sum?_eq_some_iff.mpr sum, Option.filter_some,
          if_pos (decide_eq_true within)] at found
        cases found
      rw [if_neg outside, length]
      exact .failed _

/-- What lies inside can be added up. -/
theorem exists_add_of_le (offset count : Size)
    (inside : offset.toNat + count.toNat ≤ machine.data.size) :
    ∃ sum, Word.add offset count = .ok sum ∧ sum.toNat = offset.toNat + count.toNat :=
  Word.exists_add offset count (Nat.lt_of_le_of_lt inside (Nat.lt_trans short (by decide)))

/-! ## Headers -/

theorem gives_kindCode {next : Size} {offset : Nat} (control : UInt8)
    (behind : next.toNat = offset + 1) :
    Gives (Prod.map BitVec.toNat BitVec.toNat) (machine.kindCode control next)
      (machine.data.kindCode control offset) := by
  have code : ((control.toBitVec >>> 5).setWidth 16).toNat = control.toNat / 32 := by
    rw [BitVec.toNat_setWidth_of_le (by decide), BitVec.toNat_ushiftRight]
    exact Nat.shiftRight_eq_div_pow _ 5
  unfold kindCode Section.kindCode
  by_cases extended : control.toNat / 32 = 0
  · have zero : (control.toBitVec >>> 5).setWidth 16 = 0 :=
      BitVec.eq_of_toNat_eq (code.trans extended)
    rw [if_pos extended]
    dsimp only
    rw [if_pos zero, ← behind]
    apply (gives_byteAt short next).bind
    intro extension read
    have bound := extension.toNat_lt
    have wide : (extension.toBitVec.setWidth 16).toNat = extension.toNat :=
      BitVec.toNat_setWidth_of_le (by decide)
    have seven : (7 : BitVec 16).toNat = 7 := rfl
    obtain ⟨code, done, total⟩ := Word.exists_add 7 (extension.toBitVec.setWidth 16)
      (by omega)
    refine .checked done ?_
    obtain ⟨inside, -⟩ := Section.byteAt_eq_ok_iff.mp read
    obtain ⟨stop, done, sum⟩ := exists_add_of_le short next 1 inside
    refine .checked done (.found ?_)
    rw [Prod.map_apply, total, sum, seven, wide, behind]
    rfl
  · have positive : (control.toBitVec >>> 5).setWidth 16 ≠ 0 := by
      intro zero
      rw [zero] at code
      exact extended code.symm
    rw [if_neg extended]
    dsimp only
    rw [if_neg positive]
    refine .found ?_
    rw [Prod.map_apply, code, behind]

omit short in
/-- Size bits above the inline ones announce one to three size bytes. -/
theorem sizeForm_cases {field : BitVec 8} (large : Format.maxInlineSize < field.toNat)
    (small : field.toNat < 32) :
    ∃ extra base : Size, sizeForm field = (extra, base) ∧ extra.toNat ≤ 3 ∧
      extra.toNat = field.toNat - Format.maxInlineSize ∧
      base.toNat = Format.sizeBase extra.toNat ∧ base.toNat ≤ 65821 := by
  rw [show Format.maxInlineSize = 28 from rfl] at large ⊢
  have fields : field.toNat = 29 ∨ field.toNat = 30 ∨ field.toNat = 31 := by omega
  unfold sizeForm
  rcases fields with equal | equal | equal <;> rw [equal] <;>
    exact ⟨_, _, rfl, by decide, rfl, rfl, by decide⟩

theorem gives_sizeField {field : BitVec 8} (small : field.toNat < 32) (offset : Size) :
    Gives (Prod.map BitVec.toNat BitVec.toNat) (machine.sizeField field offset)
      (machine.data.sizeField field.toNat offset.toNat) := by
  unfold sizeField Section.sizeField
  split
  · refine .found ?_
    rw [Prod.map_apply, BitVec.toNat_setWidth_of_le (by decide)]
  next large =>
    obtain ⟨extra, base, form, few, count, start, bound⟩ :=
      sizeForm_cases (Nat.not_le.mp large) small
    rw [form, ← count]
    dsimp only
    rw [← start, numeral_bind]
    apply (gives_slice short offset extra).bind
    intro digits read
    have room : 256 ^ extra.toNat ≤ 256 ^ 3 := Nat.pow_le_pow_right (by decide) few
    obtain ⟨number, done, value, below⟩ := exists_numeral_of_slice (by omega) read
    refine .checked done ?_
    obtain ⟨narrow, done, same⟩ := Word.exists_narrow 64 number (by omega)
    refine .checked done ?_
    obtain ⟨size, done, total⟩ := Word.exists_add base narrow (by omega)
    refine .checked done ?_
    obtain ⟨inside, -⟩ := Section.slice_eq_ok_iff.mp read
    obtain ⟨next, done, sum⟩ := exists_add_of_le short _ _ inside
    refine .checked done (.found ?_)
    rw [Prod.map_apply, total, sum, same, value, id_eq]

theorem gives_opening (offset : Size) :
    Gives Opening.header (machine.opening offset) (machine.data.header offset.toNat) := by
  apply (gives_byteAt short offset).bind
  intro control read
  have field : (control.toBitVec &&& 0x1F).toNat = control.toNat % 32 := by
    rw [BitVec.toNat_and]
    exact Nat.and_two_pow_sub_one_eq_mod _ 5
  obtain ⟨inside, -⟩ := Section.byteAt_eq_ok_iff.mp read
  obtain ⟨next, done, behind⟩ := exists_add_of_le short offset 1 inside
  refine .checked done ?_
  apply (gives_kindCode short control behind).bind
  rintro ⟨code, next⟩ -
  dsimp only [Prod.map_apply, id_eq]
  cases Kind.ofCode? code.toNat with
  | none => exact .failed _
  | some kind =>
      dsimp only
      rw [← field]
      split
      · refine .found ?_
        rw [Opening.header, BitVec.toNat_setWidth_of_le (by decide)]
      · apply (gives_sizeField short (by rw [field]; omega) next).bind
        rintro ⟨size, payload⟩ -
        exact .found rfl

/-! ## Payloads -/

theorem gives_content (opening : Opening) :
    Gives (Prod.map id BitVec.toNat) (machine.content opening)
      (machine.data.content opening.header) := by
  apply (gives_slice short opening.payload opening.size).bind
  intro content read
  obtain ⟨inside, -⟩ := Section.slice_eq_ok_iff.mp read
  obtain ⟨next, done, sum⟩ := exists_add_of_le short _ _ inside
  refine .checked done (.found ?_)
  rw [Prod.map_apply, sum]
  rfl

omit short in
/-- The bytes of a payload that has been read are as many as its header says. -/
theorem slice_of_content {opening : Opening} {content : ByteArray × Size}
    (read : machine.data.content opening.header = .ok (Prod.map id BitVec.toNat content)) :
    machine.data.slice opening.payload.toNat opening.size.toNat = .ok content.1 := by
  obtain ⟨bytes, sliced, equal⟩ := Except.bind_eq_ok_iff.mp read
  have same : bytes = content.1 := congrArg Prod.fst (Except.ok.inj equal)
  exact same ▸ sliced

/-- A number of fixed size is copied into a word of that size. -/
theorem gives_word {count : Nat} {opening : Opening}
    (fixed : opening.kind.allowsSize opening.size.toNat = (opening.size.toNat == count)) :
    Gives (Prod.map BitVec.toNat BitVec.toNat) (machine.word count opening)
      (machine.data.number opening.header) := by
  rw [Section.number_eq]
  change Gives _ _ (if opening.kind.allowsSize opening.size.toNat then _ else _)
  rw [fixed]
  unfold word
  by_cases exact : opening.size.toNat = count
  · rw [if_neg (not_not_intro exact), if_pos (beq_iff_eq.mpr exact)]
    apply (gives_content short opening).bind_map
    rintro ⟨content, next⟩ read
    have sliced := slice_of_content read
    rw [exact] at sliced
    have below := value_lt_of_slice sliced
    rw [show (256 : Nat) = 2 ^ 8 from rfl, ← Nat.pow_mul] at below
    refine .checked (if_pos (Section.size_of_slice sliced)) (.found ?_)
    rw [Prod.map_apply, BitVec.toNat_ofNat, Nat.mod_eq_of_lt below]
    rfl
  · rw [if_pos exact, if_neg (by rwa [beq_iff_eq])]
    exact .failed _

/-- A number of at most so many bytes is put together, and is as small as its bytes say. -/
theorem agrees_number {opening : Opening} {largest : Nat}
    (bounded : opening.kind.maxPayload? = some largest) (few : largest ≤ 16)
    (allows : opening.kind.allowsSize opening.size.toNat =
      decide (opening.size.toNat ≤ largest)) :
    Agrees (fun word number => Prod.map BitVec.toNat BitVec.toNat word = number ∧
        word.1.toNat < 256 ^ largest)
      (machine.number opening) (machine.data.number opening.header) := by
  rw [Section.number_eq]
  change Agrees _ _ (if opening.kind.allowsSize opening.size.toNat then _ else _)
  rw [allows]
  unfold number
  rw [bounded, Option.getD_some]
  by_cases small : opening.size.toNat ≤ largest
  · rw [if_neg (Nat.not_lt.mpr small), if_pos (decide_eq_true small)]
    apply (gives_content short opening).bind_map
    rintro ⟨content, next⟩ read
    obtain ⟨number, done, value, below⟩ :=
      exists_numeral_of_slice (Nat.le_trans small few) (slice_of_content read)
    refine .checked done (.found ⟨?_, ?_⟩)
    · rw [Prod.map_apply, value]
      rfl
    · exact Nat.lt_of_lt_of_le below (Nat.pow_le_pow_right (by decide) small)
  · rw [if_pos (Nat.not_le.mp small), if_neg (by rwa [decide_eq_true_eq])]
    exact .failed _

/-! ## Pointers -/

omit short in
/-- The table of smallest offsets has an entry for each width. -/
theorem exists_biasAt {width : Size} (positive : 0 < width.toNat) (few : width.toNat ≤ 4) :
    ∃ position bias, Word.sub width 1 = .ok position ∧ biasAt position = .ok bias ∧
      bias.toNat = Format.pointerBias width.toNat := by
  have widths : width = 1 ∨ width = 2 ∨ width = 3 ∨ width = 4 := by
    bv_omega
  rcases widths with rfl | rfl | rfl | rfl <;> exact ⟨_, _, rfl, rfl, rfl⟩

omit short in
/-- A pointer leads to the sum of its number, the base and its bias, if a word holds that. -/
theorem target?_cases {number width : Size} {sum : Nat} (positive : 0 < width.toNat)
    (few : width.toNat ≤ 4)
    (total : sum = number.toNat + machine.data.base + Format.pointerBias width.toNat) :
    (∃ target, machine.target? number width = .ok (some target) ∧ target.toNat = sum) ∨
      machine.target? number width = .ok none ∧ Format.offsetRange ≤ sum := by
  obtain ⟨position, bias, subtracted, found, equal⟩ := exists_biasAt positive few
  have base : machine.data.base = machine.base.toNat := rfl
  have range : Format.offsetRange = 2 ^ 64 := rfl
  unfold target?
  cases based : Word.sum? number machine.base with
  | none =>
      rw [Word.sum?_eq_none_iff] at based
      exact .inr ⟨rfl, by omega⟩
  | some first =>
      rw [Word.sum?_eq_some_iff] at based
      simp only [subtracted, found, bind, Except.bind]
      cases biased : Word.sum? first bias with
      | none =>
          rw [Word.sum?_eq_none_iff] at biased
          exact .inr ⟨rfl, by omega⟩
      | some target =>
          rw [Word.sum?_eq_some_iff] at biased
          exact .inl ⟨target, rfl, by omega⟩

omit short in
/-- The width that the size bits of a pointer say. -/
theorem exists_width (size : Size) :
    ∃ width, Word.add (size >>> 3 &&& 3) 1 = .ok width ∧
      width.toNat = Section.pointerBytes size.toNat := by
  have bits : (size >>> 3 &&& 3).toNat = size.toNat / 8 % 4 := by
    rw [BitVec.toNat_and, BitVec.toNat_ushiftRight, Nat.shiftRight_eq_div_pow]
    exact Nat.and_two_pow_sub_one_eq_mod _ 2
  obtain ⟨width, done, sum⟩ := Word.exists_add (size >>> 3 &&& 3) 1
    (by rw [bits, show (1 : Size).toNat = 1 from rfl]; omega)
  exact ⟨width, done, by rw [sum, bits]; rfl⟩

omit short in
/-- The number of a pointer is put together from its bits and its bytes, and fits into a word
of offsets. -/
theorem exists_pointerNumber {data : Section} {offset : Nat} {width : Size} {digits : ByteArray}
    (size : Size) (few : width.toNat ≤ 4) (read : data.slice offset width.toNat = .ok digits) :
    let low := BigEndian.value digits.data.toList
    ∃ long number,
      numeral (if width = 4 then 0 else (size &&& 7).setWidth 128) digits = .ok long ∧
        Word.narrow 64 long = .ok number ∧
        number.toNat =
          if width.toNat = 4 then low else size.toNat % 8 * 256 ^ width.toNat + low := by
  intro low
  generalize highDigits : (if width = 4 then 0 else (size &&& 7).setWidth 128) = high
  have bits : ((size &&& 7).setWidth 128).toNat = size.toNat % 8 := by
    rw [BitVec.toNat_setWidth_of_le (by decide), BitVec.toNat_and]
    exact Nat.and_two_pow_sub_one_eq_mod _ 3
  have four : width = 4 ↔ width.toNat = 4 := BitVec.toNat_inj.symm
  have value : high.toNat = if width.toNat = 4 then 0 else size.toNat % 8 := by
    rw [← highDigits]
    simp only [four]
    split
    · rfl
    · exact bits
  have small : high.toNat < 8 := by
    rw [value]
    split <;> omega
  have powers : 256 ^ width.toNat ≤ 256 ^ 4 := Nat.pow_le_pow_right (by decide) few
  have fits : (high.toNat + 1) * 256 ^ width.toNat ≤ 8 * 256 ^ 4 := Nat.mul_le_mul small powers
  have below := value_lt_of_slice read
  obtain ⟨long, done, total⟩ := exists_numeral high (Section.size_of_slice read)
    (Nat.le_trans fits (by decide))
  rw [Nat.add_mul, Nat.one_mul] at fits
  obtain ⟨number, narrowed, same⟩ := Word.exists_narrow 64 long (by omega)
  refine ⟨long, number, done, narrowed, ?_⟩
  rw [same, total, value]
  split
  · rw [Nat.zero_mul, Nat.zero_add]
  · rfl

/-- From its number on, a pointer is followed as it is with numbers. -/
theorem gives_target {number width payload : Size} {sum : Nat} (positive : 0 < width.toNat)
    (few : width.toNat ≤ 4)
    (total : sum = number.toNat + machine.data.base + Format.pointerBias width.toNat)
    (inside : payload.toNat + width.toNat ≤ machine.data.size) :
    Gives (Prod.map BitVec.toNat BitVec.toNat)
      (do
        match ← machine.target? number width with
        | none => throw (.outOfBounds payload.toNat width.toNat machine.length.toNat)
        | some target =>
            let next ← Word.add payload width
            return (target, next))
      (if sum < Format.offsetRange then .ok (sum, payload.toNat + width.toNat)
      else .error (.outOfBounds payload.toNat width.toNat machine.data.size)) := by
  rcases target?_cases positive few total with ⟨target, done, rfl⟩ | ⟨done, outside⟩
  · obtain ⟨next, added, behind⟩ := exists_add_of_le short _ _ inside
    have held : target.toNat < Format.offsetRange := target.isLt
    rw [if_pos held]
    refine .checked done (.checked added (.found ?_))
    rw [Prod.map_apply, behind]
  · rw [if_neg (Nat.not_lt.mpr outside), ← toNat_length short]
    exact .checked done (.failed _)

theorem gives_pointer (opening : Opening) :
    Gives (Prod.map BitVec.toNat BitVec.toNat) (machine.pointer opening)
      (machine.data.pointer opening.header) := by
  obtain ⟨width, done, count⟩ := exists_width opening.size
  have positive : 0 < width.toNat := count ▸ Nat.succ_pos _
  have few : width.toNat ≤ 4 := by
    rw [count, Section.pointerBytes]
    omega
  have header : Section.pointerBytes opening.header.size = width.toNat := count.symm
  refine .checked done ?_
  rw [Section.pointer, header, numeral_bind]
  apply (gives_slice short opening.payload width).bind
  intro digits read
  obtain ⟨long, number, done, narrowed, value⟩ := exists_pointerNumber opening.size few read
  refine .checked done (.checked narrowed ?_)
  refine gives_target short positive few ?_ (Section.slice_eq_ok_iff.mp read).1
  rw [value]
  rfl

end Short

end Machine

end DataSection
