import DataSection.Proofs.Encoding.RoundTrip
import DataSection.Proofs.Encoding.Size
import DataSection.Proofs.Section.Recognition

/-!
# Writing back what was read

Every value that reading gives can be written, whatever the bytes were that it was read
from, and is read again under the same limit.  Reading bounds all that writing depends on:
a header names no size that another header could not name, a dictionary has no more
entries than pairs were read, and a pointer uses up a level that the value, once it stands
in the pointer's place, does not need.
-/

namespace DataSection

/-- What holds of every value that is read with so many levels left. -/
structure Value.IsReadable (levels : Nat) (value : Value) : Prop where
  wellFormed : value.WellFormed
  depth_le : value.depth ≤ levels
  lengths_le : ∀ size ∈ value.lengths, size ≤ Format.maxSize

namespace Value

variable {levels : Nat}

/-- More levels do no harm. -/
theorem IsReadable.succ {value : Value} (readable : value.IsReadable levels) :
    value.IsReadable (levels + 1) :=
  ⟨readable.wellFormed, Nat.le_succ_of_le readable.depth_le, readable.lengths_le⟩

theorem IsReadable.array {elements : List Value}
    (each : ∀ element ∈ elements, element.IsReadable levels)
    (small : elements.length ≤ Format.maxSize) :
    (array elements).IsReadable (levels + 1) where
  wellFormed := wellFormedElements_iff.mpr fun element member => (each element member).wellFormed
  depth_le := by
    rw [depth_array_le_iff]
    intro element member
    exact Nat.lt_succ_of_le (each element member).depth_le
  lengths_le := by
    intro size member
    rcases List.mem_cons.mp member with rfl | inside
    · exact small
    · obtain ⟨element, elementMember, sizeMember⟩ := mem_lengthsOfElements.mp inside
      exact (each element elementMember).lengths_le size sizeMember

theorem IsReadable.map {entries : Dictionary Value} (distinct : entries.Distinct)
    (keys : ∀ entry ∈ entries.entries, entry.1.size ≤ Format.maxSize)
    (each : ∀ entry ∈ entries.entries, entry.2.IsReadable levels)
    (small : entries.size ≤ Format.maxSize) : (map entries).IsReadable (levels + 1) where
  wellFormed :=
    ⟨distinct, wellFormedEntries_iff.mpr fun entry member => (each entry member).wellFormed⟩
  depth_le := by
    rw [depth_map_le_iff]
    intro entry member
    exact Nat.lt_succ_of_le (each entry member).depth_le
  lengths_le := by
    intro size member
    rcases List.mem_cons.mp member with rfl | inside
    · exact small
    · obtain ⟨entry, entryMember, rfl | sizeMember⟩ := mem_lengthsOfEntries.mp inside
      · exact keys entry entryMember
      · exact (each entry entryMember).lengths_le size sizeMember

end Value

namespace Section

variable {data : Section} {levels start stop next offset : Nat} {value : Value}

theorem SizeBytes.size_le {field size : Nat} (form : SizeBytes data field start size stop) :
    size ≤ Format.maxSize := by
  rw [Format.maxSize_eq]
  rcases form.inline_or_digits with ⟨small, -, -⟩ | ⟨digits, positive, few, -, rfl, -⟩
  · exact Nat.le_trans small (by decide)
  · have bound := BigEndian.value_lt digits
    have lengths : digits.length = 1 ∨ digits.length = 2 ∨ digits.length = 3 := by omega
    rcases lengths with length | length | length <;> rw [length] at bound ⊢ <;>
      simp only [Format.sizeBase] <;> omega

/-- A header names no size that another could not name. -/
theorem Opens.size_le {kind : Kind} {size : Nat} (form : Opens data kind start size stop) :
    size ≤ Format.maxSize := by
  obtain ⟨field, middle, -, sized⟩ := form
  exact sized.size_le

theorem Denotes.isReadable {kind : Kind} {payload : ByteArray}
    (denotes : Denotes kind payload value) (small : payload.size ≤ Format.maxSize) :
    value.IsReadable levels := by
  cases denotes with
  | string payload =>
      refine ⟨trivial, Nat.zero_le levels, ?_⟩
      intro size member
      exact List.mem_singleton.mp member ▸ small
  | bytes payload =>
      refine ⟨trivial, Nat.zero_le levels, ?_⟩
      intro size member
      exact List.mem_singleton.mp member ▸ small
  | _ => exact ⟨trivial, Nat.zero_le levels, fun size member => nomatch member⟩

/-- The value of an item is readable if the values of all items one level below it are. -/
theorem Wire.isReadable_of_below
    (below : ∀ fewer start value stop, levels = fewer + 1 → Wire data fewer start value stop →
      value.IsReadable fewer)
    (wire : Wire data levels start value stop) : value.IsReadable levels := by
  cases wire with
  | boolean form => exact ⟨trivial, Nat.zero_le levels, fun size member => nomatch member⟩
  | scalar form occupied denotes => exact denotes.isReadable form.size_le
  | emptyArray form =>
      refine ⟨trivial, Nat.zero_le levels, ?_⟩
      intro size member
      exact List.mem_singleton.mp member ▸ form.size_le
  | emptyMap form =>
      refine ⟨⟨List.nodup_nil, trivial⟩, Nat.zero_le levels, ?_⟩
      intro size member
      exact List.mem_singleton.mp member ▸ form.size_le
  | @array fewer _ _ _ elements nonempty form wires =>
      apply Value.IsReadable.array _ form.size_le
      intro element member
      obtain ⟨_, _, elementWire⟩ := (wireElements_iff_row.mp wires).exists_of_mem member
      exact below fewer _ _ _ rfl elementWire
  | @map fewer _ _ _ pairs entries nonempty form wires collects =>
      cases Dictionary.collects_iff.mp collects
      -- A later pair may overwrite an earlier one, and every entry that is left was a pair.
      have stands : ∀ entry ∈ (Dictionary.ofList pairs).entries, ∃ start next,
          PairWire data fewer start entry next := by
        intro entry member
        exact (wirePairs_iff_row.mp wires).exists_of_mem
          (Dictionary.mem_of_mem_entries_ofList member)
      apply Value.IsReadable.map (Dictionary.distinct_ofList pairs)
      · intro entry member
        obtain ⟨_, _, middle, keyWire, -⟩ := stands entry member
        have readable := below fewer _ _ _ rfl keyWire
        exact readable.lengths_le entry.1.size (List.mem_singleton_self _)
      · intro entry member
        obtain ⟨_, _, middle, -, valueWire⟩ := stands entry member
        exact below fewer _ _ _ rfl valueWire
      · exact Nat.le_trans (Dictionary.size_ofList_le pairs) form.size_le
  | @pointer fewer _ _ _ _ _ _ _ _ form length occupied equal inside wire =>
      exact (below fewer _ _ _ rfl wire).succ

theorem Wire.isReadable (wire : Wire data levels start value stop) : value.IsReadable levels := by
  induction levels generalizing start value stop with
  | zero =>
      apply wire.isReadable_of_below
      intro fewer start value stop impossible
      cases impossible
  | succ levels ih =>
      apply wire.isReadable_of_below
      intro fewer start value stop equal below
      cases equal
      exact ih below

/-- What is written alone is read again from its bytes alone. -/
theorem decode_encoding {encoding : ByteArray} {levels : Nat} (readable : value.IsReadable levels)
    (encoded : value.encode = .ok encoding) (base : Nat) :
    Section.decode ⟨encoding, base, levels⟩ 0 = .ok (value, encoding.size) := by
  have stands := stands_middle encoded .empty .empty base levels
  have read := stands.decodeAt_eq readable.wellFormed levels
  rw [if_pos readable.depth_le] at read
  rw [decode]
  simpa only [ByteArray.empty_append, ByteArray.append_empty, ByteArray.size_empty,
    Nat.zero_add] using read

/-- What was read can be written.  It is no deeper than the limit, its encoding is read as
the same value under the same limit, and encodes to itself again. -/
theorem encode_of_decode (decoded : data.decode offset = .ok (value, next)) :
    value.depth ≤ data.limit ∧
      ∃ encoding, value.encode = .ok encoding ∧
        (∀ base, Section.decode ⟨encoding, base, data.limit⟩ 0 = .ok (value, encoding.size)) ∧
        ∀ base again stop, Section.decode ⟨encoding, base, data.limit⟩ 0 = .ok (again, stop) →
          again.encode = .ok encoding := by
  have readable := (decodeAt_eq_ok_iff_wire.mp decoded).isReadable
  obtain ⟨encoding, encoded⟩ := Value.exists_encode_iff.mpr readable.lengths_le
  refine ⟨readable.depth_le, encoding, encoded, decode_encoding readable encoded, ?_⟩
  intro base again stop reread
  cases (decode_encoding readable encoded base).symm.trans reread
  exact encoded

/-- An array of two pointers to one number, which begins with a zero byte. -/
def sharedNumber : Section :=
  { bytes := ⟨#[0x02, 0x04, 0x20, 0x06, 0x20, 0x06, 0xA2, 0x00, 0x07]⟩, limit := 2 }

/-- The array of both numbers is written without pointers and without the zero byte. -/
theorem encode_of_decode_sharedNumber :
    sharedNumber.decode 0 = .ok (.array [.uint16 7, .uint16 7], 6) ∧
      (Value.array [.uint16 7, .uint16 7]).encode =
        .ok ⟨#[0x02, 0x04, 0xA1, 0x07, 0xA1, 0x07]⟩ ∧
      Section.decode ⟨⟨#[0x02, 0x04, 0xA1, 0x07, 0xA1, 0x07]⟩, 9, 2⟩ 0 =
        .ok (.array [.uint16 7, .uint16 7], 6) := by
  have found : sharedNumber.header 0 = .ok ⟨.array, 2, 2⟩ := rfl
  have first : sharedNumber.decodeAt 1 2 = .ok (.uint16 7, 4) := rfl
  have second : sharedNumber.decodeAt 1 4 = .ok (.uint16 7, 6) := rfl
  have decoded : sharedNumber.decode 0 = .ok (.array [.uint16 7, .uint16 7], 6) :=
    (decodeNode_array_eq_ok_iff found rfl).mpr
      ⟨_, rfl, rfl, .cons first (.cons second (.nil 6))⟩
  have written : (Value.array [.uint16 7, .uint16 7]).encode =
      .ok ⟨#[0x02, 0x04, 0xA1, 0x07, 0xA1, 0x07]⟩ := rfl
  obtain ⟨-, encoding, encoded, reread, -⟩ := encode_of_decode decoded
  cases written.symm.trans encoded
  exact ⟨decoded, written, reread 9⟩

end Section

end DataSection
