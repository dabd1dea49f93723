import DataSection.Section.Basic

/-!
# Bytes in their place

Bytes stand in a section at an offset if a slice there gives them back.  What has been
written into a section can then be read part by part, without a computation with the
lengths of what stands around it.
-/

namespace DataSection.Section

variable {data : Section} {offset : Nat}

/-- The bytes stand in the section at an offset. -/
def Holds (data : Section) (offset : Nat) (content : ByteArray) : Prop :=
  data.slice offset content.size = .ok content

theorem holds_iff {content : ByteArray} :
    data.Holds offset content ↔
      offset + content.size ≤ data.size ∧
        data.bytes.extract offset (offset + content.size) = content :=
  slice_eq_ok_iff

/-- Bytes stand where they were put. -/
theorem holds_middle (before content after : ByteArray) (base limit : Nat) :
    Holds ⟨before ++ content ++ after, base, limit⟩ before.size content := by
  rw [holds_iff]
  constructor
  · simp only [size, ByteArray.size_append]
    omega
  · rw [← ByteArray.size_append, ByteArray.extract_append_size_left]
    exact ByteArray.extract_append_eq_right rfl ByteArray.size_append

/-- Bytes stand in the section that they are. -/
theorem holds_whole (content : ByteArray) (base limit : Nat) :
    Holds ⟨content, base, limit⟩ 0 content := by
  rw [holds_iff, Nat.zero_add]
  exact ⟨Nat.le_refl _, ByteArray.extract_zero_size⟩

/-- Bytes stand in a section exactly if both of their parts do, one behind the other. -/
theorem holds_append {first second : ByteArray} :
    data.Holds offset (first ++ second) ↔
      data.Holds offset first ∧ data.Holds (offset + first.size) second := by
  simp only [holds_iff, ByteArray.size_append, ← Nat.add_assoc]
  have split : offset + first.size + second.size ≤ data.size →
      data.bytes.extract offset (offset + first.size + second.size) =
        data.bytes.extract offset (offset + first.size) ++
          data.bytes.extract (offset + first.size) (offset + first.size + second.size) := by
    intro inside
    exact ByteArray.extract_eq_extract_append_extract (offset + first.size) (by omega) (by omega)
  constructor
  · rintro ⟨inside, equal⟩
    rw [split inside] at equal
    have size : (data.bytes.extract offset (offset + first.size)).size = first.size := by
      rw [ByteArray.size_extract, Nat.min_eq_left (by unfold Section.size at inside; omega)]
      omega
    have head := ByteArray.append_inj_left equal size
    refine ⟨⟨by omega, head⟩, inside, ?_⟩
    rw [head] at equal
    exact (ByteArray.append_right_inj first).mp equal
  · rintro ⟨⟨-, head⟩, inside, tail⟩
    exact ⟨inside, by rw [split inside, head, tail]⟩

theorem holds_singleton {byte : UInt8} :
    data.Holds offset [byte].toByteArray ↔ data.byteAt offset = .ok byte := by
  rw [holds_iff, byteAt_eq_ok_iff, List.size_toByteArray, List.length_singleton]
  constructor
  · intro held
    obtain ⟨inside, equal⟩ := held
    rw [ByteArray.extract_add_one inside, List.toByteArray_inj] at equal
    exact ⟨inside, List.singleton_inj.mp equal⟩
  · intro read
    obtain ⟨inside, equal⟩ := read
    refine ⟨inside, ?_⟩
    rw [← equal]
    exact ByteArray.extract_add_one inside

theorem byteAt_of_holds {byte : UInt8} (held : data.Holds offset [byte].toByteArray) :
    data.byteAt offset = .ok byte :=
  holds_singleton.mp held

/-- Bytes stand in a section exactly if the first is read there and the others stand behind
it. -/
theorem holds_cons {byte : UInt8} {rest : List UInt8} :
    data.Holds offset (byte :: rest).toByteArray ↔
      data.byteAt offset = .ok byte ∧ data.Holds (offset + 1) rest.toByteArray := by
  rw [← List.singleton_append, List.toByteArray_append, holds_append, holds_singleton,
    List.size_toByteArray, List.length_singleton]

theorem numeral_of_holds {digits : List UInt8} (held : data.Holds offset digits.toByteArray) :
    data.numeral offset digits.length = .ok (BigEndian.value digits) := by
  unfold Holds at held
  rw [List.size_toByteArray] at held
  rw [numeral, held]
  simp [Except.map]

end DataSection.Section
