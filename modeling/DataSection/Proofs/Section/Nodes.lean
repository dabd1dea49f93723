import DataSection.Proofs.Encoding.WriteBack
import DataSection.Proofs.Section.Cycle
import DataSection.Proofs.Section.Items

/-!
# How many nodes are read

Every node of a value that is read without a pointer has a byte of its own, so the item has at
least as many bytes as the value has nodes.  A pointer puts a whole value where it has two
bytes, which may be as large as the section.  So each pointer on a way down costs a factor of
the size of the section, and no more.

Apart from that, no value has more nodes than the levels and the sizes that headers can name
leave room for.
-/

namespace DataSection

namespace Value

theorem nodeCount_ofText (kind : Kind) (content : ByteArray) :
    (ofText kind content).nodeCount = 1 := by
  unfold ofText
  split <;> rfl

theorem nodeCount_ofNumber (kind : Kind) (number : Nat) : (ofNumber kind number).nodeCount = 1 := by
  unfold ofNumber
  split <;> rfl

end Value

namespace Section

variable {α : Type} {data : Section} {levels others pointers start item target stop : Nat}
variable {value : Value} {header : Header} {read : Nat → Except ReadError (Value × Nat)}

/-! ## Ways down -/

/-- A way down from an item, along what its items lead to, on which so many pointers are
followed. -/
inductive Way (data : Section) : (pointers start item : Nat) → Prop where
  | here (offset : Nat) : Way data 0 offset offset
  | behind {pointers start target stop item : Nat} :
      data.PointerAt start target stop → Way data pointers target item →
      Way data (pointers + 1) start item
  | inside {pointers start middle item : Nat} :
      (∀ target stop, ¬data.PointerAt start target stop) → data.Leads start middle →
      Way data pointers middle item → Way data pointers start item

theorem not_pointerAt (found : data.header start = .ok header) (other : header.kind ≠ .pointer) :
    ¬data.PointerAt start target stop := by
  intro pointer
  obtain ⟨same, sameFound, kind, -⟩ := pointerAt_iff.mp pointer
  cases found.symm.trans sameFound
  exact other kind

/-- Only pointers and containers lead anywhere, containers to their items. -/
theorem Leads.kind (leads : data.Leads start item) (found : data.header start = .ok header) :
    header.kind = .pointer ∨
      (header.kind = .array ∧ ∃ position levels, position < header.size ∧
        advance (data.skipAt levels) position header.payload = .ok item) ∨
      (header.kind = .map ∧ ∃ position levels, position < 2 * header.size ∧
        advance (data.skipAt levels) position header.payload = .ok item) := by
  cases leads with
  | target pointer =>
      obtain ⟨same, sameFound, kind, -⟩ := pointerAt_iff.mp pointer
      cases found.symm.trans sameFound
      exact .inl kind
  | element opens inside reached =>
      cases found.symm.trans (header_of_opens rfl opens)
      exact .inr (.inl ⟨rfl, _, _, inside, reached⟩)
  | keyOrValue opens inside reached =>
      cases found.symm.trans (header_of_opens rfl opens)
      exact .inr (.inr ⟨rfl, _, _, inside, reached⟩)

/-- No way down from an item follows more pointers than that. -/
def NestsPointers (data : Section) (bound start : Nat) : Prop :=
  ∀ pointers item, data.Way pointers start item → pointers ≤ bound

/-- Behind a pointer, one pointer less is followed. -/
theorem NestsPointers.exists_target (nests : data.NestsPointers pointers start)
    (pointer : data.PointerAt start target stop) :
    ∃ fewer, pointers = fewer + 1 ∧ data.NestsPointers fewer target := by
  have positive := nests 1 target (.behind pointer (.here target))
  refine ⟨pointers - 1, by omega, ?_⟩
  intro followed item way
  have bounded := nests (followed + 1) item (.behind pointer way)
  omega

/-- In a container, no more pointers are followed than from the container on. -/
theorem NestsPointers.inside (nests : data.NestsPointers pointers start)
    (found : data.header start = .ok header) (other : header.kind ≠ .pointer)
    (leads : data.Leads start item) : data.NestsPointers pointers item := by
  intro followed below way
  exact nests followed below (.inside (fun _ _ => not_pointerAt found other) leads way)

/-- From a pointer on, one pointer more is followed than from its target on. -/
theorem NestsPointers.behind (nests : data.NestsPointers pointers target)
    (pointer : data.PointerAt start target stop) : data.NestsPointers (pointers + 1) start := by
  intro followed item way
  cases way with
  | here => exact Nat.zero_le _
  | behind other below =>
      cases (pointer.unique other).1
      exact Nat.succ_le_succ (nests _ _ below)
  | inside noPointer _ _ => exact absurd pointer (noPointer target stop)

/-- An item that is no pointer follows as many pointers as the items it leads to. -/
theorem nestsPointers_of_leads (found : data.header start = .ok header)
    (other : header.kind ≠ .pointer)
    (each : ∀ item, data.Leads start item → data.NestsPointers pointers item) :
    data.NestsPointers pointers start := by
  intro followed item way
  cases way with
  | here => exact Nat.zero_le _
  | behind pointer _ => exact absurd pointer (not_pointerAt found other)
  | inside _ leads below => exact each _ leads _ _ below

/-- A scalar leads nowhere. -/
theorem nestsPointers_of_leaf (found : data.header start = .ok header)
    (leaf : header.kind.isLeaf = true) : data.NestsPointers 0 start := by
  refine nestsPointers_of_leads found ?_ ?_
  · intro pointer
    rw [pointer] at leaf
    cases leaf
  · intro item leads
    rcases leads.kind found with kind | ⟨kind, -⟩ | ⟨kind, -⟩ <;>
    · rw [kind] at leaf
      cases leaf

theorem nestsPointers_of_array (found : data.header start = .ok header)
    (array : header.kind = .array)
    (each : ∀ position levels item, position < header.size →
      advance (data.skipAt levels) position header.payload = .ok item →
        data.NestsPointers pointers item) :
    data.NestsPointers pointers start := by
  refine nestsPointers_of_leads found (by rw [array]; decide) ?_
  intro item leads
  rcases leads.kind found with pointer | ⟨-, position, levels, inside, reached⟩ | ⟨map, -⟩
  · cases array.symm.trans pointer
  · exact each position levels item inside reached
  · cases array.symm.trans map

/-! ## Rows -/

/-- Each item of a row is reached by skipping the ones before it. -/
theorem Row.reached {stands : Nat → α → Nat → Prop} {step : Nat → Except ReadError Nat}
    {offset stop : Nat} {items : List α} (row : Row stands offset items stop)
    (agree : ∀ start item next, stands start item next → step start = .ok next) :
    Row (fun start item next => stands start item next ∧
      ∃ position, position < items.length ∧ Section.advance step position offset = .ok start)
      offset items stop := by
  induction row with
  | nil offset => exact .nil offset
  | @cons offset middle stop item items first row ih =>
      refine .cons ⟨first, 0, Nat.succ_pos _, rfl⟩ (ih.imp ?_)
      rintro start item next ⟨result, position, inside, reached⟩
      refine ⟨result, position + 1, Nat.succ_lt_succ inside, ?_⟩
      rw [Section.advance, agree _ _ _ first]
      exact reached

/-- The items of a row have no more nodes than a factor times their bytes, if each has not. -/
theorem Row.nodesOfElements_le {stands : Nat → Value → Nat → Prop} {factor offset stop : Nat}
    {items : List Value} (row : Row stands offset items stop)
    (each : ∀ start item next, stands start item next →
      start ≤ next ∧ item.nodeCount ≤ (next - start) * factor) :
    offset ≤ stop ∧ Value.nodesOfElements items ≤ (stop - offset) * factor := by
  induction row with
  | nil offset => exact ⟨Nat.le_refl _, Nat.zero_le _⟩
  | @cons offset middle stop item items first _ ih =>
      obtain ⟨forward, head⟩ := each _ _ _ first
      obtain ⟨onward, tail⟩ := ih
      have parts : stop - offset = middle - offset + (stop - middle) := by omega
      rw [Value.nodesOfElements, parts, Nat.add_mul]
      exact ⟨Nat.le_trans forward onward, Nat.add_le_add head tail⟩

/-! ## One item -/

theorem nodeCount_of_decodeNode_leaf (found : data.header start = .ok header)
    (leaf : header.kind.isLeaf = true) (decoded : data.decodeNode read start = .ok (value, stop)) :
    value.nodeCount = 1 := by
  rcases Kind.eq_boolean_or_of_isLeaf leaf with boolean | text | number
  · rw [decodeNode_boolean found boolean] at decoded
    cases decoded
    rfl
  · rw [decodeNode_text found text, Except.map_eq_ok_iff] at decoded
    obtain ⟨result, -, equal⟩ := decoded
    cases equal
    exact Value.nodeCount_ofText _ _
  · rw [decodeNode_number found number, Except.map_eq_ok_iff] at decoded
    obtain ⟨result, -, equal⟩ := decoded
    cases equal
    exact Value.nodeCount_ofNumber _ _

section Node

variable (agree : ∀ start value next, read start = .ok (value, next) →
  data.skipAt others start = .ok next)
variable (below : ∀ start value next pointers, read start = .ok (value, next) →
  data.NestsPointers pointers start →
    value.nodeCount ≤ (next - start) * data.size ^ pointers)
variable (nests : data.NestsPointers pointers start)
variable (found : data.header start = .ok header)
include agree below nests found

/-- The items of a container and the container itself have no more nodes than the item gives
room for.  The header's bytes are those of the container. -/
theorem nodesOfElements_lt {items : List Value} (other : header.kind ≠ .pointer)
    (leads : ∀ position item, position < items.length →
      advance (data.skipAt others) position header.payload = .ok item → data.Leads start item)
    (row : Row (Reads read) header.payload items stop) :
    Value.nodesOfElements items + 1 ≤ (stop - start) * data.size ^ pointers := by
  obtain ⟨opened, inside⟩ := header_advances found
  have positive : 0 < data.size ^ pointers := Nat.pow_pos (by omega)
  obtain ⟨onward, counted⟩ := (row.reached agree).nodesOfElements_le fun item value next reads => by
    obtain ⟨result, position, before, reached⟩ := reads
    have forward := (skipAt_advances (agree _ _ _ result)).1
    have within := nests.inside found other (leads position item before reached)
    exact ⟨Nat.le_of_lt forward, below _ _ _ pointers result within⟩
  have parts : stop - start = stop - header.payload + (header.payload - start) := by omega
  rw [parts, Nat.add_mul]
  exact Nat.add_le_add counted (Nat.mul_pos (by omega) positive)

/-- If the values below an item have no more nodes than their items give room for, neither has
the value of the item. -/
theorem nodeCount_le_of_decodeNode (decoded : data.decodeNode read start = .ok (value, stop)) :
    value.nodeCount ≤ (stop - start) * data.size ^ pointers := by
  obtain ⟨forward, inside⟩ := skipNode_advances (fun _ _ => skipAt_advances)
    (skipNode_of_decodeNode agree decoded)
  have bytes : 0 < stop - start := Nat.sub_pos_of_lt forward
  have size : 0 < data.size := by omega
  rcases header.kind.eq_or_isLeaf with pointer | array | map | leaf
  · obtain ⟨target, behind, reached, pointee⟩ :=
      (decodeNode_pointer_eq_ok_iff found pointer).mp decoded
    have stands : data.PointerAt start target stop :=
      pointerAt_iff.mpr ⟨header, found, pointer, reached⟩
    obtain ⟨fewer, rfl, nestsBelow⟩ := nests.exists_target stands
    have extent : behind - target ≤ data.size :=
      Nat.le_trans (Nat.sub_le _ _) (skipAt_advances (agree _ _ _ pointee)).2
    calc value.nodeCount ≤ (behind - target) * data.size ^ fewer :=
          below _ _ _ fewer pointee nestsBelow
      _ ≤ data.size * data.size ^ fewer := Nat.mul_le_mul_right _ extent
      _ = data.size ^ (fewer + 1) := by rw [Nat.pow_succ, Nat.mul_comm]
      _ ≤ (stop - start) * data.size ^ (fewer + 1) := Nat.le_mul_of_pos_left _ bytes
  · obtain ⟨elements, rfl, length, row⟩ := (decodeNode_array_eq_ok_iff found array).mp decoded
    have opens := opens_of_header found (by rw [array]; rfl)
    rw [array, ← length] at opens
    exact nodesOfElements_lt agree below nests found (by rw [array]; decide)
      (fun position item inside reached => .element opens inside reached) row
  · obtain ⟨entries, rfl, length, row⟩ := (decodeNode_map_eq_ok_iff found map).mp decoded
    have opens := opens_of_header found (by rw [map]; rfl)
    rw [map, ← length] at opens
    have counted := nodesOfElements_lt agree below nests found (by rw [map]; decide)
      (fun position item inside reached =>
        .keyOrValue opens (Value.length_itemsOfEntries entries ▸ inside) reached) row.items
    rw [← Value.nodesOfEntries_eq] at counted
    exact Nat.le_trans (Nat.succ_le_succ (Value.nodesOfEntries_ofList_le entries)) counted
  · rw [nodeCount_of_decodeNode_leaf found leaf decoded]
    exact Nat.mul_pos bytes (Nat.pow_pos size)

end Node

/-! ## All levels -/

/-- A value has at most as many nodes as its item has bytes, times the size of the section for
each pointer that a way down from the item follows. -/
theorem nodeCount_le_mul_pow (nests : data.NestsPointers pointers start)
    (decoded : data.decodeAt levels start = .ok (value, stop)) :
    value.nodeCount ≤ (stop - start) * data.size ^ pointers := by
  induction levels generalizing pointers start value stop with
  | zero =>
      obtain ⟨header, found⟩ := exists_header_of_decodeNode decoded
      have agree : ∀ (start : Nat) (value : Value) (next : Nat),
          Except.error (ReadError.tooDeep data.limit) = .ok (value, next) →
            data.skipAt 0 start = .ok next := by
        intro start value next impossible
        cases impossible
      refine nodeCount_le_of_decodeNode agree ?_ nests found decoded
      intro start value next pointers impossible
      cases impossible
  | succ levels ih =>
      obtain ⟨header, found⟩ := exists_header_of_decodeNode decoded
      have agree : ∀ start value next, data.decodeAt levels start = .ok (value, next) →
          data.skipAt levels start = .ok next := by
        intro start value next read
        exact skipAt_of_decodeAt read
      refine nodeCount_le_of_decodeNode agree ?_ nests found decoded
      intro start value next pointers read nestsBelow
      exact ih nestsBelow read

/-- Whatever the bytes, no value has more nodes than the levels and the largest size of a
header leave room for. -/
theorem nodeCount_lt_of_decodeAt (decoded : data.decodeAt levels start = .ok (value, stop)) :
    value.nodeCount < 2 * (Format.maxSize + 1) ^ levels := by
  have readable := (decodeAt_eq_ok_iff_wire.mp decoded).isReadable
  exact Nat.lt_of_lt_of_le (Value.nodeCount_lt readable.lengths_le)
    (Value.two_mul_pow_le readable.depth_le)

end Section

end DataSection
