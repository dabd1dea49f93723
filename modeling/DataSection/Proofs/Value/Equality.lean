import DataSection.Proofs.Binary
import DataSection.Proofs.Dictionary
import DataSection.Value.Equality
import DataSection.Value.Measure
import Mathlib.Data.List.Perm.Subperm
import Mathlib.Logic.Relation

/-!
# Equality of values is order-insensitive

Two maps are compared from one side only: they have the same number of entries, and every
entry of the first is found in the second.  Because keys are distinct, this finds every
entry of the second as well, so equal maps have the same keys and equal values under each.
From there equality is symmetric and transitive, and it is reflexive on every value that
holds no NaN.

Maps with the same entries in another order are equal, however deep they stand in a value.
-/

namespace DataSection

namespace Value

/-! ## Values at places -/

section Places

variable {Place : Type} {left middle right : Place → Option Value}

/-- Values stand at the same places, and those at one place are equal.  A place is a
position in an array or a key of a map. -/
def Agree (left right : Place → Option Value) : Prop :=
  ∀ place, Option.Rel (fun held other => held.equals other = true) (left place) (right place)

theorem Agree.eq_none_iff (agree : Agree left right) (place : Place) :
    left place = none ↔ right place = none := by
  have related := agree place
  revert related
  cases left place <;> cases right place <;> simp

theorem Agree.equals (agree : Agree left right) (place : Place) {held other : Value}
    (leftHeld : left place = some held) (rightHeld : right place = some other) :
    held.equals other = true := by
  have related := agree place
  rw [leftHeld, rightHeld] at related
  cases related with
  | some equal => exact equal

theorem agree_iff :
    Agree left right ↔
      (∀ place, left place = none ↔ right place = none) ∧
        ∀ place held other, left place = some held → right place = some other →
          held.equals other = true := by
  constructor
  · intro agree
    constructor
    · exact agree.eq_none_iff
    · intro place held other
      exact agree.equals place
  · intro same place
    have places := same.1 place
    cases leftHeld : left place with
    | none =>
        rw [places.mp leftHeld]
        exact .none
    | some held =>
        cases rightHeld : right place with
        | none => simp [leftHeld, rightHeld] at places
        | some other => exact .some (same.2 place held other leftHeld rightHeld)

theorem Agree.symm (agree : Agree left right)
    (each : ∀ place held other, left place = some held → right place = some other →
      held.equals other = true → other.equals held = true) : Agree right left := by
  rw [agree_iff]
  constructor
  · intro place
    exact (agree.eq_none_iff place).symm
  · intro place other held rightHeld leftHeld
    exact each place held other leftHeld rightHeld (agree.equals place leftHeld rightHeld)

theorem Agree.trans (first : Agree left middle) (second : Agree middle right)
    (each : ∀ place held between other, left place = some held → middle place = some between →
      right place = some other → held.equals between = true → between.equals other = true →
      held.equals other = true) : Agree left right := by
  rw [agree_iff]
  constructor
  · intro place
    exact (first.eq_none_iff place).trans (second.eq_none_iff place)
  · intro place held other leftHeld rightHeld
    cases middleHeld : middle place with
    | none => simp [(first.eq_none_iff place).mpr middleHeld] at leftHeld
    | some between =>
        exact each place held between other leftHeld middleHeld rightHeld
          (first.equals place leftHeld middleHeld) (second.equals place middleHeld rightHeld)

theorem agree_self_iff :
    Agree left left ↔ ∀ place held, left place = some held → held.equals held = true := by
  rw [agree_iff]
  constructor
  · intro same place held leftHeld
    exact same.2 place held held leftHeld leftHeld
  · intro each
    refine ⟨fun place => Iff.rfl, ?_⟩
    intro place held other leftHeld otherHeld
    cases leftHeld.symm.trans otherHeld
    exact each place held leftHeld

end Places

/-! ## Containers -/

/-- Arrays are equal if they have equal elements at the same positions. -/
theorem equals_array_iff {lefts rights : List Value} :
    (array lefts).equals (array rights) = true ↔
      Agree (fun position : Nat => lefts[position]?) (fun position => rights[position]?) := by
  rw [equals]
  induction lefts generalizing rights with
  | nil =>
      cases rights with
      | nil => simpa [equalElements] using agree_self_iff.mpr (by simp)
      | cons right rights =>
          simp only [equalElements, Bool.false_eq_true, false_iff]
          intro agree
          simpa using agree.eq_none_iff 0
  | cons left lefts ih =>
      cases rights with
      | nil =>
          simp only [equalElements, Bool.false_eq_true, false_iff]
          intro agree
          simpa using agree.eq_none_iff 0
      | cons right rights =>
          rw [equalElements, Bool.and_eq_true, ih]
          constructor
          · intro both position
            cases position with
            | zero => exact .some both.1
            | succ position => exact both.2 position
          · intro agree
            exact ⟨agree.equals 0 rfl rfl, fun position => agree (position + 1)⟩

theorem equalEntries_eq_true_iff {lefts rights : List (ByteArray × Value)} :
    equalEntries lefts rights = true ↔
      ∀ key left, (key, left) ∈ lefts →
        ∃ right, Dictionary.find? key rights = some right ∧ left.equals right = true := by
  induction lefts with
  | nil => simp [equalEntries]
  | cons entry lefts ih =>
      cases entry with
      | mk key left =>
          simp only [equalEntries, Bool.and_eq_true, ih, List.mem_cons, Prod.mk.injEq, or_imp,
            forall_and, and_imp, forall_eq_apply_imp_iff, forall_eq]
          cases Dictionary.find? key rights <;> simp

/-- Maps whose keys are distinct are equal if they have equal values under the same keys. -/
theorem equals_map_iff {left right : Dictionary Value} (leftDistinct : left.Distinct)
    (rightDistinct : right.Distinct) :
    (map left).equals (map right) = true ↔ Agree left.get? right.get? := by
  cases left with
  | mk lefts =>
  cases right with
  | mk rights =>
  simp only [equals, Bool.and_eq_true, beq_iff_eq, equalEntries_eq_true_iff]
  constructor
  · intro compared
    have found := compared.2
    have subset : lefts.map Prod.fst ⊆ rights.map Prod.fst := by
      intro key member
      obtain ⟨⟨_, value⟩, entry, rfl⟩ := List.mem_map.mp member
      obtain ⟨other, present, -⟩ := found _ _ entry
      exact Dictionary.exists_find?_iff.mp ⟨other, present⟩
    -- As many distinct keys on the left as on the right leave none on the right over.
    have same : (lefts.map Prod.fst).Perm (rights.map Prod.fst) := by
      apply (List.subperm_of_subset leftDistinct subset).perm_of_length_le
      simp [compared.1]
    rw [agree_iff]
    constructor
    · intro key
      rw [Dictionary.get?_eq_none_iff, Dictionary.get?_eq_none_iff]
      exact not_congr same.mem_iff
    · intro key held other heldFound otherFound
      obtain ⟨partner, present, equal⟩ := found _ _ (Dictionary.mem_of_find? heldFound)
      cases otherFound.symm.trans present
      exact equal
  · intro agree
    have same : (lefts.map Prod.fst).Perm (rights.map Prod.fst) := by
      apply (List.perm_ext_iff_of_nodup leftDistinct rightDistinct).mpr
      intro key
      apply not_iff_not.mp
      exact Dictionary.get?_eq_none_iff.symm.trans
        ((agree.eq_none_iff key).trans Dictionary.get?_eq_none_iff)
    constructor
    · simpa using same.length_eq
    · intro key held member
      have heldFound := Dictionary.find?_of_mem leftDistinct member
      obtain ⟨other, otherFound⟩ := Dictionary.exists_find?_iff.mpr
        (same.mem_iff.mp (Dictionary.exists_find?_iff.mp ⟨held, heldFound⟩))
      exact ⟨other, otherFound, agree.equals _ heldFound otherFound⟩

/-- The values of a map whose keys are distinct are well-formed if the map is. -/
theorem wellFormed_map_iff {dictionary : Dictionary Value} :
    (map dictionary).WellFormed ↔
      dictionary.Distinct ∧ ∀ key value, dictionary.get? key = some value → value.WellFormed := by
  cases dictionary with
  | mk entries =>
  rw [WellFormed, wellFormedEntries_iff]
  apply and_congr_right
  intro distinct
  constructor
  · intro each key value found
    exact each (key, value) (Dictionary.mem_of_find? found)
  · intro each entry member
    exact each entry.1 entry.2 (Dictionary.find?_of_mem distinct member)

/-! ## Symmetry and transitivity -/

/-- Whether equality of a value is more than agreement of all bits. -/
def isPlain (value : Value) : Bool :=
  match value with
  | .double _ | .float _ | .array _ | .map _ => false
  | _ => true

theorem equals_iff_eq {left right : Value} (plain : left.isPlain = true) :
    left.equals right = true ↔ left = right := by
  cases left <;> cases right <;> simp_all [equals, isPlain]

theorem equals_symm {left right : Value} (leftFormed : left.WellFormed)
    (rightFormed : right.WellFormed) (equal : left.equals right = true) :
    right.equals left = true := by
  induction left using Value.induction generalizing right with
  | array lefts ih =>
      cases right with
      | array rights =>
          rw [WellFormed, wellFormedElements_iff] at leftFormed rightFormed
          rw [equals_array_iff] at equal ⊢
          apply equal.symm
          intro position held other leftHeld rightHeld
          have leftMember := List.mem_of_getElem? leftHeld
          exact ih held leftMember (leftFormed held leftMember)
            (rightFormed other (List.mem_of_getElem? rightHeld))
      | _ => simp [equals] at equal
  | map lefts ih =>
      cases right with
      | map rights =>
          obtain ⟨leftDistinct, leftFormed⟩ := wellFormed_map_iff.mp leftFormed
          obtain ⟨rightDistinct, rightFormed⟩ := wellFormed_map_iff.mp rightFormed
          rw [equals_map_iff leftDistinct rightDistinct] at equal
          rw [equals_map_iff rightDistinct leftDistinct]
          apply equal.symm
          intro key held other leftHeld rightHeld
          exact ih (key, held) (Dictionary.mem_of_find? leftHeld) (leftFormed key held leftHeld)
            (rightFormed key other rightHeld)
      | _ => simp [equals] at equal
  | double bits =>
      cases right with
      | double others =>
          rw [equals] at equal ⊢
          rwa [Binary.Number.equals_comm]
      | _ => simp [equals] at equal
  | float bits =>
      cases right with
      | float others =>
          rw [equals] at equal ⊢
          rwa [Binary.Number.equals_comm]
      | _ => simp [equals] at equal
  | _ =>
      rw [equals_iff_eq rfl] at equal
      rw [← equal, equals_iff_eq rfl]

theorem equals_trans {left middle right : Value} (leftFormed : left.WellFormed)
    (middleFormed : middle.WellFormed) (rightFormed : right.WellFormed)
    (first : left.equals middle = true) (second : middle.equals right = true) :
    left.equals right = true := by
  induction left using Value.induction generalizing middle right with
  | array lefts ih =>
      cases middle with
      | array middles =>
          cases right with
          | array rights =>
              rw [WellFormed, wellFormedElements_iff] at leftFormed middleFormed rightFormed
              rw [equals_array_iff] at first second ⊢
              apply first.trans second
              intro position held between other leftHeld middleHeld rightHeld
              have leftMember := List.mem_of_getElem? leftHeld
              exact ih held leftMember (leftFormed held leftMember)
                (middleFormed between (List.mem_of_getElem? middleHeld))
                (rightFormed other (List.mem_of_getElem? rightHeld))
          | _ => simp [equals] at second
      | _ => simp [equals] at first
  | map lefts ih =>
      cases middle with
      | map middles =>
          cases right with
          | map rights =>
              obtain ⟨leftDistinct, leftFormed⟩ := wellFormed_map_iff.mp leftFormed
              obtain ⟨middleDistinct, middleFormed⟩ := wellFormed_map_iff.mp middleFormed
              obtain ⟨rightDistinct, rightFormed⟩ := wellFormed_map_iff.mp rightFormed
              rw [equals_map_iff leftDistinct middleDistinct] at first
              rw [equals_map_iff middleDistinct rightDistinct] at second
              rw [equals_map_iff leftDistinct rightDistinct]
              apply first.trans second
              intro key held between other leftHeld middleHeld rightHeld
              exact ih (key, held) (Dictionary.mem_of_find? leftHeld)
                (leftFormed key held leftHeld) (middleFormed key between middleHeld)
                (rightFormed key other rightHeld)
          | _ => simp [equals] at second
      | _ => simp [equals] at first
  | double bits =>
      cases middle with
      | double middles =>
          cases right with
          | double rights =>
              rw [equals] at first second ⊢
              exact Binary.Number.equals_trans first second
          | _ => simp [equals] at second
      | _ => simp [equals] at first
  | float bits =>
      cases middle with
      | float middles =>
          cases right with
          | float rights =>
              rw [equals] at first second ⊢
              exact Binary.Number.equals_trans first second
          | _ => simp [equals] at second
      | _ => simp [equals] at first
  | _ =>
      rw [equals_iff_eq rfl] at first
      rwa [first]

/-- With distinct keys it does not matter from which side the values are compared: those of the
right map may stand before those of the left one. -/
theorem equals_map_iff_forall_entries {left right : Dictionary Value}
    (leftFormed : (map left).WellFormed) (rightFormed : (map right).WellFormed) :
    (map left).equals (map right) = true ↔
      left.size = right.size ∧ ∀ key held, (key, held) ∈ left.entries →
        ∃ other, right.get? key = some other ∧ other.equals held = true := by
  have leftEach := wellFormedEntries_iff.mp leftFormed.2
  have rightEach := (wellFormed_map_iff.mp rightFormed).2
  rw [equals, Bool.and_eq_true, beq_iff_eq, equalEntries_eq_true_iff]
  apply and_congr_right
  intro sizes
  apply forall_congr'
  intro key
  apply forall₂_congr
  intro held member
  constructor
  · intro found
    obtain ⟨other, present, equal⟩ := found
    exact ⟨other, present, equals_symm (leftEach _ member) (rightEach key other present) equal⟩
  · intro found
    obtain ⟨other, present, equal⟩ := found
    exact ⟨other, present, equals_symm (rightEach key other present) (leftEach _ member) equal⟩

/-! ## Reflexivity -/

/-- Whether a value is a float that stands for no number. -/
def isNaN : Value → Bool
  | .double bits => (Binary.Format.double.decode bits.toNat).isNaN
  | .float bits => (Binary.Format.single.decode bits.toNat).isNaN
  | _ => false

/-- The inner value is the outer one or stands somewhere in it. -/
inductive Occurs (inner : Value) : (outer : Value) → Prop where
  | self : Occurs inner inner
  | element {elements : List Value} {element : Value} :
      element ∈ elements → Occurs inner element → Occurs inner (.array elements)
  | entry {entries : List (ByteArray × Value)} {entry : ByteArray × Value} :
      entry ∈ entries → Occurs inner entry.2 → Occurs inner (.map ⟨entries⟩)

/-- No float that stands for no number occurs in the value. -/
def NaNFree (value : Value) : Prop :=
  ∀ inner, Occurs inner value → inner.isNaN = false

theorem naNFree_array_iff {elements : List Value} :
    (array elements).NaNFree ↔ ∀ element ∈ elements, element.NaNFree := by
  constructor
  · intro free element member inner occurs
    exact free inner (.element member occurs)
  · intro each inner occurs
    cases occurs with
    | self => rfl
    | element member occurs => exact each _ member inner occurs

theorem naNFree_map_iff {entries : List (ByteArray × Value)} :
    (map ⟨entries⟩).NaNFree ↔ ∀ entry ∈ entries, entry.2.NaNFree := by
  constructor
  · intro free entry member inner occurs
    exact free inner (.entry member occurs)
  · intro each inner occurs
    cases occurs with
    | self => rfl
    | entry member occurs => exact each _ member inner occurs

theorem naNFree_leaf_iff {value : Value} (array : value.kind ≠ .array) (map : value.kind ≠ .map) :
    value.NaNFree ↔ value.isNaN = false := by
  constructor
  · intro free
    exact free value .self
  · intro number inner occurs
    cases occurs with
    | self => exact number
    | element => exact absurd rfl array
    | entry => exact absurd rfl map

/-- A value equals itself exactly if it holds no NaN. -/
theorem equals_self_iff {value : Value} (wellFormed : value.WellFormed) :
    value.equals value = true ↔ value.NaNFree := by
  induction value using Value.induction with
  | array elements ih =>
      have each := wellFormedElements_iff.mp wellFormed
      rw [equals_array_iff, agree_self_iff, naNFree_array_iff]
      constructor
      · intro same element member
        obtain ⟨position, stands⟩ := List.getElem?_of_mem member
        exact (ih element member (each element member)).mp (same position element stands)
      · intro free position element stands
        have member := List.mem_of_getElem? stands
        exact (ih element member (each element member)).mpr (free element member)
  | map entries ih =>
      obtain ⟨distinct, each⟩ := wellFormed
      have each := wellFormedEntries_iff.mp each
      rw [equals_map_iff distinct distinct, agree_self_iff, naNFree_map_iff]
      constructor
      · intro same entry member
        have found := Dictionary.find?_of_mem distinct member
        exact (ih entry member (each entry member)).mp (same entry.1 entry.2 found)
      · intro free key value found
        have member := Dictionary.mem_of_find? found
        exact (ih _ member (each _ member)).mpr (free _ member)
  | double bits =>
      rw [naNFree_leaf_iff (by simp [kind]) (by simp [kind]), equals, Binary.Number.equals_self, isNaN]
      simp
  | float bits =>
      rw [naNFree_leaf_iff (by simp [kind]) (by simp [kind]), equals, Binary.Number.equals_self, isNaN]
      simp
  | _ =>
      rw [equals_iff_eq rfl, naNFree_leaf_iff (by simp [kind]) (by simp [kind])]
      exact iff_of_true rfl rfl

/-! ## Floats -/

/-- Two doubles are equal if they have the same bits and are no NaN, or if both are zero. -/
theorem equals_double_iff {left right : UInt64} :
    (double left).equals (double right) = true ↔
      (double left).isNaN = false ∧ left = right ∨
        left.toNat % 2 ^ 63 = 0 ∧ right.toNat % 2 ^ 63 = 0 := by
  rw [equals, isNaN, ← UInt64.toNat_inj]
  exact Binary.Format.decode_equals_iff (by decide) left.toNat_lt right.toNat_lt

/-- Two singles are equal if they have the same bits and are no NaN, or if both are zero. -/
theorem equals_float_iff {left right : UInt32} :
    (float left).equals (float right) = true ↔
      (float left).isNaN = false ∧ left = right ∨
        left.toNat % 2 ^ 31 = 0 ∧ right.toNat % 2 ^ 31 = 0 := by
  rw [equals, isNaN, ← UInt32.toNat_inj]
  exact Binary.Format.decode_equals_iff (by decide) left.toNat_lt right.toNat_lt

/-! ## Order of entries -/

/-- The entries of one map, somewhere in a value, come to stand in another order. -/
inductive Shuffles : (value other : Value) → Prop where
  | entries {left right : List (ByteArray × Value)} :
      left.Perm right → Shuffles (.map ⟨left⟩) (.map ⟨right⟩)
  | element {elements : List Value} {position : Nat} {value other : Value} :
      elements[position]? = some value → Shuffles value other →
      Shuffles (.array elements) (.array (elements.set position other))
  | value {dictionary : Dictionary Value} {key : ByteArray} {value other : Value} :
      dictionary.get? key = some value → Shuffles value other →
      Shuffles (.map dictionary) (.map (dictionary.insert key other))

/-- Under distinct keys the same is found in any order. -/
theorem get?_eq_of_perm {left right : List (ByteArray × Value)}
    (distinct : (left.map Prod.fst).Nodup) (perm : left.Perm right) :
    Dictionary.get? ⟨left⟩ = Dictionary.get? ⟨right⟩ := by
  have rightDistinct : (right.map Prod.fst).Nodup := (perm.map Prod.fst).nodup distinct
  funext key
  apply Option.ext
  intro value
  constructor
  · intro found
    exact Dictionary.find?_of_mem rightDistinct (perm.mem_iff.mp (Dictionary.mem_of_find? found))
  · intro found
    exact Dictionary.find?_of_mem distinct (perm.mem_iff.mpr (Dictionary.mem_of_find? found))

theorem Shuffles.wellFormed {value other : Value} (shuffles : Shuffles value other)
    (formed : value.WellFormed) : other.WellFormed := by
  induction shuffles with
  | entries perm =>
      constructor
      · exact (perm.map Prod.fst).nodup formed.1
      · have each := wellFormedEntries_iff.mp formed.2
        apply wellFormedEntries_iff.mpr
        intro entry member
        exact each entry (perm.mem_iff.mpr member)
  | element stands _ ih =>
      have each := wellFormedElements_iff.mp formed
      apply wellFormedElements_iff.mpr
      intro element member
      rcases List.mem_or_eq_of_mem_set member with kept | rfl
      · exact each element kept
      · exact ih (each _ (List.mem_of_getElem? stands))
  | @value dictionary key value other found _ ih =>
      have parts := wellFormed_map_iff.mp formed
      apply wellFormed_map_iff.mpr
      constructor
      · exact parts.1.insert key other
      · intro asked held
        rw [Dictionary.get?_insert]
        split
        · intro same
          cases same
          exact ih (parts.2 key value found)
        · exact parts.2 asked held

/-- One shuffle gives an equal value, if the value equals itself. -/
theorem Shuffles.equals {value other : Value} (shuffles : Shuffles value other)
    (formed : value.WellFormed) (same : value.equals value = true) :
    value.equals other = true := by
  have shuffled := shuffles.wellFormed formed
  induction shuffles with
  | entries perm =>
      rw [equals_map_iff formed.1 formed.1] at same
      rw [equals_map_iff formed.1 shuffled.1]
      rwa [← get?_eq_of_perm formed.1 perm]
  | @element elements position value other stands shuffles ih =>
      have formed := wellFormedElements_iff.mp formed _ (List.mem_of_getElem? stands)
      have inside : position < elements.length := (List.getElem?_eq_some_iff.mp stands).1
      rw [equals_array_iff] at same ⊢
      have equal := ih formed (same.equals _ stands stands) (shuffles.wellFormed formed)
      intro asked
      dsimp only
      rw [List.getElem?_set]
      by_cases here : position = asked
      · subst here
        rw [if_pos rfl, if_pos inside, stands]
        exact .some equal
      · rw [if_neg here]
        exact same asked
  | @value dictionary key value other found shuffles ih =>
      have parts := wellFormed_map_iff.mp formed
      have shuffledParts := wellFormed_map_iff.mp shuffled
      have formed := parts.2 key value found
      rw [equals_map_iff parts.1 parts.1] at same
      rw [equals_map_iff parts.1 shuffledParts.1]
      have equal := ih formed (same.equals _ found found) (shuffles.wellFormed formed)
      intro asked
      rw [Dictionary.get?_insert]
      by_cases here : key = asked
      · subst here
        rw [if_pos rfl, found]
        exact .some equal
      · rw [if_neg here]
        exact same asked

/-- Any number of shuffles gives an equal value, if the value holds no NaN. -/
theorem equals_of_shuffles {value other : Value} (formed : value.WellFormed)
    (free : value.NaNFree) (shuffles : Relation.ReflTransGen Shuffles value other) :
    other.WellFormed ∧ value.equals other = true := by
  induction shuffles with
  | refl => exact ⟨formed, (equals_self_iff formed).mpr free⟩
  | @tail between other _ last ih =>
      have betweenFormed := ih.1
      have back := equals_symm formed betweenFormed ih.2
      have same := equals_trans betweenFormed formed betweenFormed back ih.2
      have shuffled := last.wellFormed betweenFormed
      exact ⟨shuffled, equals_trans formed betweenFormed shuffled ih.2
        (last.equals betweenFormed same)⟩

/-- Collecting pairs with distinct keys in another order gives an equal map. -/
theorem equals_ofList_of_perm {pairs others : List (ByteArray × Value)}
    (distinct : (pairs.map Prod.fst).Nodup)
    (each : ∀ pair ∈ pairs, pair.2.WellFormed ∧ pair.2.NaNFree) (perm : pairs.Perm others) :
    (Dictionary.ofList pairs).equals (Dictionary.ofList others) = true := by
  have othersDistinct : (others.map Prod.fst).Nodup := (perm.map Prod.fst).nodup distinct
  rw [Dictionary.ofList_of_distinct distinct, Dictionary.ofList_of_distinct othersDistinct]
  have formed : (map ⟨pairs⟩).WellFormed :=
    ⟨distinct, wellFormedEntries_iff.mpr fun pair member => (each pair member).1⟩
  have free : (map ⟨pairs⟩).NaNFree :=
    naNFree_map_iff.mpr fun pair member => (each pair member).2
  exact (equals_of_shuffles formed free (.single (.entries perm))).2

/-! ## The relation as a whole -/

/-- Equality of values whose maps have distinct keys is symmetric and transitive, and reflexive
on those that hold no NaN.  Maps are equal if they have the same keys with equal values under
each, in whatever order, and this at any depth. -/
theorem equals_ignores_order :
    (∀ left right : Value, left.WellFormed → right.WellFormed →
      left.equals right = right.equals left) ∧
    (∀ left middle right : Value, left.WellFormed → middle.WellFormed → right.WellFormed →
      left.equals middle = true → middle.equals right = true → left.equals right = true) ∧
    (∀ value : Value, value.WellFormed → (value.equals value = true ↔ value.NaNFree)) ∧
    (∀ left right : Dictionary Value, (map left).WellFormed → (map right).WellFormed →
      (left.equals right = true ↔
        (∀ key, key ∈ left.keys ↔ key ∈ right.keys) ∧
          ∀ key held other, left.get? key = some held → right.get? key = some other →
            held.equals other = true)) ∧
    (∀ pairs others : List (ByteArray × Value), (pairs.map Prod.fst).Nodup →
      (∀ pair ∈ pairs, pair.2.WellFormed ∧ pair.2.NaNFree) → pairs.Perm others →
      (Dictionary.ofList pairs).equals (Dictionary.ofList others) = true) ∧
    ∀ value other : Value, value.WellFormed → value.NaNFree →
      Relation.ReflTransGen Shuffles value other → value.equals other = true := by
  refine ⟨?symm, ?trans, ?self, ?keys, ?collected, ?anyDepth⟩
  case symm =>
    intro left right leftFormed rightFormed
    apply Bool.eq_iff_iff.mpr
    exact ⟨equals_symm leftFormed rightFormed, equals_symm rightFormed leftFormed⟩
  case trans =>
    intro left middle right
    exact equals_trans
  case self =>
    intro value
    exact equals_self_iff
  case keys =>
    intro left right leftFormed rightFormed
    rw [Dictionary.equals, equals_map_iff (wellFormed_map_iff.mp leftFormed).1
      (wellFormed_map_iff.mp rightFormed).1, agree_iff]
    simp only [Dictionary.get?_eq_none_iff, not_iff_not]
  case collected =>
    intro pairs others
    exact equals_ofList_of_perm
  case anyDepth =>
    intro value other formed free shuffles
    exact (equals_of_shuffles formed free shuffles).2

/-- A zero, and an array with a map in it. -/
def zeroAndMap : List (ByteArray × Value) :=
  [(⟨#[0x61]⟩, .double 0),
    (⟨#[0x62]⟩, .array [.map ⟨[(⟨#[0x78]⟩, .uint16 1), (⟨#[0x79]⟩, .boolean true)]⟩])]

/-- The inner map has its entries the other way round, and the zero is negative. -/
def negativeZeroAndMap : List (ByteArray × Value) :=
  [(⟨#[0x61]⟩, .double 0x8000000000000000),
    (⟨#[0x62]⟩, .array [.map ⟨[(⟨#[0x79]⟩, .boolean true), (⟨#[0x78]⟩, .uint16 1)]⟩])]

theorem equals_ignores_order_zeroAndMap :
    (map ⟨zeroAndMap⟩).WellFormed ∧ (map ⟨negativeZeroAndMap⟩).WellFormed ∧
      (map ⟨zeroAndMap⟩).equals (map ⟨negativeZeroAndMap⟩) = true ∧
      (map ⟨negativeZeroAndMap⟩).equals (map ⟨zeroAndMap⟩) = true ∧
      (map ⟨zeroAndMap⟩).NaNFree ∧
      (Dictionary.ofList zeroAndMap).equals (Dictionary.ofList zeroAndMap.reverse) = true := by
  have formed : (map ⟨zeroAndMap⟩).WellFormed := by
    simp [zeroAndMap, WellFormed, WellFormedEntries, WellFormedElements]
  have otherFormed : (map ⟨negativeZeroAndMap⟩).WellFormed := by
    simp [negativeZeroAndMap, WellFormed, WellFormedEntries, WellFormedElements]
  have equal : (map ⟨zeroAndMap⟩).equals (map ⟨negativeZeroAndMap⟩) = true := rfl
  obtain ⟨symm, trans, self, -, collected, -⟩ := equals_ignores_order
  have back : (map ⟨negativeZeroAndMap⟩).equals (map ⟨zeroAndMap⟩) = true := by
    rw [symm _ _ otherFormed formed]
    exact equal
  have free := (self _ formed).mp (trans _ _ _ formed otherFormed formed equal back)
  refine ⟨formed, otherFormed, equal, back, free, ?_⟩
  apply collected zeroAndMap zeroAndMap.reverse formed.1 _ zeroAndMap.reverse_perm.symm
  intro pair member
  exact ⟨wellFormedEntries_iff.mp formed.2 pair member, naNFree_map_iff.mp free pair member⟩

end Value

end DataSection
