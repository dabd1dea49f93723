import DataSection.Kind
import DataSection.Dictionary

/-!
# Values

A value is a tree of scalars, arrays and string-keyed dictionaries.  Strings are
byte strings that need not be UTF-8, and floats are bit patterns, so that equal
values are those whose every bit agrees.

`Value.induction` is the induction over such trees; `identical` decides equality.
-/

namespace DataSection

/-- A value of a data section.  There is no value for a pointer, because reading
one gives the value that it points to. -/
inductive Value where
  | string (text : ByteArray)
  | double (bits : UInt64)
  | bytes (content : ByteArray)
  | uint16 (number : UInt16)
  | uint32 (number : UInt32)
  | map (entries : Dictionary Value)
  | int32 (number : Int32)
  | uint64 (number : UInt64)
  | uint128 (number : BitVec 128)
  | array (elements : List Value)
  | boolean (flag : Bool)
  | float (bits : UInt32)
  deriving Inhabited

namespace Value

/-- The kind that announces a value. -/
def kind : Value → Kind
  | string _ => .string
  | double _ => .double
  | bytes _ => .bytes
  | uint16 _ => .uint16
  | uint32 _ => .uint32
  | map _ => .map
  | int32 _ => .int32
  | uint64 _ => .uint64
  | uint128 _ => .uint128
  | array _ => .array
  | boolean _ => .boolean
  | float _ => .float

/-- Induction over the tree, with the hypothesis for every element and entry. -/
theorem induction {motive : Value → Prop}
    (string : ∀ text, motive (string text))
    (double : ∀ bits, motive (double bits))
    (bytes : ∀ content, motive (bytes content))
    (uint16 : ∀ number, motive (uint16 number))
    (uint32 : ∀ number, motive (uint32 number))
    (map : ∀ entries, (∀ entry ∈ entries, motive entry.2) → motive (map ⟨entries⟩))
    (int32 : ∀ number, motive (int32 number))
    (uint64 : ∀ number, motive (uint64 number))
    (uint128 : ∀ number, motive (uint128 number))
    (array : ∀ elements, (∀ element ∈ elements, motive element) → motive (array elements))
    (boolean : ∀ flag, motive (boolean flag))
    (float : ∀ bits, motive (float bits)) (value : Value) : motive value := by
  refine @Value.rec motive
    (fun dictionary => ∀ entry ∈ dictionary.entries, motive entry.2)
    (fun elements => ∀ element ∈ elements, motive element)
    (fun entries => ∀ entry ∈ entries, motive entry.2)
    (fun entry => motive entry.2)
    string double bytes uint16 uint32 (fun dictionary ih => map dictionary.entries ih)
    int32 uint64 uint128 array boolean float (fun _ ih => ih) ?_ ?_ ?_ ?_ (fun _ _ ih => ih) value
  · exact fun _ member => nomatch member
  · intro head tail first rest element member
    rcases List.mem_cons.mp member with rfl | member
    · exact first
    · exact rest element member
  · exact fun _ member => nomatch member
  · intro head tail first rest entry member
    rcases List.mem_cons.mp member with rfl | member
    · exact first
    · exact rest entry member

mutual

/-- Whether every bit of two values agrees, and every entry stands at the same
place. -/
def identical : Value → Value → Bool
  | .string left, .string right => decide (left = right)
  | .double left, .double right => left == right
  | .bytes left, .bytes right => decide (left = right)
  | .uint16 left, .uint16 right => left == right
  | .uint32 left, .uint32 right => left == right
  | .map ⟨left⟩, .map ⟨right⟩ => identicalEntries left right
  | .int32 left, .int32 right => left == right
  | .uint64 left, .uint64 right => left == right
  | .uint128 left, .uint128 right => left == right
  | .array left, .array right => identicalElements left right
  | .boolean left, .boolean right => left == right
  | .float left, .float right => left == right
  | _, _ => false

/-- `identical` along two lists of elements. -/
def identicalElements : List Value → List Value → Bool
  | [], [] => true
  | left :: lefts, right :: rights => left.identical right && identicalElements lefts rights
  | _, _ => false

/-- `identical` along two lists of entries. -/
def identicalEntries : List (ByteArray × Value) → List (ByteArray × Value) → Bool
  | [], [] => true
  | (leftKey, left) :: lefts, (rightKey, right) :: rights =>
      decide (leftKey = rightKey) && left.identical right && identicalEntries lefts rights
  | _, _ => false

end

/-- Agreement of two entries, the second of which is compared by `identical`. -/
private theorem identicalEntries_eq_true {left : List (ByteArray × Value)}
    (ih : ∀ entry ∈ left, ∀ right, entry.2.identical right = true ↔ entry.2 = right)
    (right : List (ByteArray × Value)) :
    identicalEntries left right = true ↔ left = right := by
  induction left generalizing right with
  | nil => cases right <;> simp [identicalEntries]
  | cons entry rest rest_ih =>
      cases right with
      | nil => simp [identicalEntries]
      | cons other others =>
          have head := ih entry (by simp) other.2
          have tail := rest_ih (fun entry member => ih entry (by simp [member])) others
          obtain ⟨key, value⟩ := entry
          obtain ⟨otherKey, otherValue⟩ := other
          simp only [identicalEntries, Bool.and_eq_true, decide_eq_true_eq, head, tail,
            List.cons.injEq, Prod.mk.injEq]

private theorem identicalElements_eq_true {left : List Value}
    (ih : ∀ element ∈ left, ∀ right, element.identical right = true ↔ element = right)
    (right : List Value) :
    identicalElements left right = true ↔ left = right := by
  induction left generalizing right with
  | nil => cases right <;> simp [identicalElements]
  | cons element rest rest_ih =>
      cases right with
      | nil => simp [identicalElements]
      | cons other others =>
          have head := ih element (by simp) other
          have tail := rest_ih (fun element member => ih element (by simp [member])) others
          simp only [identicalElements, Bool.and_eq_true, head, tail, List.cons.injEq]

/-- `identical` decides equality. -/
@[simp] theorem identical_eq_true {left right : Value} :
    left.identical right = true ↔ left = right := by
  induction left using Value.induction generalizing right with
  | map entries ih =>
      cases right with
      | map other =>
          obtain ⟨others⟩ := other
          simp [identical, identicalEntries_eq_true fun entry member right => ih entry member]
      | _ => simp [identical]
  | array elements ih =>
      cases right with
      | array others =>
          simp [identical, identicalElements_eq_true fun element member right => ih element member]
      | _ => simp [identical]
  | _ => cases right <;> simp [identical]

instance : DecidableEq Value := fun left right =>
  decidable_of_iff (left.identical right = true) identical_eq_true

end Value

end DataSection
