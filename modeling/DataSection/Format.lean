import DataSection.Instances

/-!
# Numbers of the format

An item's size stands in five bits of its control byte or, from 29 on, in one to
three bytes behind it.  Each longer form starts where the shorter one ends, so no
size has two forms.  Pointers of two and three bytes start where the shorter ones
end, too; those of four bytes reach everything.
-/

namespace DataSection.Format

/-- The version of this implementation of the format. -/
def version : String := "0.1.0"

/-- The largest size that stands in the control byte itself. -/
def maxInlineSize : Nat := 28

/-- What stands in the size bits if `extra` size bytes follow. -/
def sizeCode (extra : Nat) : Nat := maxInlineSize + extra

/-- The smallest size that `extra` size bytes express. -/
def sizeBase : (extra : Nat) → Nat
  | 0 => 0
  | 1 => 29
  | 2 => 285
  | _ => 65821

/-- The largest size that a header can express. -/
def maxSize : Nat := sizeBase 3 + (256 ^ 3 - 1)

/-- The number of size bytes that a size needs. -/
def extraBytes (size : Nat) : Nat :=
  if size ≤ maxInlineSize then 0
  else if size < sizeBase 2 then 1
  else if size < sizeBase 3 then 2
  else 3

/-- The smallest offset that a pointer of `width` bytes expresses. -/
def pointerBias : (width : Nat) → Nat
  | 2 => 2048
  | 3 => 526336
  | _ => 0

/-- The number of bytes that a pointer to an offset needs behind its control byte,
which holds three more bits for all but the widest. -/
def pointerWidth (target : Nat) : Nat :=
  if target < pointerBias 2 then 1
  else if target < pointerBias 3 then 2
  else if target < pointerBias 3 + 2 ^ 27 then 3
  else 4

/-- The number of offsets that a machine word tells apart.  No offset is larger. -/
def offsetRange : Nat := 2 ^ 64

/-- How deep values may nest if nobody says otherwise. -/
def defaultLimit : Nat := 512

theorem maxSize_eq : maxSize = 16843036 := rfl

/-- The four ranges of sizes, one for each number of size bytes. -/
theorem extraBytes_cases (size : Nat) :
    (size ≤ 28 ∧ extraBytes size = 0) ∨
      (29 ≤ size ∧ size < 285 ∧ extraBytes size = 1) ∨
      (285 ≤ size ∧ size < 65821 ∧ extraBytes size = 2) ∨
      (65821 ≤ size ∧ extraBytes size = 3) := by
  unfold extraBytes
  simp only [show maxInlineSize = 28 from rfl, show sizeBase 2 = 285 from rfl,
    show sizeBase 3 = 65821 from rfl]
  repeat' split
  all_goals omega

theorem extraBytes_le (size : Nat) : extraBytes size ≤ 3 := by
  have cases := extraBytes_cases size
  omega

theorem sizeBase_extraBytes_le (size : Nat) : sizeBase (extraBytes size) ≤ size := by
  rcases extraBytes_cases size with
    ⟨_, equal⟩ | ⟨_, _, equal⟩ | ⟨_, _, equal⟩ | ⟨_, equal⟩ <;>
    rw [equal] <;> simp only [sizeBase] <;> omega

/-- The bytes behind the base have room for every size up to the largest. -/
theorem sub_sizeBase_lt {size : Nat} (long : maxInlineSize < size) (small : size ≤ maxSize) :
    size - sizeBase (extraBytes size) < 256 ^ extraBytes size := by
  rw [maxSize_eq] at small
  rw [show maxInlineSize = 28 from rfl] at long
  rcases extraBytes_cases size with
    ⟨_, equal⟩ | ⟨_, _, equal⟩ | ⟨_, _, equal⟩ | ⟨_, equal⟩ <;>
    rw [equal] <;> simp only [sizeBase] <;> omega

/-- A size read from `extra` bytes needs just that many. -/
theorem extraBytes_sizeBase_add {extra number : Nat} (positive : 0 < extra)
    (bounded : extra ≤ 3) (fits : number < 256 ^ extra) :
    extraBytes (sizeBase extra + number) = extra := by
  have range := extraBytes_cases (sizeBase extra + number)
  have cases : extra = 1 ∨ extra = 2 ∨ extra = 3 := by omega
  rcases cases with rfl | rfl | rfl <;> simp only [sizeBase] at * <;> omega

end DataSection.Format
