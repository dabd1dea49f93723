import DataSection.Instances

/-!
# Checked operations

The operations of a machine: arithmetic on words of so many bits, and access to stretches of
memory by a position.  Each of them checks itself, and where a real machine would stop or go
on with a wrong word, it traps.  A computation that never traps has therefore been carried out
within the widths of its words.

Of an operation on words it is enough to know that, if the exact result fits, it does not trap
and gives it.
-/

namespace DataSection

/-- Why a machine stops without an answer. -/
inductive Trap where
  /-- A sum or a difference that no word of the width holds. -/
  | overflow
  /-- A shift, or a conversion to a narrower word, that loses a set bit. -/
  | lostBits
  /-- A position or a range outside of what is accessed. -/
  | outOfRange
  /-- A copy between stretches of different lengths. -/
  | unequalLengths
  /-- More calls within one another, or rounds of a loop, than there is room for. -/
  | exhausted
  deriving DecidableEq

/-- What a checked operation comes to. -/
abbrev Checked (α : Type) := Except Trap α

namespace Word

variable {width : Nat}

/-- The sum of two words. -/
def add (left right : BitVec width) : Checked (BitVec width) :=
  if left.toNat + right.toNat < 2 ^ width then .ok (left + right) else .error .overflow

/-- The sum of two words, for those who ask whether there is one. -/
def sum? (left right : BitVec width) : Option (BitVec width) :=
  if left.toNat + right.toNat < 2 ^ width then some (left + right) else none

/-- The difference of two words. -/
def sub (left right : BitVec width) : Checked (BitVec width) :=
  if right.toNat ≤ left.toNat then .ok (left - right) else .error .overflow

/-- A word shifted up by so many bits, less than it has. -/
def shiftUp (bits : Nat) (word : BitVec width) : Checked (BitVec width) :=
  if bits < width ∧ word.toNat * 2 ^ bits < 2 ^ width then .ok (word <<< bits)
  else .error .lostBits

/-- The same number as a narrower word. -/
def narrow (narrower : Nat) (word : BitVec width) : Checked (BitVec narrower) :=
  if word.toNat < 2 ^ narrower then .ok (word.setWidth narrower) else .error .lostBits

/-- Twice a word, or the largest word if that is too much. -/
def twice (word : BitVec width) : BitVec width :=
  if 2 * word.toNat < 2 ^ width then 2 * word else BitVec.allOnes width

variable {left right : BitVec width}

theorem toNat_add_of_lt (fits : left.toNat + right.toNat < 2 ^ width) :
    (left + right).toNat = left.toNat + right.toNat := by
  rw [BitVec.toNat_add, Nat.mod_eq_of_lt fits]

theorem exists_add (left right : BitVec width) (fits : left.toNat + right.toNat < 2 ^ width) :
    ∃ sum, add left right = .ok sum ∧ sum.toNat = left.toNat + right.toNat :=
  ⟨left + right, if_pos fits, toNat_add_of_lt fits⟩

theorem sum?_eq_some_iff {sum : BitVec width} :
    sum? left right = some sum ↔ sum.toNat = left.toNat + right.toNat := by
  unfold sum?
  split
  next fits => rw [Option.some.injEq, ← BitVec.toNat_inj, toNat_add_of_lt fits, eq_comm]
  next tooLarge =>
    have bound := sum.isLt
    simp only [reduceCtorEq, false_iff]
    omega

/-- There is no sum exactly if no word holds it. -/
theorem sum?_eq_none_iff : sum? left right = none ↔ 2 ^ width ≤ left.toNat + right.toNat := by
  unfold sum?
  split <;> simp only [reduceCtorEq, true_iff, false_iff] <;> omega

theorem exists_shiftUp (bits : Nat) (word : BitVec width) (few : bits < width)
    (fits : word.toNat * 2 ^ bits < 2 ^ width) :
    ∃ shifted, shiftUp bits word = .ok shifted ∧ shifted.toNat = word.toNat * 2 ^ bits := by
  refine ⟨word <<< bits, if_pos ⟨few, fits⟩, ?_⟩
  rw [BitVec.toNat_shiftLeft, Nat.shiftLeft_eq, Nat.mod_eq_of_lt fits]

theorem exists_narrow (narrower : Nat) (word : BitVec width) (fits : word.toNat < 2 ^ narrower) :
    ∃ narrowed, narrow narrower word = .ok narrowed ∧ narrowed.toNat = word.toNat := by
  refine ⟨word.setWidth narrower, if_pos fits, ?_⟩
  rw [BitVec.toNat_setWidth, Nat.mod_eq_of_lt fits]

theorem toNat_twice_of_lt {word : BitVec width} (fits : 2 * word.toNat < 2 ^ width) :
    (twice word).toNat = 2 * word.toNat := by
  have two : (2 : BitVec width).toNat = 2 % 2 ^ width := rfl
  rw [twice, if_pos fits, BitVec.toNat_mul, two, Nat.mod_mul_mod, Nat.mod_eq_of_lt fits]

end Word

end DataSection
