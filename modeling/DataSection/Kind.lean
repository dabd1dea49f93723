/-!
# Kinds of value

Every item of a data section begins with a control byte that names its kind.
Kinds 1 to 7 fit into the three high bits of that byte; the others are extended
kinds, named in a byte of their own.

The codes 12 and 13 are reserved by the format and name nothing here, like every
code above 15.
-/

namespace DataSection

/-- What an item of a data section is. -/
inductive Kind where
  | pointer
  | string
  | double
  | bytes
  | uint16
  | uint32
  | map
  | int32
  | uint64
  | uint128
  | array
  | boolean
  | float
  deriving DecidableEq

namespace Kind

/-- The number that stands for a kind. -/
def code : Kind → Nat
  | pointer => 1
  | string => 2
  | double => 3
  | bytes => 4
  | uint16 => 5
  | uint32 => 6
  | map => 7
  | int32 => 8
  | uint64 => 9
  | uint128 => 10
  | array => 11
  | boolean => 14
  | float => 15

/-- The kind that a number stands for. -/
def ofCode? : Nat → Option Kind
  | 1 => some pointer
  | 2 => some string
  | 3 => some double
  | 4 => some bytes
  | 5 => some uint16
  | 6 => some uint32
  | 7 => some map
  | 8 => some int32
  | 9 => some uint64
  | 10 => some uint128
  | 11 => some array
  | 14 => some boolean
  | 15 => some float
  | _ => none

/-- Whether the code is too large for the three bits of the control byte. -/
def isExtended (kind : Kind) : Bool :=
  7 < kind.code

/-- The kind's name, as messages write it. -/
def name : Kind → String
  | pointer => "pointer"
  | string => "string"
  | double => "double"
  | bytes => "bytes"
  | uint16 => "uint16"
  | uint32 => "uint32"
  | map => "map"
  | int32 => "int32"
  | uint64 => "uint64"
  | uint128 => "uint128"
  | array => "array"
  | boolean => "boolean"
  | float => "float"

/-- The most payload bytes that a number may have.  Kinds of variable length have
no such bound. -/
def maxPayload? : Kind → Option Nat
  | uint16 => some 2
  | uint32 | int32 | float => some 4
  | uint64 | double => some 8
  | uint128 => some 16
  | _ => none

/-- Whether the size bits of the control byte are the item's own content instead
of a payload size. -/
def ownsSizeBits : Kind → Bool
  | pointer | boolean => true
  | _ => false

@[simp] theorem ofCode?_code (kind : Kind) : ofCode? kind.code = some kind := by
  cases kind <;> rfl

theorem code_eq_of_ofCode? {code : Nat} {kind : Kind} (known : ofCode? code = some kind) :
    kind.code = code := by
  unfold ofCode? at known
  split at known <;> simp_all <;> subst known <;> rfl

theorem ofCode?_eq_some_iff {code : Nat} {kind : Kind} :
    ofCode? code = some kind ↔ code = kind.code :=
  ⟨fun known => (code_eq_of_ofCode? known).symm, fun equal => equal ▸ ofCode?_code kind⟩

theorem code_injective {left right : Kind} (equal : left.code = right.code) :
    left = right := by
  have found := ofCode?_code left
  rw [equal, ofCode?_code] at found
  exact (Option.some.inj found).symm

theorem code_pos (kind : Kind) : 0 < kind.code := by
  cases kind <;> decide

theorem code_le (kind : Kind) : kind.code ≤ 15 := by
  cases kind <;> decide

/-- The numbers without a kind are zero, the two reserved codes and all above 15. -/
theorem ofCode?_eq_none_iff {code : Nat} :
    ofCode? code = none ↔ code = 0 ∨ code = 12 ∨ code = 13 ∨ 16 ≤ code := by
  unfold ofCode?
  split <;> simp_all
  omega

end Kind

end DataSection
