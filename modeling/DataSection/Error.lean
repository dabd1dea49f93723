import DataSection.Kind

/-!
# Errors

An error names its cause and the place of it.  The wording is apart from the
causes, in one function for reading and one for writing.
-/

namespace DataSection

/-- Why an item cannot be read. -/
inductive ReadError where
  /-- The control byte at `offset` names a code without a kind. -/
  | unknownKind (code offset : Nat)
  /-- The `needed` bytes from `offset` do not lie within the `available` ones. -/
  | outOfBounds (offset needed available : Nat)
  /-- The key at `offset` is not a string. -/
  | invalidKey (offset : Nat) (found : Kind)
  /-- Containers and pointers nest deeper than `limit`. -/
  | tooDeep (limit : Nat)
  /-- The payload at `offset` has a size that its kind does not allow. -/
  | invalidSize (kind : Kind) (size offset : Nat)
  /-- A text stops being UTF-8 after its first `validUpTo` bytes. -/
  | illFormedText (validUpTo : Nat)
  deriving DecidableEq

/-- Why a value cannot be written. -/
inductive WriteError where
  /-- A size that no header can express. -/
  | sizeTooLarge (size : Nat)
  /-- A section whose end no 32-bit offset can address. -/
  | sectionTooLarge (size : Nat)
  deriving DecidableEq

/-- The text of a read error. -/
def ReadError.message : ReadError → String
  | .unknownKind code offset => s!"Unknown data type {code} at offset {offset}"
  | .outOfBounds offset needed available =>
      s!"Read of {needed} bytes at offset {offset} exceeds buffer of {available} bytes"
  | .invalidKey offset found =>
      s!"Map key at offset {offset} is {found.name}, expected string"
  | .tooDeep limit => s!"Nesting depth exceeds limit of {limit}"
  | .invalidSize kind size offset => s!"Invalid size {size} for {kind.name} at offset {offset}"
  | .illFormedText validUpTo => s!"Invalid UTF-8 after {validUpTo} bytes"

/-- The text of a write error. -/
def WriteError.message : WriteError → String
  | .sizeTooLarge size => s!"Size {size} exceeds maximum encodable size"
  | .sectionTooLarge size => s!"Data section of {size} bytes exceeds 32-bit offsets"

end DataSection
