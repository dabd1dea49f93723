import DataSection.Encoding.Value

/-!
# Building sections

A writer appends values and pointers to a section.  A value whose encoding was
appended before is not appended again; its first offset stands for both.  Pointers
are always appended, and no value shares their bytes.

A call that fails leaves the writer as it was.
-/

namespace DataSection

/-- A section that is being written. -/
structure Writer where
  bytes : ByteArray := .empty
  /-- The offset of each encoding that was appended. -/
  stored : Dictionary Nat := {}

namespace Writer

/-- The number of bytes so far. -/
def size (writer : Writer) : Nat :=
  writer.bytes.size

/-- The offset at which bytes would be appended.  It has to fit into 32 bits. -/
def nextOffset (writer : Writer) : Except WriteError Nat :=
  if writer.size < 2 ^ 32 then .ok writer.size else .error (.sectionTooLarge writer.size)

/-- Store a value.  Gives its offset, and the writer behind the call. -/
def add (writer : Writer) (value : Value) : Except WriteError Nat × Writer :=
  match value.encode with
  | .error error => (.error error, writer)
  | .ok encoding =>
      match writer.stored.get? encoding with
      | some offset => (.ok offset, writer)
      | none =>
          match writer.nextOffset with
          | .error error => (.error error, writer)
          | .ok offset =>
              (.ok offset,
                { bytes := writer.bytes ++ encoding
                  stored := writer.stored.insert encoding offset })

/-- Append a pointer to an offset.  Gives the pointer's own offset, and the writer
behind the call. -/
def addPointer (writer : Writer) (target : UInt32) : Except WriteError Nat × Writer :=
  match writer.nextOffset with
  | .error error => (.error error, writer)
  | .ok offset =>
      (.ok offset,
        { writer with bytes := writer.bytes ++ (Encoding.pointer target).toByteArray })

/-- One call on a writer. -/
inductive Call where
  | value (value : Value)
  | pointer (target : UInt32)

/-- Make one call. -/
def call (writer : Writer) : Call → Except WriteError Nat × Writer
  | .value value => writer.add value
  | .pointer target => writer.addPointer target

/-- Make calls one after the other.  Gives all their results, and the writer behind
the last one. -/
def run (writer : Writer) : List Call → List (Except WriteError Nat) × Writer
  | [] => ([], writer)
  | first :: rest =>
      let (result, writer) := writer.call first
      let (results, writer) := writer.run rest
      (result :: results, writer)

end Writer

end DataSection
