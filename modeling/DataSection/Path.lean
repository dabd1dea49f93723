/-!
# Paths

A path leads from a value into the containers in it, one step at a time.
-/

namespace DataSection

/-- One step into a container. -/
inductive Step where
  /-- To the value under a key of a map. -/
  | key (text : String)
  /-- To the element at a position of an array. -/
  | index (position : Nat)
  deriving DecidableEq

/-- Steps, the outermost one first. -/
abbrev Path := List Step

end DataSection
