/-!
# Instances

The definitions run on core alone, and proofs about them may import Mathlib, which
brings a second power of numbers and a second equality of byte arrays.  Core's are meant
everywhere.
-/

attribute [instance (high), default_instance (high)] instPowNat

attribute [instance (high)] ByteArray.instDecidableEq
