import DataSection.Proofs.Traversal.Levels

/-!
# Every traversal ends

Two different measures end the traversals of a section, and neither asks for well-formed bytes.
Reading and looking up end with the levels that are left, which a pointer into a cycle spends as
well.  Skipping ends with the bytes that are left, also where there is no limit to speak of.
-/

namespace DataSection.Section

open Routine

variable {data : Section}

/-- The pointers from an offset are followed to the same end, and to no more than there are
levels left. -/
theorem within_resolving (shallow : data.limit < Format.offsetRange - 1) {depth levels : Nat}
    (spent : depth + levels = data.limit) (offset : Nat) :
    Within data.limit levels (data.resolving depth offset)
      ((data.resolve levels offset).map fun found => (found.1, data.limit - found.2)) := by
  rw [Except.map_eq_bind, ← bind_pure (data.resolving depth offset)]
  refine settles_resolving_bind spent ?_ offset (.inl shallow)
  intro header deeper left spent
  obtain rfl : deeper = data.limit - left := by omega
  exact .pure _

/-- Every traversal of a section ends, whatever the bytes, the base, the offset and the path are.
With a limit below the largest word, reading and looking up end with their outcomes, make no call
deeper than the limit, and follow no more pointers on the way than there are levels left.  Skipping
ends at any depth and with any limit: it calls itself for no more items than there are bytes left,
and each of them stands further on.  It has its outcome if offsets are words.  Where it succeeds, it
has moved forward and stays within the bytes. -/
theorem traversals_end (data : Section) (offset : Nat) (path : Path) :
    (data.limit < Format.offsetRange - 1 →
      Within data.limit 0 (data.reading 0 offset) (data.decode offset) ∧
      Within data.limit data.limit (data.lookingUp path 0 offset) (data.lookup offset path) ∧
      ∀ depth levels, depth + levels = data.limit →
        Within data.limit levels (data.resolving depth offset)
          ((data.resolve levels offset).map fun found => (found.1, data.limit - found.2))) ∧
    (∀ depth, ∃ outcome calls,
      Ends (data.skipping depth offset) outcome (.skip depth offset :: calls) ∧
      calls.length ≤ data.size - offset ∧ ∀ call ∈ calls, offset < call.offset) ∧
    (data.size < Format.offsetRange →
      Within data.limit 0 (data.skipping 0 offset) (data.skip offset)) ∧
    ∀ depth next calls, Ends (data.skipping depth offset) (.ok next) calls →
      offset < next ∧ next ≤ data.size := by
  refine ⟨?_, ?_, ?_, ?_⟩
  · intro shallow
    have spent : 0 + data.limit = data.limit := Nat.zero_add _
    exact ⟨settles_reading spent offset (.inl shallow),
      settles_lookingUp spent path offset (.inl shallow),
      fun depth levels spent => within_resolving shallow spent offset⟩
  · intro depth
    obtain ⟨outcome, calls, ends, spends, forward⟩ := data.exists_ends_skipping depth offset
    exact ⟨outcome, calls, ends, spends.length_le, forward⟩
  · intro short
    exact settles_skipping (Nat.zero_add _) offset (.inl (.inr ⟨Nat.zero_le _, short⟩))
  · intro depth next calls ends
    exact advances_of_ends_skipping ends

/-- An array of as many elements as a header can announce, of which only the first is there and
leads back to the array. -/
def hugeCycle (limit : Nat) : Section where
  bytes := ⟨#[0x1F, 0x04, 0xFF, 0xFF, 0xFF, 0x20, 0x00]⟩
  limit := limit

example : (hugeCycle 3).decode 0 = .error (.tooDeep 3) := by
  rfl

/-- Going round the cycle ends with the third level, and skipping it ends with its seven bytes even
if the limit is the largest word.  The pointer in it is skipped to the end. -/
theorem traversals_end_hugeCycle :
    (hugeCycle 3).limit < Format.offsetRange - 1 ∧ (hugeCycle 3).size < Format.offsetRange ∧
      Within 3 0 ((hugeCycle 3).reading 0 0) ((hugeCycle 3).decode 0) ∧
      Within 3 3 ((hugeCycle 3).lookingUp [.index 0, .index 0] 0 0)
        ((hugeCycle 3).lookup 0 [.index 0, .index 0]) ∧
      (∃ outcome calls,
        Ends ((hugeCycle (Format.offsetRange - 1)).skipping 0 0) outcome (.skip 0 0 :: calls) ∧
          calls.length ≤ 7 ∧ ∀ call ∈ calls, 0 < call.offset) ∧
      (∃ calls, Ends ((hugeCycle 3).skipping 0 5) (.ok 7) calls) ∧ 5 < 7 ∧
        7 ≤ (hugeCycle 3).size := by
  have shallow : (hugeCycle 3).limit < Format.offsetRange - 1 := by decide
  have short : (hugeCycle 3).size < Format.offsetRange := by decide
  obtain ⟨reading, lookingUp, -⟩ := (traversals_end (hugeCycle 3) 0 [.index 0, .index 0]).1 shallow
  have skipping := (traversals_end (hugeCycle (Format.offsetRange - 1)) 0 []).2.1 0
  have skipped : (hugeCycle 3).skip 5 = .ok 7 := rfl
  obtain ⟨calls, ends, -⟩ := (traversals_end (hugeCycle 3) 5 []).2.2.1 short
  rw [skipped] at ends
  exact ⟨shallow, short, reading, lookingUp, skipping, ⟨calls, ends⟩,
    (traversals_end (hugeCycle 3) 5 []).2.2.2 0 7 calls ends⟩

end DataSection.Section
