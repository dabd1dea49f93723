import DataSection.Proofs.Section.Items
import DataSection.Proofs.Traversal.Routine

/-!
# Skipping ends with the bytes

The header of every item takes a byte, and the items in it stand behind it.  So each call of
skipping has fewer bytes in front of it than the one that makes it, and each that succeeds hands
on to one that starts further on.  There are no more calls than bytes, and one that fails.

Neither the limit nor the count of depths takes part in this, nor how many items a header
announces.
-/

namespace DataSection.Section

open Routine

variable {data : Section} {start next calls : Nat} {outcome : Except ReadError Nat}

/-- What so many calls come to that skip items one behind the other.  Each takes a byte, unless
it is the last one, which fails. -/
inductive Spends (data : Section) (start : Nat) : (outcome : Except ReadError Nat) →
    (calls : Nat) → Prop where
  | skipped {next calls : Nat} :
      start + calls ≤ next → next ≤ data.size → Spends data start (.ok next) calls
  | failed {error : ReadError} {calls : Nat} :
      calls ≤ data.size - start + 1 → Spends data start (.error error) calls

namespace Spends

theorem bounds (spends : data.Spends start (.ok next) calls) :
    start + calls ≤ next ∧ next ≤ data.size := by
  cases spends with
  | skipped forward within => exact ⟨forward, within⟩

/-- There are no more calls behind the first than there are bytes left. -/
theorem length_le (spends : data.Spends start outcome (calls + 1)) :
    calls ≤ data.size - start := by
  cases spends with
  | skipped forward within => omega
  | failed few => omega

/-- The call for an item takes the bytes of its header. -/
theorem item {payload : Nat} (spends : data.Spends payload outcome calls)
    (opened : data.Advances start payload) : data.Spends start outcome (calls + 1) := by
  obtain ⟨behind, inside⟩ := opened
  cases spends with
  | skipped forward within => exact .skipped (by omega) within
  | failed few => exact .failed (by omega)

/-- Calls behind others have the bytes that those have left. -/
theorem append {middle more : Nat} (first : data.Spends start (.ok middle) calls)
    (rest : data.Spends middle outcome more) : data.Spends start outcome (calls + more) := by
  cases first with
  | skipped forward within =>
      cases rest with
      | skipped further last => exact .skipped (by omega) last
      | failed few => exact .failed (by omega)

end Spends

/-- What an item comes to in which nothing is skipped. -/
theorem spends_skipAt (levels start : Nat) : data.Spends start (data.skipAt levels start) 1 := by
  cases skipped : data.skipAt levels start with
  | error error => exact .failed (Nat.le_add_left _ _)
  | ok next =>
      obtain ⟨forward, within⟩ := skipAt_advances skipped
      exact .skipped forward within

/-- A routine ends with what its calls come to, none of which goes back behind the start. -/
def EndsSpending (data : Section) (routine : Routine Nat) (start : Nat) : Prop :=
  ∃ outcome calls, Ends routine outcome calls ∧ data.Spends start outcome calls.length ∧
    ∀ call ∈ calls, start ≤ call.offset

/-- A call whose header stands in front of what is skipped then. -/
theorem EndsSpending.record {routine : Routine Nat} {payload : Nat}
    (ending : data.EndsSpending routine payload) (opened : data.Advances start payload)
    (call : Call) :
    ∃ outcome calls, Ends (Routine.record call >>= fun _ => routine) outcome (call :: calls) ∧
      data.Spends start outcome (calls.length + 1) ∧ ∀ call ∈ calls, start < call.offset := by
  obtain ⟨outcome, calls, ends, spends, forward⟩ := ending
  refine ⟨outcome, calls, ends.record call, spends.item opened, ?_⟩
  intro call member
  exact Nat.lt_of_lt_of_le opened.1 (forward call member)

/-- Items are skipped one behind the other, if each of them is. -/
theorem endsSpending_rounds {depth low : Nat}
    (each : ∀ start, low ≤ start → data.EndsSpending (data.skipping depth start) start)
    (count : Nat) (behind : low ≤ start) (inside : start ≤ data.size) :
    data.EndsSpending ((rounds count).foldlM (fun offset _ => data.skipping depth offset) start)
      start := by
  induction count generalizing start with
  | zero =>
      exact ⟨.ok start, [], ends_pure start, .skipped (Nat.le_refl _) inside, List.forall_mem_nil _⟩
  | succ count ih =>
      obtain ⟨outcome, calls, ends, spends, forward⟩ := each start behind
      cases outcome with
      | error error => exact ⟨.error error, calls, ends.bind_error, spends, forward⟩
      | ok next =>
          have onward : start ≤ next := Nat.le_of_add_right_le spends.bounds.1
          obtain ⟨last, more, restEnds, restSpends, restForward⟩ :=
            ih (Nat.le_trans behind onward) spends.bounds.2
          refine ⟨last, calls ++ more, ends.bind restEnds,
            List.length_append ▸ spends.append restSpends, ?_⟩
          intro call member
          rcases List.mem_append.mp member with member | member
          · exact forward call member
          · exact Nat.le_trans onward (restForward call member)

/-- The items in a container are skipped, or refused for their depth. -/
theorem endsSpending_items {payload : Nat}
    (each : ∀ depth start, payload ≤ start → data.EndsSpending (data.skipping depth start) start)
    (inside : payload ≤ data.size) (items depth : Nat) :
    data.EndsSpending
      (do
        let depth ← data.enter items depth
        (rounds items).foldlM (fun offset _ => data.skipping depth offset) payload)
      payload := by
  unfold enter
  split
  · exact ⟨_, [], (ends_throw _).bind_error, .failed (Nat.zero_le _), List.forall_mem_nil _⟩
  · rw [pure_bind]
    exact endsSpending_rounds (each (deeper depth)) items (Nat.le_refl _) inside

/-- Skipping ends with the bytes that are left, whatever the depth and the limit are.  Each call
that it makes for an item in a container goes further on. -/
theorem exists_ends_skipping (data : Section) (depth start : Nat) :
    ∃ outcome calls, Ends (data.skipping depth start) outcome (.skip depth start :: calls) ∧
      data.Spends start outcome (calls.length + 1) ∧ ∀ call ∈ calls, start < call.offset := by
  induction bytes : data.size - start using Nat.strongRecOn generalizing depth start with
  | ind count ih =>
      rw [skipping]
      cases found : data.header start with
      | error error =>
          exact ⟨_, [], (ends_throw error).bind_error.record _, .failed (Nat.le_add_left _ _),
            List.forall_mem_nil _⟩
      | ok header =>
          -- The header takes a byte, so there are fewer in front of the items behind it.
          have opened := header_advances found
          have below : ∀ depth further, header.payload ≤ further →
              data.EndsSpending (data.skipping depth further) further := by
            intro depth further behind
            have fewer : data.size - further < count := by
              have forward := opened.1
              have inside := opened.2
              omega
            obtain ⟨outcome, calls, ends, spends, forward⟩ := ih _ fewer depth further rfl
            refine ⟨outcome, _, ends, spends, List.forall_mem_cons.mpr ⟨Nat.le_refl _, ?_⟩⟩
            intro call member
            exact Nat.le_of_lt (forward call member)
          have items := endsSpending_items below opened.2
          rw [ofExcept_ok_bind]
          cases header.kind with
          | array => exact (items header.size depth).record opened _
          | map => exact (items (2 * header.size) depth).record opened _
          | _ =>
              exact ⟨_, [], (ends_ofExcept _).record _, spends_skipAt 0 start,
                List.forall_mem_nil _⟩

/-- Skipping that succeeds has moved forward and stays within the bytes. -/
theorem advances_of_ends_skipping {depth : Nat} {calls : List Call}
    (ends : Ends (data.skipping depth start) (.ok next) calls) : data.Advances start next := by
  obtain ⟨outcome, more, others, spends, -⟩ := data.exists_ends_skipping depth start
  obtain ⟨rfl, -⟩ := ends.unique others
  exact ⟨Nat.lt_of_lt_of_le (by omega) spends.bounds.1, spends.bounds.2⟩

end DataSection.Section
