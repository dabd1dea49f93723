import DataSection.Proofs.Section.PointerChain
import DataSection.Proofs.Traversal.Levels
import Mathlib.Data.Nat.Find

/-!
# Limits that are words

A limit only ever cuts off.  What a traversal comes to without running out of levels it comes to
under every larger limit, the largest word included.  So among the limits under which it always
ends, each traversal has one threshold: below it levels run out, and from it on the outcome never
changes.

Skipping ends under every word.  Reading and looking up end under every word but the largest.
With that one as limit no depth is too deep, the count of depths starts again behind it, and a
circle of pointers is followed for ever.
-/

namespace DataSection

open Routine

variable {α β : Type}

/-! ## Outcomes -/

namespace Section

variable {data : Section}

/-- The outcomes that do not hang on the count of depths starting again. -/
theorem counted_of_enough {outcome : Except ReadError α} (word : data.limit < Format.offsetRange)
    (enough : data.Shallow ∨ ¬CutOff outcome) : Counted data.Shallow data.limit outcome :=
  enough.imp_right fun enough => ⟨word, enough⟩

/-- Reading with depths that are words ends with what `decode` is, if the limit is below the
largest word or levels do not run out. -/
theorem endsWith_reading (offset : Nat) (word : data.limit < Format.offsetRange)
    (enough : data.Shallow ∨ ¬CutOff (data.decode offset)) :
    EndsWith (data.reading 0 offset) (data.decode offset) := by
  obtain ⟨calls, ends, -⟩ :=
    settles_reading (Nat.zero_add _) offset (counted_of_enough word enough)
  exact ⟨calls, ends⟩

/-- Looking up with depths that are words ends with what `lookup` is, if the limit is below the
largest word or levels do not run out. -/
theorem endsWith_lookingUp (offset : Nat) (path : Path) (word : data.limit < Format.offsetRange)
    (enough : data.Shallow ∨ ¬CutOff (data.lookup offset path)) :
    EndsWith (data.lookingUp path 0 offset) (data.lookup offset path) := by
  obtain ⟨calls, ends, -⟩ :=
    settles_lookingUp (Nat.zero_add _) path offset (counted_of_enough word enough)
  exact ⟨calls, ends⟩

/-- Skipping ends with what `skip` is under every limit, because each level takes a byte. -/
theorem endsWith_skipping (offset : Nat) (short : data.size < Format.offsetRange) :
    EndsWith (data.skipping 0 offset) (data.skip offset) := by
  obtain ⟨calls, ends, -⟩ :=
    settles_skipping (Nat.zero_add _) offset (.inl (.inr ⟨Nat.zero_le _, short⟩))
  exact ⟨calls, ends⟩

end Section

/-! ## Going round for ever -/

namespace Routine

variable {routine : Routine α}

/-- After some calls a routine is where it was. -/
def Repeats (routine : Routine α) : Prop :=
  ∃ calls ≠ [], ∀ log, routine.run.run log = routine.run.run (log ++ calls)

/-- What comes behind it is never reached. -/
theorem Repeats.bind (repeats : Repeats routine) (next : α → Routine β) :
    Repeats (routine >>= next) := by
  obtain ⟨calls, some, again⟩ := repeats
  refine ⟨calls, some, fun log => ?_⟩
  rw [ExceptT.run_bind, StateT.run_bind, StateT.run_bind, again log]

/-- It would have to end after more calls than it ends after. -/
theorem Repeats.not_endsWith (repeats : Repeats routine) (outcome : Except ReadError α) :
    ¬EndsWith routine outcome := by
  rintro ⟨calls, ends⟩
  obtain ⟨more, some, again⟩ := repeats
  have same := (ends []).symm.trans ((again []).trans (ends more))
  have lengths := congrArg List.length (Prod.mk.inj (Option.some.inj same)).2
  rw [List.nil_append, List.length_append] at lengths
  have positive := List.length_pos_of_ne_nil some
  omega

end Routine

namespace Section

variable {data : Section} {length depth start middle target stop : Nat}

/-- With the largest word as limit, no depth is too deep for a pointer. -/
theorem PointerAt.run_resolving (pointer : data.PointerAt start target stop)
    (deep : Format.offsetRange - 1 ≤ data.limit) (depth : Nat) (log : List Call) :
    (data.resolving depth start).run.run log =
      (data.resolving (deeper depth) target).run.run (log ++ [.hop (deeper depth) target]) := by
  obtain ⟨header, found, kind, reached⟩ := pointerAt_iff.mp pointer
  have within : ¬(0 < 1 ∧ data.limit < deeper depth) := by
    have word : deeper depth < Format.offsetRange := Nat.mod_lt _ (by decide)
    omega
  rw [resolving, found, ofExcept_ok_bind, if_pos kind, enter, if_neg within, pure_bind, reached,
    ofExcept_ok_bind]
  rfl

/-- Each pointer of a chain takes a call and makes the depth one more. -/
theorem Chain.run_resolving (chain : data.Chain length start target)
    (deep : Format.offsetRange - 1 ≤ data.limit) (word : depth < Format.offsetRange) :
    ∃ calls : List Call, calls.length = length ∧ ∀ log,
      (data.resolving depth start).run.run log =
        (data.resolving ((depth + length) % Format.offsetRange) target).run.run
          (log ++ calls) := by
  induction chain generalizing depth with
  | nil offset =>
      refine ⟨[], rfl, fun log => ?_⟩
      rw [Nat.add_zero, Nat.mod_eq_of_lt word, List.append_nil]
  | @cons length start middle target stop first _ ih =>
      obtain ⟨calls, count, follows⟩ := ih (Nat.mod_lt (depth + 1) (by decide))
      refine ⟨.hop (deeper depth) middle :: calls, by rw [List.length_cons, count], fun log => ?_⟩
      have depths : (deeper depth + length) % Format.offsetRange =
          (depth + (length + 1)) % Format.offsetRange := by
        rw [deeper, Nat.mod_add_mod, Nat.add_right_comm, Nat.add_assoc]
      rw [first.run_resolving deep, deeper, follows, ← deeper, depths,
        List.append_assoc, List.singleton_append]

/-- With the largest word as limit, a circle of pointers is followed for ever: as often as there
are words it is followed round, and then the depth is the same again. -/
theorem Chain.repeats_resolving (circle : data.Chain (length + 1) start start)
    (deep : Format.offsetRange - 1 ≤ data.limit) (word : depth < Format.offsetRange) :
    Repeats (data.resolving depth start) := by
  obtain ⟨calls, count, follows⟩ := (circle.rounds Format.offsetRange).run_resolving deep word
  refine ⟨calls, ?_, ?_⟩
  · have positive : 0 < Format.offsetRange * (length + 1) :=
      Nat.mul_pos (by decide) (Nat.succ_pos length)
    exact List.ne_nil_of_length_pos (count ▸ positive)
  · intro log
    rw [follows, Nat.add_mul_mod_self_left, Nat.mod_eq_of_lt word]

/-- So no path leads anywhere from it. -/
theorem Chain.not_endsWith_lookingUp (circle : data.Chain (length + 1) start start)
    (deep : Format.offsetRange - 1 ≤ data.limit) (step : Step) (path : Path)
    (outcome : Except ReadError (Option Value)) :
    ¬EndsWith (data.lookingUp (step :: path) 0 start) outcome :=
  ((circle.repeats_resolving deep (by decide)).bind _).not_endsWith outcome

end Section

/-! ## Thresholds -/

section Thresholds

variable {call : Nat → Routine α} {outcomes : Nat → Except ReadError α} {bound : Nat}
variable {outcome otherOutcome : Except ReadError α} {threshold other : Nat}

/-- Of the limits below the bound, those below the threshold cut the call off, and under the others
it comes to one and the same outcome, which is another one.  If the threshold is the bound, all of
them cut it off. -/
structure Threshold (bound : Nat) (call : Nat → Routine α) (threshold : Nat)
    (outcome : Except ReadError α) : Prop where
  le : threshold ≤ bound
  below : ∀ limit, limit < threshold → EndsWith (call limit) (.error (.tooDeep limit))
  reached : ∀ limit, threshold ≤ limit → limit < bound →
    EndsWith (call limit) outcome ∧ ¬Section.CutOff outcome

/-- A limit cuts the call off or leaves it alone: what the call comes to without running out of
levels it comes to under every larger word as well, and it has exactly one threshold among the
limits below the bound. -/
structure OnlyCutOff (bound : Nat) (call : Nat → Routine α) : Prop where
  stays : ∀ limit larger outcome, limit ≤ larger → larger < Format.offsetRange →
    EndsWith (call limit) outcome → ¬Section.CutOff outcome → EndsWith (call larger) outcome
  existsUnique_threshold : ∃! threshold, ∃ outcome, Threshold bound call threshold outcome

theorem Threshold.ge (first : Threshold bound call threshold outcome)
    (second : Threshold bound call other otherOutcome) : other ≤ threshold := by
  by_contra above
  -- Under the first threshold as limit the call would have run out of levels and would not.
  have below := Nat.not_le.mp above
  obtain ⟨ends, enough⟩ :=
    first.reached threshold (Nat.le_refl _) (Nat.lt_of_lt_of_le below second.le)
  exact enough (ends.unique (second.below threshold below) ▸ .tooDeep threshold)

/-- If a call ends below the bound, and else where levels do not run out, with outcomes that larger
limits leave alone, a limit only cuts it off. -/
theorem OnlyCutOff.of_steady (steady : Section.Steady outcomes)
    (large : Format.offsetRange - 1 ≤ bound) (small : bound ≤ Format.offsetRange)
    (ends : ∀ limit, limit < Format.offsetRange →
      limit < bound ∨ ¬Section.CutOff (outcomes limit) →
        EndsWith (call limit) (outcomes limit)) :
    OnlyCutOff bound call where
  stays limit larger outcome le word ending enough := by
    rcases Nat.lt_or_ge limit bound with below | above
    · obtain rfl := ending.unique (ends limit (Nat.lt_of_le_of_lt le word) (.inl below))
      have same := steady.eq_of_le limit larger le enough
      rw [← same] at enough ⊢
      exact ends larger word (.inr enough)
    · -- There is only one word that is not below the bound.
      obtain rfl : limit = larger := by omega
      exact ending
  existsUnique_threshold := by
    classical
    -- The first limit that does not cut the call off, or the bound if there is none below it.
    have stop : ∃ limit, limit = bound ∨ ¬Section.CutOff (outcomes limit) := ⟨bound, .inl rfl⟩
    have le : Nat.find stop ≤ bound := Nat.find_min' stop (.inl rfl)
    have first : Threshold bound call (Nat.find stop) (outcomes (Nat.find stop)) := by
      refine ⟨le, ?_, ?_⟩
      · intro limit before
        have inside : limit < bound := Nat.lt_of_lt_of_le before le
        have cut := not_not.mp (not_or.mp (Nat.find_min stop before)).2
        rw [← steady.eq_tooDeep limit cut]
        exact ends limit (Nat.lt_of_lt_of_le inside small) (.inl inside)
      · intro limit above inside
        have settled : ¬Section.CutOff (outcomes (Nat.find stop)) := by
          refine (Nat.find_spec stop).resolve_left fun none => ?_
          exact absurd inside (Nat.not_lt.mpr (none ▸ above))
        have same := steady.eq_of_le _ limit above settled
        rw [← same] at settled ⊢
        exact ⟨ends limit (Nat.lt_of_lt_of_le inside small) (.inl inside), settled⟩
    refine ⟨_, ⟨_, first⟩, ?_⟩
    rintro other ⟨otherOutcome, second⟩
    exact Nat.le_antisymm (first.ge second) (second.ge first)

end Thresholds

namespace Section

/-- A limit only ever cuts off, whatever is read, skipped or looked up.  What this comes to under
one limit without running out of levels it comes to under every larger word.  There is one
threshold for skipping among all words, and for reading and looking up among the words below the
largest. -/
theorem limit_only_cuts_off (data : Section) (offset : Nat) (path : Path) :
    OnlyCutOff (Format.offsetRange - 1) (fun limit => (data.withLimit limit).reading 0 offset) ∧
      (data.size < Format.offsetRange →
        OnlyCutOff Format.offsetRange fun limit => (data.withLimit limit).skipping 0 offset) ∧
      OnlyCutOff (Format.offsetRange - 1)
        (fun limit => (data.withLimit limit).lookingUp path 0 offset) := by
  refine ⟨?_, ?_, ?_⟩
  · refine .of_steady (steady_decode data offset) (Nat.le_refl _) (Nat.sub_le _ _) ?_
    exact fun limit word enough => endsWith_reading offset word enough
  · intro short
    refine .of_steady (steady_skip data offset) (Nat.sub_le _ _) (Nat.le_refl _) ?_
    exact fun limit _ _ => endsWith_skipping offset short
  · refine .of_steady (steady_lookup data offset path) (Nat.le_refl _) (Nat.sub_le _ _) ?_
    exact fun limit word enough => endsWith_lookingUp offset path word enough

/-- A pointer to the number behind it. -/
def pointerToNumber : Section :=
  { bytes := ⟨#[0x20, 0x02, 0xA1, 0x07]⟩ }

/-- One level is enough for the number, so the largest word is as well. -/
theorem limit_only_cuts_off_pointerToNumber :
    EndsWith ((pointerToNumber.withLimit 1).lookingUp [] 0 0) (.ok (some (.uint16 7))) ∧
      EndsWith ((pointerToNumber.withLimit (Format.offsetRange - 1)).lookingUp [] 0 0)
        (.ok (some (.uint16 7))) ∧
      pointerToNumber.size < Format.offsetRange ∧
      ∃! threshold, ∃ outcome, Threshold Format.offsetRange
        (fun limit => (pointerToNumber.withLimit limit).skipping 0 0) threshold outcome := by
  have short : pointerToNumber.size < Format.offsetRange := by decide
  have one : EndsWith ((pointerToNumber.withLimit 1).lookingUp [] 0 0)
      (.ok (some (.uint16 7))) := by
    have found : (pointerToNumber.withLimit 1).lookup 0 [] = .ok (some (.uint16 7)) := rfl
    rw [← found]
    exact endsWith_lookingUp 0 [] (by decide) (.inl (by decide))
  obtain ⟨-, skips, looksUp⟩ := limit_only_cuts_off pointerToNumber 0 []
  have largest := looksUp.stays 1 (Format.offsetRange - 1) _ (by decide) (by decide) one (nomatch ·)
  exact ⟨one, largest, short, (skips short).existsUnique_threshold⟩

/-- A pointer to itself. -/
def pointerToItself : Section :=
  { bytes := ⟨#[0x20, 0x00]⟩ }

theorem pointerAt_pointerToItself : pointerToItself.PointerAt 0 0 2 :=
  pointerAt_iff.mpr ⟨⟨.pointer, 0, 1⟩, rfl, rfl, rfl⟩

/-- With the largest word as limit, looking up behind a pointer to itself never ends. -/
theorem not_endsWith_pointerToItself (step : Step) (path : Path)
    (outcome : Except ReadError (Option Value)) :
    ¬EndsWith ((pointerToItself.withLimit (Format.offsetRange - 1)).lookingUp (step :: path) 0 0)
      outcome := by
  have circle : pointerToItself.Chain 1 0 0 := .cons pointerAt_pointerToItself (.nil 0)
  exact (circle.withLimit _).not_endsWith_lookingUp (Nat.le_refl _) step path outcome

/-- Among all words there need not be a threshold for looking up. -/
theorem not_onlyCutOff_pointerToItself :
    ¬OnlyCutOff Format.offsetRange
      (fun limit => (pointerToItself.withLimit limit).lookingUp [.key "a"] 0 0) := by
  intro onlyCutOff
  obtain ⟨threshold, ⟨outcome, first⟩, -⟩ := onlyCutOff.existsUnique_threshold
  rcases Nat.lt_or_ge (Format.offsetRange - 1) threshold with below | above
  · exact not_endsWith_pointerToItself _ _ _ (first.below _ below)
  · exact not_endsWith_pointerToItself _ _ _ (first.reached _ above (by decide)).1

end Section

end DataSection
