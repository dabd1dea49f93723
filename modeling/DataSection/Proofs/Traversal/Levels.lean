import DataSection.Proofs.Machine.Loops
import DataSection.Proofs.Section.Limit
import DataSection.Proofs.Traversal.Skipping

/-!
# Reading ends with the levels

Offsets lead anywhere, so the bytes that are left are no measure for reading.  But each call is
one level below the call that makes it, and no call is made below the limit.  A pointer that leads
to itself therefore spends a level each time round.

So a routine and the function that does the same with the levels that are left come to the same,
as long as the count of depths does not start again.  It never does with a limit below the largest
word.  With the largest word as limit it only does where levels run out, so whatever else the
function comes to, the routine comes to it as well.
-/

namespace DataSection

open Routine

variable {α β γ δ : Type} {data : Section} {limit hops : Nat}

/-! ## Calls within the limit -/

/-- A routine ends with an outcome, makes no call deeper than the limit, and follows at most so
many pointers on the way of a path. -/
def Within (limit hops : Nat) (routine : Routine α) (outcome : Except ReadError α) : Prop :=
  ∃ calls, Ends routine outcome calls ∧ (∀ call ∈ calls, call.depth ≤ limit) ∧
    Call.hops calls ≤ hops

/-- The count of depths does not start again on the way to an outcome: for certain, or because the
limit is a word and levels do not run out. -/
def Counted (certain : Prop) (limit : Nat) (outcome : Except ReadError α) : Prop :=
  certain ∨ limit < Format.offsetRange ∧ ¬Section.CutOff outcome

/-- A routine stays within the limit and ends with an outcome, as long as the count of depths does
not start again. -/
def Settles (certain : Prop) (limit hops : Nat) (routine : Routine α)
    (outcome : Except ReadError α) : Prop :=
  Counted certain limit outcome → Within limit hops routine outcome

namespace Settles

variable {certain : Prop}

theorem pure (result : α) : Settles certain limit hops (Pure.pure result) (.ok result) :=
  fun _ => ⟨[], ends_pure result, List.forall_mem_nil _, Nat.zero_le _⟩

theorem ofExcept (outcome : Except ReadError α) :
    Settles certain limit hops (MonadExcept.ofExcept outcome) outcome :=
  fun _ => ⟨[], ends_ofExcept outcome, List.forall_mem_nil _, Nat.zero_le _⟩

/-- What is done next follows the pointers, if nothing is followed before. -/
theorem bind {routine : Routine α} {next : α → Routine β} {outcome : Except ReadError α}
    {f : α → Except ReadError β} (first : Settles certain limit 0 routine outcome)
    (rest : ∀ result, outcome = .ok result → Settles certain limit hops (next result) (f result)) :
    Settles certain limit hops (routine >>= next) (outcome >>= f) := by
  intro counted
  obtain ⟨calls, ends, shallow, few⟩ :=
    first (counted.imp_right fun word => ⟨word.1, fun cut => word.2 (cut.bind f)⟩)
  cases outcome with
  | error error => exact ⟨calls, ends.bind_error, shallow, Nat.le_trans few (Nat.zero_le _)⟩
  | ok result =>
      obtain ⟨more, restEnds, restShallow, restFew⟩ := rest result rfl counted
      refine ⟨calls ++ more, ends.bind restEnds, ?_, ?_⟩
      · intro call member
        exact (List.mem_append.mp member).elim (shallow call) (restShallow call)
      · rw [Call.hops, List.countP_append]
        exact Nat.zero_add hops ▸ Nat.add_le_add few restFew

theorem mono {more : Nat} {routine : Routine α} {outcome : Except ReadError α}
    (settles : Settles certain limit hops routine outcome) (enough : hops ≤ more) :
    Settles certain limit more routine outcome := by
  intro counted
  obtain ⟨calls, ends, shallow, few⟩ := settles counted
  exact ⟨calls, ends, shallow, Nat.le_trans few enough⟩

theorem imp {other : Prop} {routine : Routine α} {outcome : Except ReadError α}
    (settles : Settles other limit hops routine outcome) (implies : certain → other) :
    Settles certain limit hops routine outcome :=
  fun counted => settles (counted.imp_left implies)

theorem map {routine : Routine α} {outcome : Except ReadError α}
    (settles : Settles certain limit 0 routine outcome) (f : α → β) :
    Settles certain limit hops (routine >>= fun result => Pure.pure (f result))
      (outcome.map f) := by
  rw [Except.map_eq_bind]
  exact settles.bind fun result _ => pure (f result)

/-- A call within the limit may be made first. -/
theorem record {rest : Routine α} {outcome : Except ReadError α} {call : Call}
    (settles : Settles certain limit hops rest outcome) (shallow : call.depth ≤ limit)
    (stays : call.isHop = false) :
    Settles certain limit hops (Routine.record call >>= fun _ => rest) outcome := by
  intro counted
  obtain ⟨calls, restEnds, restShallow, few⟩ := settles counted
  refine ⟨call :: calls, restEnds.record call, List.forall_mem_cons.mpr ⟨shallow, restShallow⟩, ?_⟩
  rwa [Call.hops, List.countP_cons_of_neg (Bool.eq_false_iff.mp stays)]

/-- A pointer may be followed first. -/
theorem hop {rest : Routine α} {outcome : Except ReadError α} {depth target : Nat}
    (settles : Settles certain limit hops rest outcome) (shallow : depth ≤ limit) :
    Settles certain limit (hops + 1) (Routine.record (.hop depth target) >>= fun _ => rest)
      outcome := by
  intro counted
  obtain ⟨calls, restEnds, restShallow, few⟩ := settles counted
  refine ⟨_ :: calls, restEnds.record _, List.forall_mem_cons.mpr ⟨shallow, restShallow⟩, ?_⟩
  rw [Call.hops, List.countP_cons_of_pos rfl]
  exact Nat.succ_le_succ few

/-- A loop comes to the same if each of its steps does. -/
theorem loop {numberStep : β → Nat → Except ReadError (β × Nat)} {finish : β → Nat → δ}
    {loop : Nat → β → Nat → Except ReadError δ} (loops : Machine.Loops numberStep finish loop)
    {step : β × Nat → Routine (β × Nat)}
    (each : ∀ soFar offset,
      Settles certain limit 0 (step (soFar, offset)) (numberStep soFar offset))
    (count : Nat) (soFar : β) (offset : Nat) {rest : β × Nat → Routine γ}
    {restNumbers : δ → Except ReadError γ}
    (last : ∀ soFar next,
      Settles certain limit hops (rest (soFar, next)) (restNumbers (finish soFar next))) :
    Settles certain limit hops
      ((rounds count).foldlM (fun words _ => step words) (soFar, offset) >>= rest)
      (loop count soFar offset >>= restNumbers) := by
  induction count generalizing soFar offset with
  | zero =>
      rw [loops.zero]
      exact (pure_bind (m := Routine) (soFar, offset) rest).symm ▸ last soFar offset
  | succ count ih =>
      rw [loops.succ, rounds, List.replicate_succ, List.foldlM_cons, bind_assoc, bind_assoc]
      apply (each soFar offset).bind
      rintro ⟨soFar, next⟩ -
      exact ih soFar next

end Settles

namespace Section

/-! ## Items below an item -/

section Below

variable {certain : Prop} {depth levels : Nat} (spent : depth + levels = data.limit)
variable (fits : certain → depth + 1 < Format.offsetRange)
include spent fits

/-- An item is entered if there is a level left for the items at it. -/
theorem settles_enter {items : Nat} {next : Nat → Routine α} {expected : Except ReadError α}
    (empty : items = 0 → ∀ below, Settles certain data.limit hops (next below) expected)
    (bottom : 0 < items → levels = 0 → expected = .error (.tooDeep data.limit))
    (below : ∀ fewer, levels = fewer + 1 →
      Settles certain data.limit hops (next (depth + 1)) expected) :
    Settles certain data.limit hops (data.enter items depth >>= next) expected := by
  intro counted
  rw [enter]
  rcases Nat.eq_zero_or_pos items with none | some
  · rw [if_neg (by omega), pure_bind]
    exact empty none _ counted
  · cases levels with
    | zero =>
        -- Nothing but the lack of a level comes of this, so the count does not start again.
        obtain rfl := bottom some rfl
        have fits := fits (counted.resolve_right fun word => word.2 (.tooDeep _))
        rw [deeper, Nat.mod_eq_of_lt fits, if_pos ⟨some, by omega⟩]
        exact ⟨[], (ends_throw _).bind_error, List.forall_mem_nil _, Nat.zero_le _⟩
    | succ fewer =>
        have fits : depth + 1 < Format.offsetRange := by
          rcases counted with certain | word
          · exact fits certain
          · omega
        rw [deeper, Nat.mod_eq_of_lt fits, if_neg (by omega), pure_bind]
        exact below fewer rfl counted

/-- A pointer or a step leads to one item, for which a level has to be left. -/
theorem settles_enter_one {next : Nat → Routine α} {expected : Except ReadError α}
    (bottom : levels = 0 → expected = .error (.tooDeep data.limit))
    (below : ∀ fewer, levels = fewer + 1 →
      Settles certain data.limit hops (next (depth + 1)) expected) :
    Settles certain data.limit hops (data.enter 1 depth >>= next) expected :=
  settles_enter spent fits (fun none => absurd none Nat.one_ne_zero) (fun _ => bottom) below

/-- Below an item, a loop comes to the same if each of its steps does with the levels that are
left there, and no step can be taken without a level. -/
theorem settles_enter_loop {numberStep : β → Nat → Except ReadError (β × Nat)}
    {finish : β → Nat → δ} {loop : Nat → β → Nat → Except ReadError δ}
    (loops : Machine.Loops numberStep finish loop)
    {step : (depth : Nat) → β × Nat → Routine (β × Nat)}
    (bottom : levels = 0 → ∀ soFar offset,
      numberStep soFar offset = .error (.tooDeep data.limit))
    (below : ∀ fewer, levels = fewer + 1 → ∀ soFar offset,
      Settles certain data.limit 0 (step (depth + 1) (soFar, offset)) (numberStep soFar offset))
    {items offset : Nat} {soFar : β} {rest : β × Nat → Routine γ}
    {restNumbers : δ → Except ReadError γ}
    (last : ∀ soFar next,
      Settles certain data.limit hops (rest (soFar, next)) (restNumbers (finish soFar next))) :
    Settles certain data.limit hops
      (do
        let depth ← data.enter items depth
        let words ← (rounds items).foldlM (fun words _ => step depth words) (soFar, offset)
        rest words)
      (loop items soFar offset >>= restNumbers) := by
  apply settles_enter spent fits
  · rintro rfl _
    rw [loops.zero]
    exact (pure_bind (m := Routine) (soFar, offset) rest).symm ▸ last soFar offset
  · intro some none
    obtain ⟨count, rfl⟩ := Nat.exists_eq_add_of_lt some
    rw [loops.succ, bottom none]
    rfl
  · intro fewer left
    exact .loop loops (below fewer left) items soFar offset last

/-- An item is read alike if what is below it is read alike with the levels left there. -/
theorem settles_reading_of_below
    (below : ∀ fewer, levels = fewer + 1 → ∀ offset,
      Settles certain data.limit 0 (data.reading (depth + 1) offset) (data.decodeAt fewer offset))
    (offset : Nat) :
    Settles certain data.limit 0 (data.reading depth offset) (data.decodeAt levels offset) := by
  rw [reading, decodeAt_eq_decodeNode levels, decodeNode]
  refine Settles.record ?_ (Nat.le.intro spent) rfl
  apply (Settles.ofExcept _).bind
  rintro ⟨kind, size, payload⟩ found
  cases kind with
  | pointer =>
      apply (Settles.ofExcept _).bind
      rintro ⟨target, next⟩ -
      apply settles_enter_one spent fits
      · rintro rfl
        rfl
      · rintro fewer rfl
        apply (below fewer rfl target).bind
        rintro ⟨value, stop⟩ -
        exact .pure _
  | array =>
      refine settles_enter_loop spent fits (Machine.loops_collect _) ?_ ?_ ?_
      · rintro rfl elements offset
        rfl
      · rintro fewer rfl elements offset
        apply (below fewer rfl offset).bind
        rintro ⟨element, next⟩ -
        exact .pure _
      · intro elements next
        exact .pure _
  | map =>
      refine settles_enter_loop spent fits (Machine.loops_collect _) ?_ ?_ ?_
      · rintro rfl entries offset
        rfl
      · rintro fewer rfl entries offset
        rw [entry, key_eq_bind_asKey, bind_assoc, bind_assoc]
        apply (below fewer rfl offset).bind
        rintro found -
        apply (Settles.ofExcept _).bind
        rintro ⟨text, start⟩ -
        dsimp only [descend_succ]
        rw [bind_assoc]
        apply (below fewer rfl start).bind
        rintro ⟨value, next⟩ -
        exact .pure _
      · intro entries next
        exact .pure _
  | _ =>
      -- Nothing is read below a leaf, so its levels make no difference.
      have leaf : data.decodeAt 0 offset = data.decodeNode _ offset := rfl
      rw [decodeNode, found] at leaf
      exact leaf ▸ .ofExcept _

end Below

/-! ## Skipping -/

section Rounds

variable {certain : Prop} {depth levels low : Nat}

/-- Items are skipped alike one behind the other, if each of them is. -/
theorem settles_rounds
    (each : ∀ further, low ≤ further →
      Settles certain limit 0 (data.skipping depth further) (data.skipAt levels further))
    (count : Nat) {start : Nat} (behind : low ≤ start) :
    Settles certain limit 0
      ((rounds count).foldlM (fun offset _ => data.skipping depth offset) start)
      (advance (data.skipAt levels) count start) := by
  induction count generalizing start with
  | zero => exact .pure start
  | succ count ih =>
      rw [rounds, List.replicate_succ, List.foldlM_cons, advance_succ_eq_bind]
      apply (each start behind).bind
      intro next skipped
      exact ih (Nat.le_trans behind (Nat.le_of_lt (skipAt_advances skipped).1))

/-- The items in a container are skipped alike if each of them is, with the levels that are left
there. -/
theorem settles_items (spent : depth + levels = data.limit)
    (fits : certain → depth + 1 < Format.offsetRange)
    (below : ∀ fewer, levels = fewer + 1 → ∀ further, low ≤ further →
      Settles certain data.limit 0 (data.skipping (depth + 1) further)
        (data.skipAt fewer further))
    (items : Nat) :
    Settles certain data.limit 0
      (do
        let depth ← data.enter items depth
        (rounds items).foldlM (fun offset _ => data.skipping depth offset) low)
      (advance (data.descend data.skipAt levels) items low) := by
  apply settles_enter spent fits
  · rintro rfl _
    exact .pure low
  · rintro some rfl
    obtain ⟨count, rfl⟩ := Nat.exists_eq_add_of_lt some
    rw [Nat.zero_add, advance_succ_eq_bind]
    rfl
  · rintro fewer rfl
    exact settles_rounds (below fewer rfl) items (Nat.le_refl low)

end Rounds

/-- The limit is below the largest word. -/
def Shallow (data : Section) : Prop :=
  data.limit < Format.offsetRange - 1

instance (data : Section) : Decidable data.Shallow :=
  inferInstanceAs (Decidable (_ < _))

theorem Shallow.word (shallow : data.Shallow) : data.limit < Format.offsetRange :=
  Nat.lt_of_lt_of_le shallow (Nat.sub_le _ _)

/-- At a depth the count does not start again: because the limit is below the largest word, or
because every level on the way took a byte and there are fewer bytes than words. -/
def Counts (data : Section) (depth offset : Nat) : Prop :=
  data.Shallow ∨ depth ≤ offset ∧ data.size < Format.offsetRange

section Levels

variable {depth levels : Nat} (spent : depth + levels = data.limit)
include spent

theorem fits_of_shallow (shallow : data.Shallow) : depth + 1 < Format.offsetRange := by
  rw [Shallow] at shallow
  omega

/-- An item is skipped alike if what is in it is skipped alike with the levels left there. -/
theorem settles_skipping_of_below {offset : Nat}
    (below : ∀ fewer, levels = fewer + 1 → ∀ further, offset < further →
      Settles (data.Counts depth offset) data.limit 0 (data.skipping (depth + 1) further)
        (data.skipAt fewer further)) :
    Settles (data.Counts depth offset) data.limit 0 (data.skipping depth offset)
      (data.skipAt levels offset) := by
  rw [skipping, skipAt_eq_skipNode levels, skipNode]
  refine Settles.record ?_ (Nat.le.intro spent) rfl
  apply (Settles.ofExcept _).bind
  rintro ⟨kind, size, payload⟩ found
  obtain ⟨behind, inside⟩ : offset < payload ∧ payload ≤ data.size := header_advances found
  have fits : data.Counts depth offset → depth + 1 < Format.offsetRange := by
    rintro (shallow | short)
    · exact fits_of_shallow spent shallow
    · omega
  have items := settles_items spent fits fun fewer left further start =>
    below fewer left further (Nat.lt_of_lt_of_le behind start)
  cases kind with
  | array => exact items size
  | map => exact items (2 * size)
  | _ =>
      have same : data.skipAt 0 offset = data.skipNode _ offset := rfl
      rw [skipNode, found] at same
      exact same ▸ .ofExcept _

/-- Skipping comes to what it comes to with the levels that are left. -/
theorem settles_skipping (offset : Nat) :
    Settles (data.Counts depth offset) data.limit 0 (data.skipping depth offset)
      (data.skipAt levels offset) := by
  induction levels using Nat.strongRecOn generalizing depth offset with
  | ind levels ih =>
      apply settles_skipping_of_below spent
      rintro fewer rfl further behind
      apply (ih fewer (Nat.lt_succ_self fewer) (by omega) further).imp
      rintro (shallow | ⟨taken, short⟩)
      · exact .inl shallow
      · exact .inr ⟨Nat.lt_of_le_of_lt taken behind, short⟩

/-- Reading comes to what it comes to with the levels that are left. -/
theorem settles_reading (offset : Nat) :
    Settles data.Shallow data.limit 0 (data.reading depth offset)
      (data.decodeAt levels offset) := by
  induction levels using Nat.strongRecOn generalizing depth offset with
  | ind levels ih =>
      -- Only the level is smaller below: the offset there may be any, this one included.
      apply settles_reading_of_below spent (fits_of_shallow spent)
      rintro fewer rfl
      exact ih fewer (Nat.lt_succ_self fewer) (by omega)

/-! ## Looking up -/

/-- Each pointer on the way spends a level, so there are no more of them than levels. -/
theorem settles_resolving_bind {next : Header × Nat → Routine α}
    {f : Header × Nat → Except ReadError α}
    (each : ∀ header deeper left, deeper + left = data.limit →
      Settles data.Shallow data.limit left (next (header, deeper)) (f (header, left)))
    (offset : Nat) :
    Settles data.Shallow data.limit levels (data.resolving depth offset >>= next)
      (data.resolve levels offset >>= f) := by
  induction levels using Nat.strongRecOn generalizing depth offset with
  | ind levels ih =>
      rw [resolving, resolve_eq_bind, bind_assoc, bind_assoc]
      apply (Settles.ofExcept _).bind
      rintro header -
      split
      · rw [bind_assoc]
        apply settles_enter_one spent (fits_of_shallow spent)
        · rintro rfl
          rfl
        · rintro fewer rfl
          rw [descend_succ, bind_assoc, bind_assoc]
          apply (Settles.ofExcept _).bind
          rintro ⟨target, stop⟩ -
          exact (ih fewer (Nat.lt_succ_self fewer) (by omega) target).hop (by omega)
      · exact each header depth levels spent

theorem settles_stepping (header : Header) (step : Step) :
    Settles data.Shallow data.limit 0 (data.stepping depth header step)
      (data.child levels header step) := by
  have skips : ∀ further, Settles data.Shallow data.limit 0 (data.skipping depth further)
      (data.skipAt levels further) :=
    fun further => (settles_skipping spent further).imp .inl
  cases step with
  | key text =>
      rw [stepping, child]
      split
      next isMap =>
          rw [← bind_pure (data.findKey levels _ _ _ _)]
          refine Settles.loop (Machine.loops_findKey data levels text.toUTF8) ?_ _ _ _ ?_
          · intro last offset
            rw [key_eq_bind_asKey, bind_assoc]
            apply (settles_reading spent offset).bind
            rintro found -
            apply (Settles.ofExcept _).bind
            rintro ⟨held, start⟩ -
            apply (skips start).bind
            rintro next -
            exact .pure _
          · intro last next
            exact .pure _
      next isOther => exact .pure _
  | index position =>
      rw [stepping, child]
      split
      next inside =>
          exact (settles_rounds (fun further _ => skips further) position (Nat.le_refl _)).map some
      next outside => exact .pure _

/-- Looking up comes to what it comes to with the levels that are left, and follows no more
pointers on its way than those. -/
theorem settles_lookingUp (path : Path) (offset : Nat) :
    Settles data.Shallow data.limit levels (data.lookingUp path depth offset)
      (data.lookupAt path levels offset) := by
  induction path generalizing depth levels offset with
  | nil => exact (settles_reading spent offset).map fun found => some found.1
  | cons step path ih =>
      rw [lookingUp, lookupAt]
      apply settles_resolving_bind spent
      intro header deeper left spent
      apply settles_enter_one spent (fits_of_shallow spent)
      · rintro rfl
        rfl
      · rintro fewer rfl
        have below : deeper + 1 + fewer = data.limit := by omega
        apply (settles_stepping below header step).bind
        rintro (_ | next) -
        · exact .pure none
        · exact (ih below next).mono (Nat.le_succ fewer)

end Levels

end Section

end DataSection
