import DataSection.Proofs.Machine.Parts

/-!
# Depth and loops

A machine counts how deep it is, and reading in numbers how many levels are left.  The two
always make up the limit.  So the depth never passes the limit by more than one, and where the
one refuses an item for its depth, the other has no level for it.

A loop on a machine comes to the same as one in numbers if each of its steps does.  What the
two have gathered so far need not look alike: a machine appends to an array, and reading in
numbers puts in front of a list.
-/

namespace DataSection.Machine

variable {machine : Machine} {α β γ δ : Type}

/-! ## Depth -/

section Levels

variable {depth : Size} {levels : Nat}
variable (shallow : machine.limit.toNat < 2 ^ 64 - 1)
variable (spent : depth.toNat + levels = machine.limit.toNat)
include shallow spent

/-- The depth below an item never wraps around.  It is refused exactly if there is an item at
it and no level is left. -/
theorem agrees_enter {other : γ → δ → Prop} {items : Size} {rest : Size → Run γ}
    {expected : Except ReadError δ}
    (empty : items = 0 → ∀ deeper, Agrees other (rest deeper) expected)
    (bottom : items ≠ 0 → levels = 0 → expected = .error (.tooDeep machine.limit.toNat))
    (below : ∀ fewer deeper, levels = fewer + 1 →
      deeper.toNat + fewer = machine.limit.toNat → Agrees other (rest deeper) expected) :
    Agrees other (machine.enter items depth >>= rest) expected := by
  have one : (1 : Size).toNat = 1 := rfl
  obtain ⟨deeper, done, count⟩ := Word.exists_add depth 1 (by omega)
  have entered : machine.enter items depth =
      if items ≠ 0 ∧ machine.limit < deeper then throw (.tooDeep machine.limit.toNat)
      else pure deeper := by
    rw [enter, done]
    rfl
  have past : machine.limit < deeper ↔ levels = 0 := by
    rw [BitVec.lt_def]
    omega
  rw [entered]
  cases levels with
  | zero =>
      by_cases none : items = 0
      · rw [if_neg fun refused => refused.1 none]
        exact empty none deeper
      · rw [if_pos ⟨none, past.mpr rfl⟩, bottom none rfl]
        exact .failed _
  | succ fewer =>
      rw [if_neg fun refused => Nat.succ_ne_zero fewer (past.mp refused.2)]
      exact below fewer deeper rfl (by omega)

/-- A pointer or a step leads to one item, for which a level has to be left. -/
theorem agrees_enter_one {other : γ → δ → Prop} {rest : Size → Run γ}
    {expected : Except ReadError δ}
    (bottom : levels = 0 → expected = .error (.tooDeep machine.limit.toNat))
    (below : ∀ fewer deeper, levels = fewer + 1 →
      deeper.toNat + fewer = machine.limit.toNat → Agrees other (rest deeper) expected) :
    Agrees other (machine.enter 1 depth >>= rest) expected :=
  agrees_enter shallow spent (fun none => absurd none (by decide)) (fun _ => bottom) below

end Levels

/-- With the largest word as the limit, the count of a depth that no section reaches would
overflow. -/
example : Machine.enter ⟨.empty, 0, -1⟩ 0 (-1) = .trap .overflow := rfl

/-- What is done one level below an item is done alike in words and in numbers. -/
def OneBelow (machine : Machine) (levels : Nat) (number : α → β)
    (words : (offset depth : Size) → Run α)
    (numbers : (levels offset : Nat) → Except ReadError β) : Prop :=
  ∀ fewer deeper, levels = fewer + 1 → deeper.toNat + fewer = machine.limit.toNat →
    ∀ offset : Size, Gives number (words offset deeper) (numbers fewer offset.toNat)

/-! ## Loops -/

/-- A loop in numbers.  It takes so many steps, each with what the steps before it have given
and from where they have come to, and finishes. -/
structure Loops (step : β → Nat → Except ReadError (β × Nat)) (finish : β → Nat → δ)
    (loop : (count : Nat) → (soFar : β) → (offset : Nat) → Except ReadError δ) : Prop where
  zero : ∀ soFar offset, loop 0 soFar offset = .ok (finish soFar offset)
  succ : ∀ count soFar offset, loop (count + 1) soFar offset =
    step soFar offset >>= fun taken => loop count taken.1 taken.2

theorem loops_collect (read : Nat → Except ReadError (α × Nat)) :
    Loops (fun items offset => read offset >>= fun found => .ok (found.1 :: items, found.2))
      (fun items offset => (items.reverse, offset))
      fun count items offset => Section.collect read count offset items where
  zero _ _ := rfl
  succ count items offset := by
    rw [Section.collect]
    cases read offset <;> rfl

theorem loops_advance (step : Nat → Except ReadError Nat) :
    Loops (fun _ offset => step offset >>= fun next => .ok ((), next)) (fun _ offset => offset)
      fun count _ offset => Section.advance step count offset where
  zero _ _ := rfl
  succ count _ offset := by
    rw [Section.advance]
    cases step offset <;> rfl

/-- Along the keys of a map, the value under the last one that equals `wanted` is kept. -/
theorem loops_findKey (data : Section) (levels : Nat) (wanted : ByteArray) :
    Loops
      (fun found offset => Section.key (data.decodeAt levels) offset >>= fun held =>
        data.skipAt levels held.2 >>= fun next =>
          .ok (if held.1 = wanted then some held.2 else found, next))
      (fun found _ => found)
      fun count found offset => data.findKey levels wanted count offset found where
  zero _ _ := rfl
  succ count found offset := by
    rw [Section.findKey_succ_eq_bind, bind_assoc]
    congr
    funext held
    rw [bind_assoc]
    rfl

/-- What is gathered with words is gathered with numbers if each step is the same. -/
def SameStep (same : α → β → Prop) (words : α × Size) (numbers : β × Nat) : Prop :=
  same words.1 numbers.1 ∧ words.2.toNat = numbers.2

section Gather

variable {same : α → β → Prop} {numberStep : β → Nat → Except ReadError (β × Nat)}
variable {finish : β → Nat → δ} {loop : Nat → β → Nat → Except ReadError δ}
variable (loops : Loops numberStep finish loop)
include loops

/-- A loop comes to the same if each of its steps does. -/
theorem agrees_gather {step : α → Size → Run (α × Size)}
    (each : ∀ soFar numbers, same soFar numbers → ∀ offset : Size,
      Agrees (SameStep same) (step soFar offset) (numberStep numbers offset.toNat))
    (count : Nat) {soFar : α} {numbers : β} (start : same soFar numbers) (offset : Size) :
    Agrees (fun words outcome => ∃ numbers, same words.1 numbers ∧
        outcome = finish numbers words.2.toNat)
      (gather step count soFar offset) (loop count numbers offset.toNat) := by
  induction count generalizing soFar numbers offset with
  | zero =>
      rw [gather, loops.zero]
      exact .found ⟨numbers, start, rfl⟩
  | succ count ih =>
      rw [gather, loops.succ]
      apply (each soFar numbers start offset).bind
      rintro ⟨words, next⟩ ⟨numbers, number⟩ - ⟨related, rfl⟩
      exact ih related next

/-- Below an item, a loop comes to the same if each of its steps does with the levels that are
left there, and no step can be taken without a level. -/
theorem agrees_enter_gather {depth : Size} {levels : Nat} {ε ζ : Type} {other : ε → ζ → Prop}
    {step : (depth : Size) → α → Size → Run (α × Size)}
    (shallow : machine.limit.toNat < 2 ^ 64 - 1)
    (spent : depth.toNat + levels = machine.limit.toNat)
    (bottom : levels = 0 → ∀ numbers offset,
      numberStep numbers offset = .error (.tooDeep machine.limit.toNat))
    (below : ∀ fewer deeper, levels = fewer + 1 → deeper.toNat + fewer = machine.limit.toNat →
      ∀ soFar numbers, same soFar numbers → ∀ offset : Size,
        Agrees (SameStep same) (step deeper soFar offset) (numberStep numbers offset.toNat))
    {items : Size} {soFar : α} {numbers : β} (start : same soFar numbers) {offset : Size}
    {rest : α × Size → Run ε} {restNumbers : δ → Except ReadError ζ}
    (last : ∀ words numbers, same words.1 numbers →
      Agrees other (rest words) (restNumbers (finish numbers words.2.toNat))) :
    Agrees other
      (do
        let depth ← machine.enter items depth
        let words ← gather (step depth) items.toNat soFar offset
        rest words)
      (loop items.toNat numbers offset.toNat >>= restNumbers) := by
  apply agrees_enter shallow spent
  · intro none deeper
    have zero : items.toNat = 0 := congrArg BitVec.toNat none
    rw [zero, gather, loops.zero]
    exact last (soFar, offset) numbers start
  · intro some none
    obtain ⟨count, positive⟩ := Nat.exists_eq_succ_of_ne_zero
      fun zero : items.toNat = 0 => some (BitVec.eq_of_toNat_eq zero)
    rw [positive, loops.succ, bottom none]
    rfl
  · intro fewer deeper left count
    apply (agrees_gather loops (below fewer deeper left count) items.toNat start offset).bind
    rintro words outcome - ⟨numbers, related, rfl⟩
    exact last words numbers related

end Gather

end DataSection.Machine
