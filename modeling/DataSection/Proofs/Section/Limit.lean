import DataSection.Proofs.Section.Extension

/-!
# The limit

A limit decides whether a reading comes to its end, and nothing else.  A reading that it
does not cut off comes out the same under every larger limit.  The number of the limit itself
is only seen in the error that reports it.
-/

namespace DataSection

/-- The error as a section with another limit reports it. -/
def ReadError.withLimit (limit : Nat) : ReadError → ReadError
  | .tooDeep _ => .tooDeep limit
  | error => error

namespace Section

variable {α β : Type} {data other : Section} {call : Nat → Except ReadError α}
variable {outcome otherOutcome : Except ReadError α}

/-! ## Another limit -/

/-- The section with another limit. -/
def withLimit (data : Section) (limit : Nat) : Section :=
  { data with limit }

@[simp] theorem limit_withLimit (data : Section) (limit : Nat) :
    (data.withLimit limit).limit = limit := rfl

theorem extension_withLimit (data : Section) (first second : Nat) :
    Extension (data.withLimit first) (data.withLimit second) :=
  ⟨⟨.empty, ByteArray.append_empty.symm⟩, rfl⟩

/-- With as many levels in the same bytes, another limit is only reported. -/
theorem Follows.eq_mapError (follows : Follows data other 0 outcome otherOutcome)
    (bytes : other.bytes = data.bytes) :
    otherOutcome = outcome.mapError (ReadError.withLimit other.limit) := by
  cases follows with
  | found result => rfl
  | @fault error fault =>
      cases error with
      | tooDeep _ => cases fault
      | _ => rfl
  | outside _ => rfl
  | lengthened longer => exact absurd bytes longer
  | exhausted _ => rfl
  | deepened more => exact absurd rfl more

theorem decodeAt_withLimit (data : Section) (first second levels offset : Nat) :
    (data.withLimit second).decodeAt levels offset =
      ((data.withLimit first).decodeAt levels offset).mapError (ReadError.withLimit second) :=
  ((extension_withLimit data first second).decodeAt levels offset).eq_mapError rfl

theorem lookupAt_withLimit (data : Section) (path : Path) (first second levels offset : Nat) :
    (data.withLimit second).lookupAt path levels offset =
      ((data.withLimit first).lookupAt path levels offset).mapError (ReadError.withLimit second) :=
  ((extension_withLimit data first second).lookupAt path levels offset).eq_mapError rfl

/-! ## Larger limits -/

/-- What a call comes to if levels run out. -/
inductive CutOff : (outcome : Except ReadError α) → Prop where
  | tooDeep (limit : Nat) : CutOff (.error (.tooDeep limit))

/-- What is done next has no levels either. -/
theorem CutOff.bind (cut : CutOff outcome) (next : α → Except ReadError β) :
    CutOff (outcome >>= next) := by
  cases cut with
  | tooDeep limit => exact .tooDeep limit

theorem cutOff_map_iff (f : α → β) : CutOff (outcome.map f) ↔ CutOff outcome := by
  constructor
  · intro cut
    cases outcome with
    | ok result => cases cut
    | error error =>
        cases cut with
        | tooDeep limit => exact .tooDeep limit
  · intro cut
    cases cut with
    | tooDeep limit => exact .tooDeep limit

theorem cutOff_withLimit_iff (limit : Nat) :
    CutOff (outcome.mapError (ReadError.withLimit limit)) ↔ CutOff outcome := by
  cases outcome with
  | ok result => exact Iff.rfl
  | error error =>
      cases error with
      | tooDeep reported => exact iff_of_true (.tooDeep limit) (.tooDeep reported)
      | _ => exact Iff.rfl

/-- What a call comes to without running out of levels it comes to under every larger limit as
well, and where it runs out it reports the limit. -/
structure Steady (call : Nat → Except ReadError α) : Prop where
  eq_of_le : ∀ limit larger, limit ≤ larger → ¬CutOff (call limit) → call larger = call limit
  eq_tooDeep : ∀ limit, CutOff (call limit) → call limit = .error (.tooDeep limit)

theorem Steady.of_follows (data : Section)
    (each : ∀ limit extra, Follows (data.withLimit limit) (data.withLimit (limit + extra)) extra
      (call limit) (call (limit + extra))) : Steady call where
  eq_of_le limit larger le enough := by
    obtain ⟨extra, rfl⟩ := Nat.exists_eq_add_of_le le
    apply (each limit extra).eq_of_ne_tooDeep rfl
    intro reported failed
    rw [failed] at enough
    exact enough (.tooDeep reported)
  eq_tooDeep limit cut := by
    have follows := each limit 0
    generalize call limit = outcome at cut follows
    cases cut with
    | tooDeep reported =>
        cases follows.limit_eq
        rfl

theorem steady_decode (data : Section) (offset : Nat) :
    Steady fun limit => (data.withLimit limit).decode offset :=
  .of_follows data fun limit extra =>
    (extension_withLimit data limit (limit + extra)).decodeAt limit offset

theorem steady_skip (data : Section) (offset : Nat) :
    Steady fun limit => (data.withLimit limit).skip offset :=
  .of_follows data fun limit extra =>
    (extension_withLimit data limit (limit + extra)).skipAt limit offset

theorem steady_lookup (data : Section) (offset : Nat) (path : Path) :
    Steady fun limit => (data.withLimit limit).lookup offset path :=
  .of_follows data fun limit extra =>
    (extension_withLimit data limit (limit + extra)).lookupAt path limit offset

end Section

end DataSection
