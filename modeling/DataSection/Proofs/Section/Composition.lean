import DataSection.Proofs.Section.Limit
import DataSection.Proofs.Section.Lookup

/-!
# Looking up in two parts

What a lookup has done along the first part of a path is summed up by the item it has come
to and by the levels it has left.  From there it goes on along the rest as a lookup of its
own, under a limit of that many levels.  If it does not come so far, what it comes to is
settled, whatever the rest of the path is.

Nothing here asks that the whole item can be read.  Items beside the way may be broken.
-/

namespace DataSection.Section

variable {data : Section} {levels offset left item : Nat} {header : Header} {path : Path}

/-- Each step and each pointer on a route has cost a level. -/
theorem Route.length_le (route : Route data levels offset path left item) :
    path.length + left ≤ levels := by
  induction route with
  | here levels offset => exact Nat.le_of_eq (Nat.zero_add levels)
  | hop _ _ _ _ ih => exact Nat.le_succ_of_le ih
  | step _ _ _ _ ih =>
      rw [List.length_cons, Nat.add_right_comm]
      exact Nat.succ_le_succ ih

/-- Pointers that were followed lead to an item from which every route can begin as well. -/
theorem exists_item_of_resolve (resolved : data.resolve levels offset = .ok (header, left)) :
    ∃ item, data.header item = .ok header ∧ header.kind ≠ .pointer ∧
      ∀ path rest place, Route data left item path rest place →
        Route data levels offset path rest place := by
  induction levels generalizing offset with
  | zero =>
      rw [resolve_eq_bind] at resolved
      obtain ⟨first, found, resolved⟩ := Except.bind_eq_ok_iff.mp resolved
      split at resolved
      next pointer => cases resolved
      next noPointer =>
          cases resolved
          exact ⟨offset, found, noPointer, fun _ _ _ route => route⟩
  | succ levels ih =>
      rw [resolve_eq_bind] at resolved
      obtain ⟨first, found, resolved⟩ := Except.bind_eq_ok_iff.mp resolved
      split at resolved
      next pointer =>
          obtain ⟨⟨target, next⟩, reached, resolved⟩ := Except.bind_eq_ok_iff.mp resolved
          obtain ⟨item, landing, noPointer, routes⟩ := ih resolved
          refine ⟨item, landing, noPointer, ?_⟩
          intro path rest place route
          exact .hop found pointer reached (routes path rest place route)
      next noPointer =>
          cases resolved
          exact ⟨offset, found, noPointer, fun _ _ _ route => route⟩

/-- What a lookup has come to that has not found a value. -/
def Fruitless (outcome : Except ReadError (Option Value)) : Prop :=
  outcome = .ok none ∨ ∃ error, outcome = .error error

/-- A lookup gets along a path, or it ends on the way and never sees what comes behind. -/
theorem exists_route_or_fruitless (data : Section) (path : Path) (levels offset : Nat) :
    (∃ left item, Route data levels offset path left item) ∨
      ∃ outcome, Fruitless outcome ∧
        ∀ rest, data.lookupAt (path ++ rest) levels offset = outcome := by
  induction path generalizing levels offset with
  | nil => exact .inl ⟨levels, offset, .here levels offset⟩
  | cons step path ih =>
      simp only [List.cons_append, lookupAt]
      cases resolved : data.resolve levels offset with
      | error error => exact .inr ⟨.error error, .inr ⟨error, rfl⟩, fun _ => rfl⟩
      | ok landing =>
          obtain ⟨header, left⟩ := landing
          cases left with
          | zero =>
              exact .inr ⟨.error (.tooDeep data.limit), .inr ⟨_, rfl⟩, fun _ => rfl⟩
          | succ left =>
              cases led : data.child left header step with
              | error error =>
                  refine .inr ⟨.error error, .inr ⟨error, rfl⟩, fun _ => ?_⟩
                  simp only [bind, Except.bind, led]
              | ok start =>
                  cases start with
                  | none =>
                      refine .inr ⟨.ok none, .inl rfl, fun _ => ?_⟩
                      simp only [bind, Except.bind, led, pure, Except.pure]
                  | some start =>
                      simp only [bind, Except.bind, led]
                      obtain ⟨item, found, noPointer, routes⟩ := exists_item_of_resolve resolved
                      rcases ih left start with ⟨rest, place, route⟩ | settled
                      · exact .inl ⟨rest, place,
                          routes _ _ _ (.step found noPointer led route)⟩
                      · exact .inr settled

/-- A lookup that gets along the first part of a path goes on from there as a lookup of its own,
under what is left of the limit. -/
theorem Route.lookup_append (route : Route data data.limit offset path left item) (rest : Path) :
    data.lookup offset (path ++ rest) =
      ((data.withLimit left).lookup item rest).mapError (ReadError.withLimit data.limit) := by
  rw [lookup, lookup, route.lookupAt_append, limit_withLimit]
  exact data.lookupAt_withLimit rest left data.limit left item

end DataSection.Section
