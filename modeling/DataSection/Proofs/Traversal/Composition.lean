import DataSection.Proofs.Section.Composition
import DataSection.Proofs.Traversal.Limit

/-!
# Traversals in parts

A pointer is read, and looked up behind, as the item that it leads to, at the price of a level.  A
path is looked up in two parts: from the item to which the first part leads, with the levels that
are left there.

Either part is a traversal of its own, under a limit of its own.  Where the first one is below the
largest word, so is the other.  With the largest word as limit, only outcomes stay for which levels
do not run out: a circle of pointers ends for the part and not for the whole.
-/

namespace DataSection.Section

open Routine

variable {data : Section} {start middle target stop length : Nat}

/-! ## Pointers -/

theorem PointerAt.endsWith_reading_chain (first : data.PointerAt start middle stop)
    (rest : data.Chain length middle target) {limit : Nat}
    (word : limit + length + 1 < Format.offsetRange) :
    ∃ outcome, EndsWith ((data.withLimit limit).reading 0 target) outcome ∧
      (limit + length + 1 < Format.offsetRange - 1 ∨ ¬CutOff outcome →
        EndsWith ((data.withLimit (limit + length + 1)).reading 0 start)
          ((outcome.map fun found => (found.1, stop)).mapError
            (ReadError.withLimit (limit + length + 1)))) := by
  have shallow : limit < Format.offsetRange - 1 := by omega
  refine ⟨_, endsWith_reading target (Shallow.word shallow) (.inl shallow), fun enough => ?_⟩
  rw [← first.decode_chain rest]
  refine endsWith_reading start word (enough.imp_right fun uncut => ?_)
  rwa [first.decode_chain rest, cutOff_withLimit_iff, cutOff_map_iff]

theorem PointerAt.endsWith_lookingUp_chain (first : data.PointerAt start middle stop)
    (rest : data.Chain length middle target) (path : Path) {limit : Nat}
    (word : limit + length + 1 < Format.offsetRange) :
    ∃ outcome, EndsWith ((data.withLimit limit).lookingUp path 0 target) outcome ∧
      (limit + length + 1 < Format.offsetRange - 1 ∨ ¬CutOff outcome →
        EndsWith ((data.withLimit (limit + length + 1)).lookingUp path 0 start)
          (outcome.mapError (ReadError.withLimit (limit + length + 1)))) := by
  have shallow : limit < Format.offsetRange - 1 := by omega
  refine ⟨_, endsWith_lookingUp target path (Shallow.word shallow) (.inl shallow), fun enough => ?_⟩
  rw [← first.lookup_chain rest]
  refine endsWith_lookingUp start path word (enough.imp_right fun uncut => ?_)
  rwa [first.lookup_chain rest, cutOff_withLimit_iff]

theorem PointerAt.endsWith_tooDeep (first : data.PointerAt start middle stop)
    (rest : data.Chain length middle target) {limit : Nat} (few : limit ≤ length)
    (shallow : limit < Format.offsetRange - 1) :
    EndsWith ((data.withLimit limit).reading 0 start) (.error (.tooDeep limit)) ∧
      ∀ path, EndsWith ((data.withLimit limit).lookingUp path 0 start)
        (.error (.tooDeep limit)) := by
  obtain ⟨decoded, lookedUp⟩ := (first.withLimit limit).tooDeep_chain (rest.withLimit limit) few
  have shallow : (data.withLimit limit).Shallow := shallow
  constructor
  · have ends := endsWith_reading start shallow.word (.inl shallow)
    rwa [decode, limit_withLimit, decoded] at ends
  · intro path
    have ends := endsWith_lookingUp start path shallow.word (.inl shallow)
    rwa [lookup, limit_withLimit, lookedUp] at ends

/-- At the beginning of a chain of pointers, reading ends with the value that it ends with at the
item to which they lead, with a level more for each pointer, and behind the first pointer.  Looking
up ends alike as well.  Errors are the same but for the limit that they report, and with fewer
levels than pointers there is no value.  With the largest word as limit, this asks that levels do
not run out. -/
theorem endsWith_chain (data : Section) {start middle target stop length : Nat}
    (first : data.PointerAt start middle stop) (rest : data.Chain length middle target) :
    (∀ limit, limit + length + 1 < Format.offsetRange →
      ∃ outcome, EndsWith ((data.withLimit limit).reading 0 target) outcome ∧
        (limit + length + 1 < Format.offsetRange - 1 ∨ ¬CutOff outcome →
          EndsWith ((data.withLimit (limit + length + 1)).reading 0 start)
            ((outcome.map fun found => (found.1, stop)).mapError
              (ReadError.withLimit (limit + length + 1))))) ∧
      (∀ limit path, limit + length + 1 < Format.offsetRange →
        ∃ outcome, EndsWith ((data.withLimit limit).lookingUp path 0 target) outcome ∧
          (limit + length + 1 < Format.offsetRange - 1 ∨ ¬CutOff outcome →
            EndsWith ((data.withLimit (limit + length + 1)).lookingUp path 0 start)
              (outcome.mapError (ReadError.withLimit (limit + length + 1))))) ∧
      ∀ limit, limit ≤ length → limit < Format.offsetRange - 1 →
        EndsWith ((data.withLimit limit).reading 0 start) (.error (.tooDeep limit)) ∧
          ∀ path, EndsWith ((data.withLimit limit).lookingUp path 0 start)
            (.error (.tooDeep limit)) :=
  ⟨fun _ word => first.endsWith_reading_chain rest word,
    fun _ path word => first.endsWith_lookingUp_chain rest path word,
    fun _ few shallow => first.endsWith_tooDeep rest few shallow⟩

/-- A pointer to a pointer to the number behind them. -/
def pointerToPointer : Section :=
  { bytes := ⟨#[0x20, 0x02, 0x20, 0x04, 0xA1, 0x07]⟩ }

theorem endsWith_chain_pointerToPointer :
    pointerToPointer.PointerAt 0 2 2 ∧ pointerToPointer.Chain 1 2 4 ∧
      EndsWith ((pointerToPointer.withLimit 0).reading 0 4) (.ok (.uint16 7, 6)) ∧
      EndsWith ((pointerToPointer.withLimit 2).reading 0 0) (.ok (.uint16 7, 2)) ∧
      (∃ outcome, EndsWith ((pointerToPointer.withLimit 2).lookingUp [] 0 0) outcome) ∧
      EndsWith ((pointerToPointer.withLimit 1).reading 0 0) (.error (.tooDeep 1)) := by
  have first : pointerToPointer.PointerAt 0 2 2 :=
    pointerAt_iff.mpr ⟨⟨.pointer, 0, 1⟩, rfl, rfl, rfl⟩
  have second : pointerToPointer.PointerAt 2 4 4 :=
    pointerAt_iff.mpr ⟨⟨.pointer, 0, 3⟩, rfl, rfl, rfl⟩
  have rest : pointerToPointer.Chain 1 2 4 := .cons second (.nil 4)
  have number : EndsWith ((pointerToPointer.withLimit 0).reading 0 4) (.ok (.uint16 7, 6)) := by
    have decoded : (pointerToPointer.withLimit 0).decode 4 = .ok (.uint16 7, 6) := rfl
    rw [← decoded]
    exact endsWith_reading 4 (by decide) (.inl (by decide))
  obtain ⟨reads, looksUp, cutOff⟩ := endsWith_chain pointerToPointer first rest
  obtain ⟨outcome, ends, atStart⟩ := reads 0 (by decide)
  obtain rfl := ends.unique number
  obtain ⟨found, -, foundAtStart⟩ := looksUp 0 [] (by decide)
  exact ⟨first, rest, number, atStart (.inl (by decide)), ⟨_, foundAtStart (.inl (by decide))⟩,
    (cutOff 1 (Nat.le_refl 1) (by decide)).1⟩

/-- With the largest word as limit, a pointer to itself is no longer what it leads to. -/
theorem lookingUp_pointerToItself :
    pointerToItself.PointerAt 0 0 2 ∧
      EndsWith ((pointerToItself.withLimit (Format.offsetRange - 2)).lookingUp [.key "a"] 0 0)
        (.error (.tooDeep (Format.offsetRange - 2))) ∧
      ∀ outcome, ¬EndsWith ((pointerToItself.withLimit (Format.offsetRange - 2 + 1)).lookingUp
        [.key "a"] 0 0) outcome := by
  have circle : pointerToItself.Chain 1 0 0 := .cons pointerAt_pointerToItself (.nil 0)
  have few : Format.offsetRange - 2 ≤ (Format.offsetRange - 2) * 1 := by decide
  have tooDeep := pointerAt_pointerToItself.endsWith_tooDeep
    (circle.rounds (Format.offsetRange - 2)) few (by decide)
  exact ⟨pointerAt_pointerToItself, tooDeep.2 _, not_endsWith_pointerToItself _ _⟩

/-! ## Paths -/

/-- Along the first part of a path, looking up ends in one way for every continuation, without a
value, or it comes to an item with some levels spent, at least one for each step.  From there it
ends with every continuation as it does if it begins at that item under what is left of the limit,
except that a lack of levels reports the whole limit. -/
theorem endsWith_append (data : Section) (shallow : data.limit < Format.offsetRange - 1)
    (offset : Nat) (before : Path) :
    (∃ outcome, Fruitless outcome ∧
        ∀ rest, EndsWith (data.lookingUp (before ++ rest) 0 offset) outcome) ∨
      ∃ item spent, before.length ≤ spent ∧ spent ≤ data.limit ∧
        ∀ rest, ∃ outcome,
          EndsWith ((data.withLimit (data.limit - spent)).lookingUp rest 0 item) outcome ∧
          EndsWith (data.lookingUp (before ++ rest) 0 offset)
            (outcome.mapError (ReadError.withLimit data.limit)) := by
  have ends : ∀ rest, EndsWith (data.lookingUp (before ++ rest) 0 offset)
      (data.lookup offset (before ++ rest)) :=
    fun rest => endsWith_lookingUp offset _ (Shallow.word shallow) (.inl shallow)
  rcases data.exists_route_or_fruitless before data.limit offset with
    ⟨left, item, route⟩ | ⟨outcome, fruitless, settled⟩
  · have within := route.length_le
    refine .inr ⟨item, data.limit - left, by omega, Nat.sub_le _ _, fun rest => ?_⟩
    have le : left ≤ data.limit := Nat.le_of_add_left_le within
    have shallow : (data.withLimit left).Shallow := Nat.lt_of_le_of_lt le shallow
    have leftover : data.limit - (data.limit - left) = left := Nat.sub_sub_self le
    rw [leftover]
    exact ⟨_, endsWith_lookingUp item rest shallow.word (.inl shallow),
      route.lookup_append rest ▸ ends rest⟩
  · exact .inl ⟨outcome, fruitless, fun rest => settled rest ▸ ends rest⟩

/-- A list in which a broken number stands before the one to which a path leads. -/
def brokenSibling : Section :=
  { bytes := ⟨#[0x02, 0x04, 0xC5, 0, 0, 0, 0, 0, 0x01, 0x04, 0xA1, 0x07]⟩, limit := 2 }

/-- The list cannot be read.  Its second element can, with a level or two spent on the way. -/
theorem endsWith_append_brokenSibling :
    brokenSibling.limit < Format.offsetRange - 1 ∧
      brokenSibling.decode 0 = .error (.invalidSize .uint32 5 3) ∧
      ∃ item spent, 1 ≤ spent ∧ spent ≤ 2 ∧
        EndsWith ((brokenSibling.withLimit (2 - spent)).lookingUp [.index 0] 0 item)
          (.ok (some (.uint16 7))) := by
  have shallow : brokenSibling.limit < Format.offsetRange - 1 := by decide
  have found : EndsWith (brokenSibling.lookingUp [.index 1, .index 0] 0 0)
      (.ok (some (.uint16 7))) := by
    have lookedUp : brokenSibling.lookup 0 [.index 1, .index 0] = .ok (some (.uint16 7)) := rfl
    rw [← lookedUp]
    exact endsWith_lookingUp 0 _ (Shallow.word shallow) (.inl shallow)
  refine ⟨shallow, rfl, ?_⟩
  rcases endsWith_append brokenSibling shallow 0 [.index 1] with
    ⟨outcome, fruitless, settled⟩ | ⟨item, spent, steps, within, goesOn⟩
  · -- The first element of the second list is found, so this part of the path is not fruitless.
    obtain rfl := (settled [.index 0]).unique found
    rcases fruitless with nothing | ⟨error, failed⟩
    · cases nothing
    · cases failed
  · obtain ⟨outcome, ends, whole⟩ := goesOn [.index 0]
    refine ⟨item, spent, steps, within, ?_⟩
    cases outcome with
    | error error => cases whole.unique found
    | ok result =>
        cases whole.unique found
        exact ends

/-- With the largest word as limit, a path may have neither an outcome nor an item. -/
theorem not_endsWith_append_pointerToItself :
    ¬((∃ outcome, Fruitless outcome ∧
        ∀ rest, EndsWith ((pointerToItself.withLimit (Format.offsetRange - 1)).lookingUp
          ([.key "a"] ++ rest) 0 0) outcome) ∨
      ∃ item spent, 1 ≤ spent ∧ spent ≤ Format.offsetRange - 1 ∧
        ∀ rest, ∃ outcome,
          EndsWith ((pointerToItself.withLimit (Format.offsetRange - 1 - spent)).lookingUp rest 0
            item) outcome ∧
          EndsWith ((pointerToItself.withLimit (Format.offsetRange - 1)).lookingUp
            ([.key "a"] ++ rest) 0 0)
            (outcome.mapError (ReadError.withLimit (Format.offsetRange - 1)))) := by
  rintro (⟨outcome, -, settled⟩ | ⟨item, spent, -, -, goesOn⟩)
  · exact not_endsWith_pointerToItself _ _ _ (settled [])
  · obtain ⟨outcome, -, whole⟩ := goesOn []
    exact not_endsWith_pointerToItself _ _ _ whole

end DataSection.Section
