import DataSection.Instances

/-!
# Dictionaries

A dictionary holds entries under byte-string keys, in the order in which the keys
first came.  Writing to a key that is present replaces its value and keeps its
place.

The main statements describe each operation by the two views `keys` and `get?`.
Every dictionary built by `insert` from `empty` is `Distinct`.
-/

namespace DataSection

/-- Entries under byte-string keys, in order of first insertion.

The keys are distinct in every dictionary that `insert` builds.  The type leaves
that to `Distinct`, because values hold dictionaries of values. -/
structure Dictionary (α : Type) where
  entries : List (ByteArray × α)
  deriving DecidableEq

namespace Dictionary

variable {α β : Type}

/-- The dictionary without entries. -/
def empty : Dictionary α :=
  ⟨[]⟩

instance : EmptyCollection (Dictionary α) := ⟨empty⟩

instance : Inhabited (Dictionary α) := ⟨empty⟩

/-- The number of entries. -/
def size (dictionary : Dictionary α) : Nat :=
  dictionary.entries.length

/-- Whether there are no entries. -/
def isEmpty (dictionary : Dictionary α) : Bool :=
  dictionary.entries.isEmpty

/-- The keys, in order of first insertion. -/
def keys (dictionary : Dictionary α) : List ByteArray :=
  dictionary.entries.map Prod.fst

/-- The values, in the order of their keys. -/
def values (dictionary : Dictionary α) : List α :=
  dictionary.entries.map Prod.snd

/-- No key stands twice. -/
def Distinct (dictionary : Dictionary α) : Prop :=
  dictionary.keys.Nodup

instance (dictionary : Dictionary α) : Decidable dictionary.Distinct :=
  inferInstanceAs (Decidable dictionary.keys.Nodup)

/-- The value that a list of entries holds under a key. -/
def find? (key : ByteArray) : List (ByteArray × α) → Option α
  | [] => none
  | (held, value) :: rest => if held = key then some value else find? key rest

/-- The value under a key. -/
def get? (dictionary : Dictionary α) (key : ByteArray) : Option α :=
  find? key dictionary.entries

/-- Whether a key is present. -/
def contains (dictionary : Dictionary α) (key : ByteArray) : Bool :=
  (dictionary.get? key).isSome

/-- Write to the place of a key, or behind all entries if there is none. -/
def put (key : ByteArray) (value : α) : List (ByteArray × α) → List (ByteArray × α)
  | [] => [(key, value)]
  | (held, old) :: rest =>
      if held = key then (held, value) :: rest else (held, old) :: put key value rest

/-- Write a value under a key. -/
def insert (dictionary : Dictionary α) (key : ByteArray) (value : α) : Dictionary α :=
  ⟨put key value dictionary.entries⟩

/-- `put`, together with the value that was overwritten. -/
def putGet (key : ByteArray) (value : α) :
    List (ByteArray × α) → Option α × List (ByteArray × α)
  | [] => (none, [(key, value)])
  | (held, old) :: rest =>
      if held = key then
        (some old, (held, value) :: rest)
      else
        let (replaced, rest) := putGet key value rest
        (replaced, (held, old) :: rest)

/-- Write a value under a key, and give the value that it replaces. -/
def exchange (dictionary : Dictionary α) (key : ByteArray) (value : α) :
    Option α × Dictionary α :=
  let (replaced, entries) := putGet key value dictionary.entries
  (replaced, ⟨entries⟩)

/-- Write pairs one after the other into a dictionary. -/
def insertAll (dictionary : Dictionary α) (pairs : List (ByteArray × α)) : Dictionary α :=
  pairs.foldl (fun dictionary pair => dictionary.insert pair.1 pair.2) dictionary

/-- The dictionary that holds a list of pairs, of which a later one overwrites an
earlier one with the same key. -/
def ofList (pairs : List (ByteArray × α)) : Dictionary α :=
  empty.insertAll pairs

/-- The dictionary that holds a list of pairs under the bytes of texts. -/
def ofTexts (pairs : List (String × α)) : Dictionary α :=
  ofList (pairs.map fun (text, value) => (text.toUTF8, value))

@[simp] theorem entries_empty : (empty : Dictionary α).entries = [] := rfl

@[simp] theorem keys_mk (entries : List (ByteArray × α)) :
    (mk entries).keys = entries.map Prod.fst := rfl

@[simp] theorem entries_insert (dictionary : Dictionary α) (key : ByteArray) (value : α) :
    (dictionary.insert key value).entries = put key value dictionary.entries := rfl

@[simp] theorem length_keys (dictionary : Dictionary α) :
    dictionary.keys.length = dictionary.size := by
  simp [keys, size]

@[simp] theorem get?_empty (key : ByteArray) : (empty : Dictionary α).get? key = none := rfl

theorem find?_put (key : ByteArray) (value : α) (entries : List (ByteArray × α))
    (asked : ByteArray) :
    find? asked (put key value entries) =
      if key = asked then some value else find? asked entries := by
  induction entries with
  | nil => simp [put, find?]
  | cons entry rest ih =>
      obtain ⟨held, old⟩ := entry
      by_cases same : held = key
      · subst same
        by_cases found : held = asked <;> simp [put, find?, found]
      · by_cases found : held = asked
        · subst found
          simp [put, find?, same, Ne.symm same]
        · simp [put, find?, same, found, ih]

/-- A written value is read back under its own key and no other. -/
@[simp] theorem get?_insert (dictionary : Dictionary α) (key : ByteArray) (value : α)
    (asked : ByteArray) :
    (dictionary.insert key value).get? asked =
      if key = asked then some value else dictionary.get? asked :=
  find?_put key value dictionary.entries asked

theorem putGet_eq (key : ByteArray) (value : α) (entries : List (ByteArray × α)) :
    putGet key value entries = (find? key entries, put key value entries) := by
  induction entries with
  | nil => rfl
  | cons entry rest ih =>
      obtain ⟨held, old⟩ := entry
      by_cases same : held = key <;> simp [putGet, find?, put, same, ih]

/-- What a write replaces is what was read under the key before. -/
theorem exchange_eq (dictionary : Dictionary α) (key : ByteArray) (value : α) :
    dictionary.exchange key value = (dictionary.get? key, dictionary.insert key value) := by
  simp [exchange, putGet_eq, get?, insert]

theorem map_fst_put_of_mem {key : ByteArray} {entries : List (ByteArray × α)}
    (present : key ∈ entries.map Prod.fst) (value : α) :
    (put key value entries).map Prod.fst = entries.map Prod.fst := by
  induction entries with
  | nil => simp at present
  | cons entry rest ih =>
      obtain ⟨held, old⟩ := entry
      by_cases same : held = key
      · simp [put, same]
      · have later : key ∈ rest.map Prod.fst := by
          simpa [Ne.symm same] using present
        simp [put, same, ih later]

theorem put_of_not_mem {key : ByteArray} {entries : List (ByteArray × α)}
    (absent : key ∉ entries.map Prod.fst) (value : α) :
    put key value entries = entries ++ [(key, value)] := by
  induction entries with
  | nil => rfl
  | cons entry rest ih =>
      obtain ⟨held, old⟩ := entry
      simp only [List.map_cons, List.mem_cons, not_or] at absent
      simp [put, Ne.symm absent.1, ih absent.2]

/-- Overwriting keeps all keys at their places. -/
theorem keys_insert_of_mem {dictionary : Dictionary α} {key : ByteArray}
    (present : key ∈ dictionary.keys) (value : α) :
    (dictionary.insert key value).keys = dictionary.keys :=
  map_fst_put_of_mem present value

/-- A new key comes behind all others. -/
theorem keys_insert_of_not_mem {dictionary : Dictionary α} {key : ByteArray}
    (absent : key ∉ dictionary.keys) (value : α) :
    (dictionary.insert key value).keys = dictionary.keys ++ [key] := by
  simp [insert, put_of_not_mem absent value, keys]

/-- A key is found exactly when it is among the keys. -/
theorem find?_eq_none_iff {key : ByteArray} {entries : List (ByteArray × α)} :
    find? key entries = none ↔ key ∉ entries.map Prod.fst := by
  induction entries with
  | nil => simp [find?]
  | cons entry rest ih =>
      obtain ⟨held, value⟩ := entry
      by_cases same : held = key
      · simp [find?, same]
      · simp [find?, same, Ne.symm same, ih]

theorem get?_eq_none_iff {dictionary : Dictionary α} {key : ByteArray} :
    dictionary.get? key = none ↔ key ∉ dictionary.keys :=
  find?_eq_none_iff

@[simp] theorem contains_eq_true {dictionary : Dictionary α} {key : ByteArray} :
    dictionary.contains key = true ↔ key ∈ dictionary.keys := by
  rw [contains, Option.isSome_iff_ne_none, ne_eq, get?_eq_none_iff]
  exact Classical.not_not

theorem distinct_empty : (empty : Dictionary α).Distinct :=
  List.nodup_nil

/-- Writing keeps the keys distinct. -/
theorem Distinct.insert {dictionary : Dictionary α} (distinct : dictionary.Distinct)
    (key : ByteArray) (value : α) : (dictionary.insert key value).Distinct := by
  unfold Distinct at distinct ⊢
  by_cases present : key ∈ dictionary.keys
  · rwa [keys_insert_of_mem present]
  · rw [keys_insert_of_not_mem present]
    exact List.nodup_append.mpr ⟨distinct, by simp, by
      intro held member last single equal
      rw [List.mem_singleton] at single
      exact present (single ▸ equal ▸ member)⟩

theorem Distinct.insertAll {dictionary : Dictionary α} (distinct : dictionary.Distinct)
    (pairs : List (ByteArray × α)) : (dictionary.insertAll pairs).Distinct := by
  induction pairs generalizing dictionary with
  | nil => exact distinct
  | cons pair rest ih => exact ih (distinct.insert pair.1 pair.2)

theorem distinct_ofList (pairs : List (ByteArray × α)) : (ofList pairs).Distinct :=
  distinct_empty.insertAll pairs

/-- Entries with distinct keys are their own dictionary. -/
theorem insertAll_of_distinct {dictionary : Dictionary α} {pairs : List (ByteArray × α)}
    (distinct : (dictionary.keys ++ pairs.map Prod.fst).Nodup) :
    dictionary.insertAll pairs = ⟨dictionary.entries ++ pairs⟩ := by
  induction pairs generalizing dictionary with
  | nil => simp [insertAll]
  | cons pair rest ih =>
      obtain ⟨key, value⟩ := pair
      have absent : key ∉ dictionary.keys := by
        rw [List.nodup_append] at distinct
        exact fun member => distinct.2.2 key member key (by simp) rfl
      have step : dictionary.insertAll ((key, value) :: rest) =
          (dictionary.insert key value).insertAll rest := rfl
      rw [step, ih]
      · rw [entries_insert, put_of_not_mem absent, List.append_assoc, List.singleton_append]
      · rw [keys_insert_of_not_mem absent]
        simpa using distinct

theorem ofList_of_distinct {pairs : List (ByteArray × α)}
    (distinct : (pairs.map Prod.fst).Nodup) : ofList pairs = ⟨pairs⟩ := by
  have built : (empty : Dictionary α).insertAll pairs = ⟨empty.entries ++ pairs⟩ :=
    insertAll_of_distinct (by simpa [keys] using distinct)
  simpa [ofList] using built

end Dictionary

end DataSection
