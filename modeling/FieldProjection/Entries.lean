/-!
# Entries in insertion order

An association list from names to values whose order is part of its meaning: JSON objects,
selections and the groups of a resolved field are all such lists. `insert` keeps the place of a
name that is already there and appends a new one, so the first insertion decides the order and
the last one the value. The lemmas say what each operation does to look-up (`find?`) and to the
order of names (`keys`); nothing else needs to unfold them.
-/

namespace FieldProjection

/-- Names with values, in the order in which the names were first inserted. -/
abbrev Entries (α : Type) := List (String × α)

namespace Entries

variable {α β : Type}

/-- The names, in order. -/
def keys (entries : Entries α) : List String :=
  entries.map Prod.fst

/-- The value of the first entry under `key`. -/
def find? (key : String) : Entries α → Option α
  | [] => none
  | (name, value) :: rest => if name = key then some value else find? key rest

/-- Stores `value` under `key`: in place when the name is there, at the end otherwise. -/
def insert (key : String) (value : α) : Entries α → Entries α
  | [] => [(key, value)]
  | (name, old) :: rest =>
    if name = key then (name, value) :: rest else (name, old) :: insert key value rest

/-- Inserts every entry of `added` in turn. -/
def insertAll (entries : Entries α) (added : Entries α) : Entries α :=
  added.foldl (fun result entry => insert entry.1 entry.2 result) entries

/-- The entries of a list in which a repeated name keeps its first place and its last value. -/
def ofList (entries : List (String × α)) : Entries α :=
  insertAll [] entries

/-- Whether an entry is stored under `key`. -/
def contains (key : String) (entries : Entries α) : Bool :=
  (find? key entries).isSome

@[simp] theorem find?_nil (key : String) : find? key ([] : Entries α) = none := rfl

@[simp] theorem keys_nil : keys ([] : Entries α) = [] := rfl

@[simp] theorem keys_cons (entry : String × α) (rest : Entries α) :
    keys (entry :: rest) = entry.1 :: keys rest := rfl

/-- Looking up the inserted name gives the inserted value, any other name what it gave before. -/
theorem find?_insert (key name : String) (value : α) (entries : Entries α) :
    find? name (insert key value entries) =
      if key = name then some value else find? name entries := by
  induction entries with
  | nil => simp [insert, find?]
  | cons entry rest ih =>
    obtain ⟨first, old⟩ := entry
    by_cases h : first = key
    · subst h
      by_cases hn : first = name <;> simp [insert, find?, hn]
    · by_cases hn : first = name
      · subst hn
        simp [insert, find?, h, Ne.symm h]
      · simp [insert, find?, h, hn, ih]

/-- A name has a value exactly when it is one of the keys. -/
theorem isSome_find?_iff {key : String} {entries : Entries α} :
    (find? key entries).isSome ↔ key ∈ keys entries := by
  induction entries with
  | nil => simp
  | cons entry rest ih =>
    obtain ⟨name, value⟩ := entry
    by_cases h : name = key
    · simp [find?, h]
    · simp [find?, h, ih, Ne.symm h]

/-- A name has no value exactly when it is none of the keys. -/
theorem find?_eq_none_iff {key : String} {entries : Entries α} :
    find? key entries = none ↔ key ∉ keys entries := by
  rw [← isSome_find?_iff, Option.not_isSome_iff_eq_none]

/-- Inserting a stored name leaves the order of names, a new name goes to the end. -/
theorem keys_insert (key : String) (value : α) (entries : Entries α) :
    keys (insert key value entries) =
      if key ∈ keys entries then keys entries else keys entries ++ [key] := by
  induction entries with
  | nil => simp [insert]
  | cons entry rest ih =>
    obtain ⟨name, old⟩ := entry
    by_cases h : name = key
    · simp [insert, h]
    · by_cases hr : key ∈ keys rest
      · simp [insert, h, ih, hr]
      · simp [insert, h, ih, hr, Ne.symm h]

/-- Insertion never makes a name appear twice. -/
theorem nodup_keys_insert {entries : Entries α} (h : (keys entries).Nodup) (key : String)
    (value : α) : (keys (insert key value entries)).Nodup := by
  rw [keys_insert]
  split
  · exact h
  · next hk =>
    refine List.nodup_append.mpr ⟨h, by simp, ?_⟩
    intro a ha b hb
    obtain rfl := List.mem_singleton.mp hb
    exact fun hab => hk (hab ▸ ha)

/-- Adding entries one by one never makes a name appear twice. -/
theorem nodup_keys_insertAll (added : Entries α) {entries : Entries α}
    (h : (keys entries).Nodup) : (keys (insertAll entries added)).Nodup := by
  induction added generalizing entries with
  | nil => exact h
  | cons entry rest ih => exact ih (nodup_keys_insert h entry.1 entry.2)

/-- The entries of a list have distinct names. -/
theorem nodup_keys_ofList (entries : List (String × α)) : (keys (ofList entries)).Nodup :=
  nodup_keys_insertAll entries (by simp)

/-- A name that is not there yet is inserted at the end. -/
theorem insert_of_not_mem {key : String} {entries : Entries α} (h : key ∉ keys entries)
    (value : α) : insert key value entries = entries ++ [(key, value)] := by
  induction entries with
  | nil => rfl
  | cons entry rest ih =>
    obtain ⟨name, old⟩ := entry
    simp only [keys_cons, List.mem_cons, not_or] at h
    simp [insert, Ne.symm h.1, ih h.2]

end Entries

end FieldProjection
