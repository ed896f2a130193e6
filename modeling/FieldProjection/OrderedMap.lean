import FieldProjection.Entries

/-!
# Maps in insertion order

`OrderedMap α` holds one value per name and remembers the order in which the names were first
inserted. It is a list of entries together with the proof that no name occurs twice, so two
maps are equal exactly when they list the same entries in the same order.
-/

namespace FieldProjection

/-- A map from names to values that lists its names in the order of their first insertion. -/
structure OrderedMap (α : Type) where
  entries : Entries α
  nodup : entries.keys.Nodup

namespace OrderedMap

variable {α : Type}

/-- The map without names. -/
def empty : OrderedMap α := ⟨[], by simp⟩

instance : Inhabited (OrderedMap α) := ⟨empty⟩

/-- The map of a list in which a repeated name keeps its first place and its last value. -/
def ofList (entries : List (String × α)) : OrderedMap α :=
  ⟨Entries.ofList entries, Entries.nodup_keys_ofList entries⟩

/-- The value stored under `key`. -/
def find? (map : OrderedMap α) (key : String) : Option α :=
  map.entries.find? key

/-- Stores `value` under `key`, keeping the place of a name that is already there. -/
def insert (map : OrderedMap α) (key : String) (value : α) : OrderedMap α :=
  ⟨map.entries.insert key value, Entries.nodup_keys_insert map.nodup key value⟩

/-- The names in order. -/
def keys (map : OrderedMap α) : List String :=
  map.entries.keys

/-- How many names the map holds. -/
def size (map : OrderedMap α) : Nat :=
  map.entries.length

/-- Maps that list the same entries are equal. -/
@[ext] theorem ext {first second : OrderedMap α} (h : first.entries = second.entries) :
    first = second := by
  cases first
  cases second
  cases h
  rfl

@[simp] theorem entries_empty : (empty : OrderedMap α).entries = [] := rfl

@[simp] theorem entries_insert (map : OrderedMap α) (key : String) (value : α) :
    (map.insert key value).entries = map.entries.insert key value := rfl

@[simp] theorem find?_empty (key : String) : (empty : OrderedMap α).find? key = none := rfl

/-- Looking up the inserted name gives the inserted value, any other name what it gave before. -/
theorem find?_insert (map : OrderedMap α) (key name : String) (value : α) :
    (map.insert key value).find? name = if key = name then some value else map.find? name :=
  Entries.find?_insert key name value map.entries

/-- A list without repeated names is the list of entries of its map. -/
theorem entries_ofList {entries : List (String × α)} (h : (Entries.keys entries).Nodup) :
    (ofList entries).entries = entries := by
  suffices extend : ∀ (added start : Entries α), (Entries.keys (start ++ added)).Nodup →
      Entries.insertAll start added = start ++ added from extend entries [] h
  intro added
  induction added with
  | nil => intro start _; simp [Entries.insertAll]
  | cons entry rest ih =>
    intro start hnodup
    have hnew : entry.1 ∉ Entries.keys start := by
      intro hmem
      simp only [Entries.keys, List.map_append, List.map_cons] at hnodup
      exact (List.nodup_append.mp hnodup).2.2 _ hmem _ (by simp) rfl
    have hstep := ih (start ++ [entry]) (by simpa using hnodup)
    simpa [Entries.insertAll, Entries.insert_of_not_mem hnew] using hstep

/-- A map is the map of its own entries. -/
theorem ofList_entries (map : OrderedMap α) : ofList map.entries = map :=
  ext (entries_ofList map.nodup)

end OrderedMap

end FieldProjection
