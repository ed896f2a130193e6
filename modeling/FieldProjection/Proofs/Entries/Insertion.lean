import FieldProjection.OrderedMap
import Mathlib.Data.List.Induction
import Mathlib.Data.List.Nodup

/-!
# Adding entries one after the other

What `Entries.insertAll` does to look-up and to names. Read `find?_insertAll` and `keys_insertAll`
first: of several added entries of one name the last one counts, a name that is not added keeps its
value, and new names follow those that were there. The two together determine the entries
(`eq_of_find?_eq`). `mapValues` changes every value and no name, so it commutes with each operation.
-/

namespace FieldProjection.Entries

variable {α β : Type}

/-- An entry that look-up finds is in the list. -/
theorem mem_of_find? {key : String} {value : α} {entries : Entries α}
    (h : find? key entries = some value) : (key, value) ∈ entries := by
  induction entries with
  | nil => simp at h
  | cons entry rest ih =>
      obtain ⟨name, first⟩ := entry
      by_cases hname : name = key
      · obtain rfl : first = value := by simpa [find?, hname] using h
        simp [hname]
      · exact List.mem_cons_of_mem _ (ih (by simpa [find?, hname] using h))

/-- The name of an entry is one of the keys. -/
theorem mem_keys_of_mem {key : String} {value : α} {entries : Entries α}
    (h : (key, value) ∈ entries) : key ∈ keys entries :=
  List.mem_map.mpr ⟨(key, value), h, rfl⟩

/-- When no name is repeated, look-up finds every entry. -/
theorem find?_of_mem {key : String} {value : α} {entries : Entries α}
    (hnodup : (keys entries).Nodup) (h : (key, value) ∈ entries) :
    find? key entries = some value := by
  induction entries with
  | nil => simp at h
  | cons entry rest ih =>
      obtain ⟨name, first⟩ := entry
      rw [keys_cons, List.nodup_cons] at hnodup
      rcases List.mem_cons.mp h with hfirst | hrest
      · obtain ⟨rfl, rfl⟩ := Prod.mk.inj hfirst
        simp [find?]
      · have hne : name ≠ key := fun hname => hnodup.1 (hname ▸ mem_keys_of_mem hrest)
        rw [find?, if_neg hne]
        exact ih hnodup.2 hrest

/-- Look-up in two lists tries the first one first. -/
theorem find?_append (key : String) (first second : Entries α) :
    find? key (first ++ second) = (find? key first).or (find? key second) := by
  induction first with
  | nil => rfl
  | cons entry rest ih =>
      obtain ⟨name, value⟩ := entry
      by_cases hname : name = key
      · simp [find?, hname]
      · simp [find?, hname, ih]

/-- Looking up a name among added entries gives the last one that was added under it, or else
what was there before. -/
theorem find?_insertAll (name : String) (entries added : Entries α) :
    find? name (insertAll entries added) =
      (find? name added.reverse).or (find? name entries) := by
  induction added generalizing entries with
  | nil => rfl
  | cons entry rest ih =>
      obtain ⟨key, value⟩ := entry
      -- the first entry goes in before the others, so it is looked at after them
      have hstep := ih (insert key value entries)
      rw [find?_insert] at hstep
      show find? name (insertAll (insert key value entries) rest) = _
      rw [hstep, List.reverse_cons, find?_append, Option.or_assoc]
      by_cases hkey : key = name <;> simp [find?, hkey]

/-- The last entry of a list is added to those in front of it. -/
theorem ofList_concat (front : List (String × α)) (entry : String × α) :
    ofList (front ++ [entry]) = insert entry.1 entry.2 (ofList front) :=
  List.foldl_concat ..

/-- Of several entries of one name in a list the last one counts. -/
theorem find?_ofList (name : String) (entries : List (String × α)) :
    find? name (ofList entries) = find? name entries.reverse := by
  rw [ofList, find?_insertAll, find?_nil, Option.or_none]

/-- The names after adding entries are those that were there and those that were added. -/
theorem mem_keys_insertAll {key : String} {entries added : Entries α} :
    key ∈ keys (insertAll entries added) ↔ key ∈ keys entries ∨ key ∈ keys added := by
  have hreverse : key ∈ keys added.reverse ↔ key ∈ keys added := by
    unfold keys
    rw [List.map_reverse, List.mem_reverse]
  rw [← isSome_find?_iff, find?_insertAll, Option.isSome_or, Bool.or_eq_true, isSome_find?_iff,
    isSome_find?_iff, hreverse, or_comm]

/-- When no name is repeated, reversing a list of entries does not change look-up. -/
theorem find?_reverse {entries : Entries α} (hnodup : (keys entries).Nodup) (name : String) :
    find? name entries.reverse = find? name entries := by
  cases h : find? name entries with
  | none =>
      rw [find?_eq_none_iff] at h ⊢
      simpa [keys] using h
  | some value =>
      refine find?_of_mem ?_ (List.mem_reverse.mpr (mem_of_find? h))
      have hkeys : keys entries.reverse = (keys entries).reverse := List.map_reverse
      rw [hkeys]
      exact List.nodup_reverse.mpr hnodup

/-- Storing under a name what it holds already changes nothing. -/
theorem insert_of_find? {key : String} {value : α} {entries : Entries α}
    (h : find? key entries = some value) : insert key value entries = entries := by
  induction entries with
  | nil => exact False.elim (Option.some_ne_none _ h.symm)
  | cons entry rest ih =>
      obtain ⟨name, held⟩ := entry
      by_cases hname : name = key
      · obtain rfl : held = value := by simpa [find?, hname] using h
        rw [insert, if_pos hname]
      · rw [insert, if_neg hname, ih (by simpa [find?, hname] using h)]

/-- A value that is stored under a name takes the place of the one that stood there. -/
theorem insert_append_cons {front : Entries α} {key : String} (h : key ∉ keys front)
    (held value : α) (back : Entries α) :
    insert key value (front ++ (key, held) :: back) = front ++ (key, value) :: back := by
  induction front with
  | nil => simp [insert]
  | cons entry rest ih =>
      rw [keys_cons, List.mem_cons, not_or] at h
      rw [List.cons_append, insert, if_neg (Ne.symm h.1), ih h.2, List.cons_append]

/-- Of two values stored under a name the second counts. -/
theorem insert_insert (key : String) (first second : α) (entries : Entries α) :
    insert key second (insert key first entries) = insert key second entries := by
  induction entries with
  | nil => simp [insert]
  | cons entry rest ih =>
      obtain ⟨name, held⟩ := entry
      by_cases hname : name = key
      · simp [insert, hname]
      · simp [insert, hname, ih]

/-- Entries with the same distinct names in the same order are the same if look-up finds the same
values. -/
theorem eq_of_find?_eq {first second : Entries α} (hnodup : (keys first).Nodup)
    (hkeys : keys first = keys second)
    (hfind : ∀ key ∈ keys first, find? key first = find? key second) : first = second := by
  induction first generalizing second with
  | nil => exact (List.map_eq_nil_iff.mp hkeys.symm).symm
  | cons entry rest ih =>
      cases second with
      | nil => exact False.elim (List.cons_ne_nil _ _ hkeys)
      | cons other more =>
          obtain ⟨name, value⟩ := entry
          obtain ⟨key, held⟩ := other
          obtain ⟨rfl, hrest⟩ : name = key ∧ keys rest = keys more := List.cons.inj hkeys
          rw [keys_cons, List.nodup_cons] at hnodup
          have hvalue : some value = some held := by
            simpa [find?] using hfind name List.mem_cons_self
          -- the first name does not return, so look-up in the rest passes it by
          have htail : rest = more := by
            refine ih hnodup.2 hrest fun key hkey => ?_
            have hne : name ≠ key := fun heq => hnodup.1 (heq ▸ hkey)
            simpa [find?, hne] using hfind key (List.mem_cons_of_mem _ hkey)
          rw [Option.some.inj hvalue, htail]

/-- An entry after storing one is that one or was there before. -/
theorem mem_of_mem_insert {entry : String × α} {key : String} {value : α} {entries : Entries α}
    (h : entry ∈ insert key value entries) : entry = (key, value) ∨ entry ∈ entries := by
  induction entries with
  | nil => exact .inl (List.mem_singleton.mp h)
  | cons other rest ih =>
      obtain ⟨name, held⟩ := other
      by_cases hname : name = key
      · rw [insert, if_pos hname, hname] at h
        exact (List.mem_cons.mp h).imp_right (List.mem_cons_of_mem _)
      · rw [insert, if_neg hname] at h
        rcases List.mem_cons.mp h with rfl | hrest
        · exact .inr List.mem_cons_self
        · exact (ih hrest).imp_right (List.mem_cons_of_mem _)

/-- An entry after adding some was there before or is one of these. -/
theorem mem_of_mem_insertAll {entry : String × α} {entries added : Entries α}
    (h : entry ∈ insertAll entries added) : entry ∈ entries ∨ entry ∈ added := by
  induction added generalizing entries with
  | nil => exact .inl h
  | cons other rest ih =>
      rcases ih h with hbefore | hrest
      · rcases mem_of_mem_insert hbefore with rfl | hentries
        · exact .inr List.mem_cons_self
        · exact .inl hentries
      · exact .inr (List.mem_cons_of_mem _ hrest)

/-! ## The order of names -/

/-- One new name among others that are to follow goes to the end of those that are there, unless it
is there already. -/
theorem keys_insert_append_filter {key : String} {names : List String} (h : key ∉ names)
    (value : α) (entries : Entries α) :
    keys (insert key value entries) ++ names.filter (· ∉ keys (insert key value entries)) =
      keys entries ++ (key :: names).filter (· ∉ keys entries) := by
  rw [keys_insert]
  by_cases hkey : key ∈ keys entries
  · simp [hkey]
  · have hrest : names.filter (· ∉ keys entries ++ [key]) = names.filter (· ∉ keys entries) := by
      refine List.filter_congr fun other hother => ?_
      have hne : other ≠ key := fun heq => h (heq ▸ hother)
      simp [hne]
    have hfirst : (key :: names).filter (· ∉ keys entries) =
        key :: names.filter (· ∉ keys entries) := List.filter_cons_of_pos (decide_eq_true hkey)
    rw [if_neg hkey, hrest, hfirst, List.append_assoc, List.singleton_append]

/-- The names that were there stay in order, and those that are new follow in the order in which
they are added. -/
theorem keys_insertAll (entries : Entries α) {added : Entries α} (hnodup : (keys added).Nodup) :
    keys (insertAll entries added) =
      keys entries ++ (keys added).filter (· ∉ keys entries) := by
  induction added generalizing entries with
  | nil => exact (List.append_nil _).symm
  | cons entry rest ih =>
      rw [keys_cons, List.nodup_cons] at hnodup
      show keys (insertAll (insert entry.1 entry.2 entries) rest) = _
      rw [ih _ hnodup.2, keys_insert_append_filter hnodup.1, keys_cons]

/-- The names of a list stand in the order in which each of them comes first. -/
theorem keys_ofList (entries : List (String × α)) :
    keys (ofList entries) = (keys entries).eraseDups := by
  induction entries using List.reverseRecOn with
  | nil => rfl
  | append_singleton front entry ih =>
      have hlast : keys (front ++ [entry]) = keys front ++ [entry.1] := List.map_append
      rw [ofList_concat, keys_insert, ih, hlast, List.eraseDups_append]
      by_cases hkey : entry.1 ∈ keys front <;> simp [List.removeAll, List.eraseDups_cons, hkey]

/-- The names that were there stay in front. -/
theorem keys_prefix_keys_insertAll (entries added : Entries α) :
    keys entries <+: keys (insertAll entries added) := by
  induction added generalizing entries with
  | nil => exact List.prefix_rfl
  | cons entry rest ih =>
      refine List.IsPrefix.trans ?_ (ih (insert entry.1 entry.2 entries))
      rw [keys_insert]
      split
      · exact List.prefix_rfl
      · exact List.prefix_append _ _

/-! ## Changing the values -/

/-- The entries with a function applied to every value. -/
def mapValues (f : α → β) (entries : Entries α) : Entries β :=
  entries.map fun entry => (entry.1, f entry.2)

@[simp] theorem mapValues_nil (f : α → β) : mapValues f [] = [] := rfl

@[simp] theorem mapValues_cons (f : α → β) (entry : String × α) (rest : Entries α) :
    mapValues f (entry :: rest) = (entry.1, f entry.2) :: mapValues f rest := rfl

/-- Changing the values leaves the names. -/
theorem keys_mapValues (f : α → β) (entries : Entries α) :
    keys (mapValues f entries) = keys entries := by
  rw [keys, mapValues, List.map_map]
  rfl

/-- A changed value is found under the same name. -/
theorem find?_mapValues (f : α → β) (key : String) (entries : Entries α) :
    find? key (mapValues f entries) = (find? key entries).map f := by
  induction entries with
  | nil => rfl
  | cons entry rest ih =>
      obtain ⟨name, value⟩ := entry
      by_cases hname : name = key
      · simp [find?, hname]
      · simp [find?, hname, ih]

/-- Inserting and changing the values can be exchanged. -/
theorem mapValues_insert (f : α → β) (key : String) (value : α) (entries : Entries α) :
    mapValues f (insert key value entries) = insert key (f value) (mapValues f entries) := by
  induction entries with
  | nil => rfl
  | cons entry rest ih =>
      obtain ⟨name, old⟩ := entry
      by_cases hname : name = key
      · simp [insert, hname]
      · simp [insert, hname, ih]

/-- Adding entries and changing the values can be exchanged. -/
theorem mapValues_insertAll (f : α → β) (entries added : Entries α) :
    mapValues f (insertAll entries added) =
      insertAll (mapValues f entries) (mapValues f added) := by
  induction added generalizing entries with
  | nil => rfl
  | cons entry rest ih =>
      show mapValues f (insertAll (insert entry.1 entry.2 entries) rest) = _
      rw [ih, mapValues_insert]
      rfl

/-- A function that keeps every value keeps the entries. -/
theorem mapValues_eq_self {f : α → α} {entries : Entries α}
    (h : ∀ entry ∈ entries, f entry.2 = entry.2) : mapValues f entries = entries := by
  have hid : mapValues f entries = entries.map id :=
    List.map_congr_left fun entry hmem => by rw [h entry hmem, id]
  rw [hid, List.map_id]

/-! ## Leaving entries out -/

/-- Among the entries of some names each of these is found as among all. -/
theorem find?_filter {names : List String} {key : String} (h : key ∈ names)
    (entries : Entries α) :
    find? key (entries.filter fun entry => entry.1 ∈ names) = find? key entries := by
  induction entries with
  | nil => rfl
  | cons entry rest ih =>
      obtain ⟨name, value⟩ := entry
      by_cases hname : name = key
      · simp [find?, hname, h]
      · by_cases hknown : name ∈ names <;> simp [find?, hname, hknown, ih]

/-- The names of the entries with some names are these names. -/
theorem keys_filter (p : String → Bool) (entries : Entries α) :
    keys (entries.filter fun entry => p entry.1) = (keys entries).filter p :=
  List.filter_map.symm

/-- Names that start with some distinct ones go on with those that are none of them. -/
theorem append_filter_not_mem {front names : List String} (hstarts : front <+: names)
    (hnodup : names.Nodup) : front ++ names.filter (· ∉ front) = names := by
  obtain ⟨rest, rfl⟩ := hstarts
  have hdisjoint := (List.nodup_append.mp hnodup).2.2
  have hfront : front.filter (· ∉ front) = [] :=
    List.filter_eq_nil_iff.mpr fun name hname => by simp [hname]
  have hrest : rest.filter (· ∉ front) = rest :=
    List.filter_eq_self.mpr fun name hname =>
      decide_eq_true fun hmem => hdisjoint name hmem name hname rfl
  rw [List.filter_append, hfront, List.nil_append, hrest]

/-- The entries with a function applied to every name and value, less those without a result. -/
def filterMapValues (f : String → α → Option β) (entries : Entries α) : Entries β :=
  entries.filterMap fun entry => (f entry.1 entry.2).map fun value => (entry.1, value)

/-- The first entry is left out or changed, the rest is treated in the same way. -/
theorem filterMapValues_cons (f : String → α → Option β) (key : String) (value : α)
    (rest : Entries α) :
    filterMapValues f ((key, value) :: rest) =
      match f key value with
      | none => filterMapValues f rest
      | some result => (key, result) :: filterMapValues f rest := by
  cases h : f key value <;> simp [filterMapValues, h]

/-- An entry that remains has the result of a value that stood under its name. -/
theorem mem_filterMapValues {f : String → α → Option β} {key : String} {result : β}
    {entries : Entries α} :
    (key, result) ∈ filterMapValues f entries ↔
      ∃ value, (key, value) ∈ entries ∧ f key value = some result := by
  constructor
  · intro h
    obtain ⟨⟨name, value⟩, hmem, hresult⟩ := List.mem_filterMap.mp h
    obtain ⟨found, hfound, hpair⟩ := Option.map_eq_some_iff.mp hresult
    obtain ⟨rfl, rfl⟩ := Prod.mk.inj hpair
    exact ⟨value, hmem, hfound⟩
  · rintro ⟨value, hmem, hresult⟩
    exact List.mem_filterMap.mpr ⟨(key, value), hmem, by rw [hresult, Option.map_some]⟩

/-- The names that remain are those of the entries with a result. -/
theorem keys_filterMapValues (f : String → α → Option β) (entries : Entries α) :
    keys (filterMapValues f entries) =
      keys (entries.filter fun entry => (f entry.1 entry.2).isSome) := by
  induction entries with
  | nil => rfl
  | cons entry rest ih =>
      obtain ⟨key, value⟩ := entry
      rw [filterMapValues_cons]
      cases hresult : f key value <;> simp [hresult, ih]

/-- The names that remain are in order. -/
theorem keys_filterMapValues_sublist (f : String → α → Option β) (entries : Entries α) :
    List.Sublist (keys (filterMapValues f entries)) (keys entries) := by
  rw [keys_filterMapValues]
  exact List.filter_sublist.map Prod.fst

/-- Leaving entries out and changing the others does not repeat a name. -/
theorem nodup_keys_filterMapValues (f : String → α → Option β) {entries : Entries α}
    (hnodup : (keys entries).Nodup) : (keys (filterMapValues f entries)).Nodup :=
  (keys_filterMapValues_sublist f entries).nodup hnodup

/-- When no name is repeated, a name has a value if it had one and that has a result. -/
theorem find?_filterMapValues (f : String → α → Option β) {entries : Entries α}
    (hnodup : (keys entries).Nodup) (key : String) :
    find? key (filterMapValues f entries) = (find? key entries).bind (f key) := by
  induction entries with
  | nil => rfl
  | cons entry rest ih =>
      obtain ⟨name, value⟩ := entry
      rw [keys_cons, List.nodup_cons] at hnodup
      rw [filterMapValues_cons]
      by_cases hname : name = key
      · subst hname
        -- if the first entry is left out, no later one can take its place
        have hrest : find? name rest = none := find?_eq_none_iff.mpr hnodup.1
        cases hvalue : f name value <;> simp [find?, hvalue, ih hnodup.2, hrest]
      · cases f name value <;> simp [find?, hname, ih hnodup.2]

/-- Leaving entries out twice is leaving them out once if it is so for every entry. -/
theorem filterMapValues_filterMapValues {γ : Type} {f : String → α → Option β}
    {g : String → β → Option γ} {h : String → α → Option γ} {entries : Entries α}
    (hcompose : ∀ key value, (key, value) ∈ entries → (f key value).bind (g key) = h key value) :
    filterMapValues g (filterMapValues f entries) = filterMapValues h entries := by
  induction entries with
  | nil => rfl
  | cons entry rest ih =>
      obtain ⟨key, value⟩ := entry
      have hrest := ih fun name other hmem => hcompose name other (List.mem_cons_of_mem _ hmem)
      rw [filterMapValues_cons f, filterMapValues_cons h, ← hcompose key value List.mem_cons_self]
      cases f key value with
      | none => exact hrest
      | some result => rw [filterMapValues_cons g, hrest, Option.bind_some]

/-- Changing the values before and after leaving entries out comes to the same if it does so for
every entry. -/
theorem filterMapValues_mapValues (change : α → β) {f : String → α → Option α}
    {g : String → β → Option β} {entries : Entries α}
    (h : ∀ key value, (key, value) ∈ entries → g key (change value) = (f key value).map change) :
    filterMapValues g (mapValues change entries) =
      mapValues change (filterMapValues f entries) := by
  induction entries with
  | nil => rfl
  | cons entry rest ih =>
      obtain ⟨key, value⟩ := entry
      have hrest := ih fun name other hmem => h name other (List.mem_cons_of_mem _ hmem)
      rw [mapValues_cons, filterMapValues_cons, filterMapValues_cons,
        h key value List.mem_cons_self, hrest]
      cases f key value <;> rfl

end FieldProjection.Entries

namespace FieldProjection.OrderedMap

variable {α : Type}

/-! ## Maps of lists -/

/-- The last entry of a list is inserted into the map of those in front of it. -/
theorem ofList_concat (front : List (String × α)) (entry : String × α) :
    ofList (front ++ [entry]) = (ofList front).insert entry.1 entry.2 :=
  ext (Entries.ofList_concat front entry)

/-- A name has a value in the map of a list exactly when it is a name of the list. -/
theorem isSome_find?_ofList_iff {name : String} {entries : List (String × α)} :
    ((ofList entries).find? name).isSome ↔ name ∈ Entries.keys entries := by
  show (Entries.find? name (Entries.ofList entries)).isSome ↔ _
  rw [Entries.isSome_find?_iff, Entries.keys_ofList, List.mem_eraseDups]

end FieldProjection.OrderedMap
