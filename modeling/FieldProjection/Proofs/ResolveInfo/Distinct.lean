import FieldProjection.Proofs.Json.Laws
import FieldProjection.ResolveInfo.Codec

/-!
# Fields without repeated names

The arguments of a field, the types of its selections and the keys of a type are names of maps, so
none of them is there twice. `Distinct` says so for a field and all fields below it. It holds of
every field that is built by the functions on fields, and of every field that is read from a value.
-/

namespace FieldProjection

open Json (Shape)

namespace ResolvedField

/-- A field, and each one below it, repeats no argument, no type and no key of a type. -/
inductive Distinct : ResolvedField → Prop where
  | intro {field : ResolvedField} :
      (Entries.keys field.arguments).Nodup → (Entries.keys field.groups).Nodup →
      (∀ group ∈ field.groups, (Entries.keys group.2).Nodup) →
      (∀ group ∈ field.groups, ∀ child ∈ group.2, Distinct child.2) → Distinct field

/-- Selections repeat no type and no key of a type, and neither do the fields below them. -/
structure DistinctGroups (groups : List (String × List (String × ResolvedField))) : Prop where
  types : (Entries.keys groups).Nodup
  keys : ∀ group ∈ groups, (Entries.keys group.2).Nodup
  fields : ∀ group ∈ groups, ∀ child ∈ group.2, child.2.Distinct

/-- A field repeats nothing if its arguments and its selections do not. -/
theorem distinct_iff {field : ResolvedField} :
    field.Distinct ↔ (Entries.keys field.arguments).Nodup ∧ DistinctGroups field.groups := by
  constructor
  · rintro ⟨harguments, htypes, hkeys, hfields⟩
    exact ⟨harguments, htypes, hkeys, hfields⟩
  · rintro ⟨harguments, hgroups⟩
    exact ⟨harguments, hgroups.types, hgroups.keys, hgroups.fields⟩

/-- There is nothing to repeat without selections. -/
theorem DistinctGroups.nil : DistinctGroups [] where
  types := List.nodup_nil
  keys := List.forall_mem_nil _
  fields := List.forall_mem_nil _

/-! ## Building -/

theorem distinct_ofName (name : String) : (ofName name).Distinct :=
  distinct_iff.mpr ⟨List.nodup_nil, .nil⟩

namespace Distinct

variable {field : ResolvedField}

theorem withLabel (h : field.Distinct) (label : String) : (field.withLabel label).Distinct := by
  obtain ⟨harguments, hgroups⟩ := distinct_iff.mp h
  exact distinct_iff.mpr ⟨harguments, hgroups⟩

/-- An argument that is passed again replaces the one before. -/
theorem withArgument (h : field.Distinct) (name : String) (value : Json) :
    (field.withArgument name value).Distinct := by
  obtain ⟨harguments, hgroups⟩ := distinct_iff.mp h
  exact distinct_iff.mpr ⟨Entries.nodup_keys_insert harguments name value, hgroups⟩

/-- A type that is selected from again is extended, and a key that is selected again replaced. -/
theorem select (h : field.Distinct) (type : String) {selected : List ResolvedField}
    (hselected : ∀ child ∈ selected, child.Distinct) : (field.select type selected).Distinct := by
  obtain ⟨harguments, hgroups⟩ := distinct_iff.mp h
  have hheld : (Entries.keys ((Entries.find? type field.groups).getD [])).Nodup ∧
      ∀ child ∈ (Entries.find? type field.groups).getD [], child.2.Distinct := by
    cases hfind : Entries.find? type field.groups with
    | none => exact ⟨List.nodup_nil, List.forall_mem_nil _⟩
    | some group =>
        have hmem := Entries.mem_of_find? hfind
        exact ⟨hgroups.keys _ hmem, hgroups.fields _ hmem⟩
  have hextended : ∀ child ∈ Entries.insertAll ((Entries.find? type field.groups).getD [])
      (selected.map fun child => (child.responseKey, child)), child.2.Distinct := by
    intro child hmem
    rcases Entries.mem_of_mem_insertAll hmem with hold | hnew
    · exact hheld.2 child hold
    · obtain ⟨found, hfound, rfl⟩ := List.mem_map.mp hnew
      exact hselected found hfound
  refine distinct_iff.mpr ⟨harguments, Entries.nodup_keys_insert hgroups.types type _, ?_, ?_⟩
  · intro group hmem
    rcases Entries.mem_of_mem_insert hmem with rfl | hother
    · exact Entries.nodup_keys_insertAll _ hheld.1
    · exact hgroups.keys group hother
  · intro group hmem
    rcases Entries.mem_of_mem_insert hmem with rfl | hother
    · exact hextended
    · exact hgroups.fields group hother

end Distinct

/-! ## Reading -/

/-- Parts of a field that repeat nothing. -/
structure Parts.Distinct (parts : Parts) : Prop where
  arguments : ∀ arguments, parts.arguments = some arguments → (Entries.keys arguments).Nodup
  groups : ∀ groups, parts.groups = some groups → DistinctGroups groups

/-- Of parts that repeat nothing a field is made that repeats nothing. -/
theorem Parts.Distinct.finish {parts : Parts} (h : parts.Distinct) {field : ResolvedField}
    (hfinish : parts.finish = .ok field) : field.Distinct := by
  unfold Parts.finish at hfinish
  split at hfinish
  · cases hfinish
  · obtain rfl := Except.ok.inj hfinish
    refine distinct_iff.mpr ⟨?_, ?_⟩
    · cases harguments : parts.arguments with
      | none => exact List.nodup_nil
      | some arguments => exact h.arguments arguments harguments
    · cases hgroups : parts.groups with
      | none => exact .nil
      | some groups => exact h.groups groups hgroups

/-- Selections are read as selections that repeat nothing if each field is. -/
theorem distinctGroups_of_ofJson {child : Shape ResolvedField} {value : Json}
    {groups : List (String × List (String × ResolvedField))}
    (hchild : ∀ {value : Json} {field : ResolvedField}, child.ofJson value = .ok field →
      field.Distinct)
    (h : child.entries.entries.ofJson value = .ok groups) : DistinctGroups groups := by
  obtain ⟨htypes, hgroups⟩ := Shape.of_ofJson_entries h
  refine ⟨htypes, fun group hmem => ?_, fun group hmem entry hentry => ?_⟩
  · obtain ⟨inner, hinner⟩ := hgroups group hmem
    exact (Shape.of_ofJson_entries hinner).1
  · obtain ⟨inner, hinner⟩ := hgroups group hmem
    obtain ⟨written, hwritten⟩ := (Shape.of_ofJson_entries hinner).2 entry hentry
    exact hchild hwritten

/-- A field that is read repeats nothing, whatever the value repeats. -/
theorem distinct_of_shape {levels : Nat} {value : Json} {field : ResolvedField}
    (h : (shape levels).ofJson value = .ok field) : field.Distinct := by
  induction levels generalizing value field with
  | zero => cases h
  | succ levels ih =>
      have hblank : Parts.Distinct {} := ⟨by rintro _ ⟨⟩, by rintro _ ⟨⟩⟩
      obtain ⟨parts, hparts, hfinish⟩ := Shape.exists_finish_of_ofJson_record h hblank (by
        intro slot hslot part fill hpart state hstate
        simp only [List.mem_cons, List.not_mem_nil, or_false] at hslot
        rcases hslot with rfl | rfl | rfl | rfl <;>
          obtain ⟨found, hfound, rfl⟩ := Shape.exists_of_map_eq_ok hpart
        · exact ⟨hstate.arguments, hstate.groups⟩
        · exact ⟨hstate.arguments, hstate.groups⟩
        · refine ⟨?_, hstate.groups⟩
          rintro _ ⟨rfl⟩
          exact (Shape.of_ofJson_entries hfound).1
        · refine ⟨hstate.arguments, ?_⟩
          rintro _ ⟨rfl⟩
          exact distinctGroups_of_ofJson ih hfound)
      exact hparts.finish hfinish

end ResolvedField

namespace ResolveInfo

/-- Parts of resolver information that repeat nothing. -/
def Parts.Distinct (parts : Parts) : Prop :=
  ∀ field, parts.field = some field → field.Distinct

/-- Resolver information that is read repeats nothing. -/
theorem distinct_of_ofJson {value : Json} {info : ResolveInfo} (h : ofJson value = .ok info) :
    info.field.Distinct := by
  have hblank : Parts.Distinct {} := by rintro _ ⟨⟩
  obtain ⟨parts, hparts, hfinish⟩ := Shape.exists_finish_of_ofJson_record h hblank (by
    intro slot hslot part fill hpart state hstate
    simp only [List.mem_cons, List.not_mem_nil, or_false] at hslot
    rcases hslot with rfl | rfl <;> obtain ⟨found, hfound, rfl⟩ := Shape.exists_of_map_eq_ok hpart
    · exact hstate
    · rintro _ ⟨rfl⟩
      exact ResolvedField.distinct_of_shape hfound)
  unfold Parts.finish at hfinish
  split at hfinish
  · cases hfinish
  · cases hfinish
  · next hfield =>
      obtain rfl := Except.ok.inj hfinish
      exact hparts _ hfield

end ResolveInfo

end FieldProjection
