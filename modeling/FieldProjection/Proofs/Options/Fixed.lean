import FieldProjection.Projection.Options
import FieldProjection.Proofs.Entries.Insertion

/-!
# Options that do not compute

When every specification is fixed, the default and the excluded fields of a model do not depend on
what was requested. `IsFixed` says so of all options; `DefaultsBare` says that default fields are
selected by `true`, which is how `DefaultFields.ofNames` writes them.
-/

namespace FieldProjection

variable {α : Type}

/-- Whether a specification is a fixed value. -/
def FieldSpec.isFixed : FieldSpec α → Bool
  | .fixed _ => true
  | .computed _ => false

/-- A fixed specification does not depend on the requested selection. -/
theorem FieldSpec.resolve_eq_of_isFixed {spec : FieldSpec α} (h : spec.isFixed = true)
    (selection other : Selection) : spec.resolve selection = spec.resolve other := by
  cases spec with
  | fixed => rfl
  | computed => simp [FieldSpec.isFixed] at h

namespace Options

/-- Every specification of some options is fixed. -/
structure IsFixed (options : Options) : Prop where
  defaults : ∀ entry ∈ options.defaults.entries, entry.2.isFixed = true
  excludes : ∀ entry ∈ options.excludes.entries, entry.2.isFixed = true

/-- Every default field is selected by `true`, for whatever selection it is asked. -/
def DefaultsBare (options : Options) : Prop :=
  ∀ entry ∈ options.defaults.entries, ∀ selection,
    ∀ field ∈ (entry.2.resolve selection).entries, field.2 = .bool true

/-- Fields that are given by their names are selected by `true`. -/
theorem eq_true_of_mem_ofNames {names : List String} {selection : Selection}
    {field : String × Json}
    (h : field ∈ ((DefaultFields.ofNames names).resolve selection).entries) :
    field.2 = .bool true := by
  rcases Entries.mem_of_mem_insertAll h with hnone | hnamed
  · exact False.elim (List.not_mem_nil hnone)
  · obtain ⟨name, _, rfl⟩ := List.mem_map.mp hnamed
    rfl

/-- The entry for a model is one of the entries. -/
theorem exists_mem_of_entryFor {map : OrderedMap α} {requested declared : String} {value : α}
    (h : entryFor map requested declared = some value) :
    ∃ key, (key, value) ∈ map.entries := by
  rcases Option.or_eq_some_iff.mp h with hfind | ⟨_, hfind⟩
  · exact ⟨requested, Entries.mem_of_find? hfind⟩
  · exact ⟨declared, Entries.mem_of_find? hfind⟩

variable {options : Options} (requested declared : String) (selection other : Selection)

/-- Fixed default fields do not depend on the requested selection. -/
theorem IsFixed.defaultsFor_eq (h : options.IsFixed) :
    options.defaultsFor requested declared selection =
      options.defaultsFor requested declared other := by
  unfold defaultsFor
  cases hentry : entryFor options.defaults requested declared with
  | none => rfl
  | some spec =>
      obtain ⟨key, hmem⟩ := exists_mem_of_entryFor hentry
      have hfixed := h.defaults (key, spec) hmem
      rw [Option.map_some, Option.map_some, FieldSpec.resolve_eq_of_isFixed hfixed selection other]

/-- Fixed excluded fields do not depend on the requested selection. -/
theorem IsFixed.excludesFor_eq (h : options.IsFixed) :
    options.excludesFor requested declared selection =
      options.excludesFor requested declared other := by
  unfold excludesFor
  cases hentry : entryFor options.excludes requested declared with
  | none => rfl
  | some spec =>
      obtain ⟨key, hmem⟩ := exists_mem_of_entryFor hentry
      have hfixed := h.excludes (key, spec) hmem
      rw [Option.map_some, Option.map_some, FieldSpec.resolve_eq_of_isFixed hfixed selection other]

/-- The default fields of a model are selected by `true`. -/
theorem DefaultsBare.eq_true (h : options.DefaultsBare) {field : String × Json}
    (hfield : field ∈ (options.defaultsFor requested declared selection).entries) :
    field.2 = .bool true := by
  unfold defaultsFor at hfield
  cases hentry : entryFor options.defaults requested declared with
  | none => simp [hentry] at hfield
  | some spec =>
      obtain ⟨key, hmem⟩ := exists_mem_of_entryFor hentry
      rw [hentry, Option.map_some, Option.getD_some] at hfield
      exact h (key, spec) hmem selection field hfield

end Options

end FieldProjection
