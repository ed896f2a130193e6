import FieldProjection.Proofs.Options.Fixed
import FieldProjection.Proofs.Schema.Resolution

/-!
# Which entry of the options is in force

The default and the excluded fields of a model are looked up under the name that it was asked for
by, and then under its declared name. `ExcludesWhereSet` and `NeverDefaults` say of one field what
the entries must say for it to stay excluded. When all entries stand under declared names, as
`KeyedBy` says, the name that a model was asked for by makes no difference.
-/

namespace FieldProjection.Options

/-- No default entry selects a field, for whatever selection it is asked. -/
def NeverDefaults (options : Options) (field : String) : Prop :=
  ∀ entry ∈ options.defaults.entries, ∀ selection, field ∉ (entry.2.resolve selection).keys

/-- If exclusions are set under a name, they list a field for every selection. -/
def ExcludesWhereSet (options : Options) (name field : String) : Prop :=
  ∀ spec, options.excludes.find? name = some spec →
    ∀ selection, field ∈ spec.resolve selection

/-- Every entry stands under the declared name of a model. -/
structure KeyedBy (options : Options) (schema : Schema) : Prop where
  defaults : ∀ key ∈ options.defaults.keys, (schema.find? key).isSome
  excludes : ∀ key ∈ options.excludes.keys, (schema.find? key).isSome

variable {options : Options} {schema : Schema} {model : Model} {name declared field : String}

/-- A field that no default entry selects is no default field of any model. -/
theorem NeverDefaults.not_mem_defaultsFor (h : options.NeverDefaults field)
    (selection : Selection) : field ∉ (options.defaultsFor name declared selection).keys := by
  unfold defaultsFor
  cases hentry : entryFor options.defaults name declared with
  | none => exact List.not_mem_nil
  | some spec =>
      obtain ⟨key, hmem⟩ := exists_mem_of_entryFor hentry
      exact h (key, spec) hmem selection

/-- A field that the declared entry lists is excluded under every name whose own entry, if there is
one, lists it as well. -/
theorem ExcludesWhereSet.mem_excludesFor (h : options.ExcludesWhereSet name field)
    {excluded : List String} (hentry : options.excludes.find? declared = some (.fixed excluded))
    (hfield : field ∈ excluded) (selection : Selection) :
    field ∈ options.excludesFor name declared selection := by
  unfold excludesFor entryFor
  cases hown : options.excludes.find? name with
  | some spec => exact h spec hown selection
  | none =>
      rw [Option.none_or, hentry]
      exact hfield

/-! ## Entries under declared names -/

/-- When all keys are declared names, the entry for a model is the one under its declared name. -/
theorem entryFor_alias {α : Type} {map : OrderedMap α}
    (hkeys : ∀ key ∈ map.keys, (schema.find? key).isSome)
    (hresolve : schema.resolve? name = some (declared, model)) :
    entryFor map name declared = entryFor map declared declared := by
  by_cases hname : name = declared
  · rw [hname]
  · have hundeclared := Schema.find?_eq_none_of_resolve? hresolve hname
    have hentry : map.find? name = none := by
      refine Entries.find?_eq_none_iff.mpr fun hmem => ?_
      have hdeclared := hkeys name hmem
      simp [hundeclared] at hdeclared
    rw [entryFor, hentry, Option.none_or, entryFor, Option.or_self]

/-- The default fields of a model do not depend on the name that it was asked for by. -/
theorem KeyedBy.defaultsFor_alias (h : options.KeyedBy schema)
    (hresolve : schema.resolve? name = some (declared, model)) (selection : Selection) :
    options.defaultsFor name declared selection =
      options.defaultsFor declared declared selection := by
  rw [defaultsFor, entryFor_alias h.defaults hresolve, defaultsFor]

/-- The excluded fields of a model do not depend on the name that it was asked for by. -/
theorem KeyedBy.excludesFor_alias (h : options.KeyedBy schema)
    (hresolve : schema.resolve? name = some (declared, model)) (selection : Selection) :
    options.excludesFor name declared selection =
      options.excludesFor declared declared selection := by
  rw [excludesFor, entryFor_alias h.excludes hresolve, excludesFor]

end FieldProjection.Options
