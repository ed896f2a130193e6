import FieldProjection.Proofs.Entries.Insertion
import FieldProjection.Schema.Basic

/-!
# Resolving names

A name that stands for a model leads to the declared name of the model, under which the model is
stored. `Schema.withDeclaredTargets` puts these declared names in the place of the targets of all
relations. It changes neither the names nor the comments of models, so names are resolved in it as
before: `Schema.resolve?_withDeclaredTargets`.
-/

namespace FieldProjection

/-- A map with a function applied to every value. -/
def OrderedMap.mapValues {α β : Type} (f : α → β) (map : OrderedMap α) : OrderedMap β :=
  ⟨Entries.mapValues f map.entries, by rw [Entries.keys_mapValues]; exact map.nodup⟩

/-- A changed value is found under the same name. -/
theorem OrderedMap.find?_mapValues {α β : Type} (f : α → β) (map : OrderedMap α) (key : String) :
    (map.mapValues f).find? key = (map.find? key).map f :=
  Entries.find?_mapValues f key map.entries

/-- A relation with the declared name of the model that its target stands for. Any other field, and
a relation whose target stands for no model, stays as it is. -/
def Field.withDeclaredTarget (schema : Schema) (field : Field) : Field :=
  match field.target?.bind schema.resolve? with
  | some (declared, _) => { field with type := declared }
  | none => field

/-- A model with the declared names of the targets of its relations. -/
def Model.withDeclaredTargets (schema : Schema) (model : Model) : Model :=
  { model with fields := model.fields.mapValues (Field.withDeclaredTarget schema) }

/-- A schema with the declared names of the targets of all relations. -/
def Schema.withDeclaredTargets (schema : Schema) : Schema :=
  ⟨schema.models.mapValues (Model.withDeclaredTargets schema)⟩

namespace Schema

variable {schema : Schema} {model : Model} {name declared : String}

/-- A name that stands for a model stands for one that is stored under its declared name. -/
theorem find?_of_resolve? (h : schema.resolve? name = some (declared, model)) :
    schema.find? declared = some model := by
  unfold resolve? at h
  split at h
  · exact False.elim (Option.some_ne_none _ h.symm)
  · split at h
    · next found hfound =>
        obtain ⟨rfl, rfl⟩ := Prod.mk.inj (Option.some.inj h)
        exact hfound
    · exact Entries.find?_of_mem schema.models.nodup (List.mem_of_find?_eq_some h)

/-- A name that stands for a model declared under another one is not declared itself. -/
theorem find?_eq_none_of_resolve? (h : schema.resolve? name = some (declared, model))
    (hname : name ≠ declared) : schema.find? name = none := by
  unfold resolve? at h
  split at h
  · exact False.elim (Option.some_ne_none _ h.symm)
  · split at h
    · exact False.elim (hname (Prod.mk.inj (Option.some.inj h)).1)
    · assumption

/-- If no model is declared under the empty name, the declared name of a model stands for it. -/
theorem resolve?_declared (hempty : schema.find? "" = none)
    (h : schema.resolve? name = some (declared, model)) :
    schema.resolve? declared = some (declared, model) := by
  have hfind := find?_of_resolve? h
  refine resolve?_of_find? ?_ hfind
  rintro rfl
  exact Option.some_ne_none _ (hfind.symm.trans hempty)

/-- Names are resolved as before when targets are replaced by declared names. -/
theorem resolve?_withDeclaredTargets (schema : Schema) (name : String) :
    schema.withDeclaredTargets.resolve? name =
      (schema.resolve? name).map fun found => (found.1, found.2.withDeclaredTargets schema) := by
  have hdeclared : schema.withDeclaredTargets.find? name =
      (schema.find? name).map (Model.withDeclaredTargets schema) :=
    OrderedMap.find?_mapValues _ _ name
  unfold resolve?
  rw [hdeclared]
  by_cases hname : name = ""
  · rw [if_pos hname, if_pos hname, Option.map_none]
  · rw [if_neg hname, if_neg hname]
    cases schema.find? name with
    | some model => rfl
    | none =>
        -- the search asks for the comments, which are the same
        exact List.find?_map

end Schema

/-- A field of a model whose targets were replaced is the field that was there, with its target
replaced. -/
theorem Model.field?_withDeclaredTargets (schema : Schema) (model : Model) (key : String) :
    (model.withDeclaredTargets schema).field? key =
      (model.field? key).map (Field.withDeclaredTarget schema) :=
  OrderedMap.find?_mapValues _ _ key

/-- A relation keeps its target or gets the declared name that the target stands for. -/
theorem Field.withDeclaredTarget_relation (schema : Schema) (target : String) :
    (Field.mk .relation target).withDeclaredTarget schema =
      ⟨.relation, ((schema.resolve? target).map Prod.fst).getD target⟩ := by
  cases h : schema.resolve? target <;> simp [withDeclaredTarget, target?, isRelation, h]

end FieldProjection
