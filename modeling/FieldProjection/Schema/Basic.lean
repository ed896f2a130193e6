import FieldProjection.Schema.AliasList

/-!
# Schemas

A schema lists the models of a datamodel in the order of their declaration. `resolve?` finds the
model that a type name stands for: the one declared under that name, or else the first one that
has the name as an alias. The empty name stands for nothing.
-/

namespace FieldProjection

/-- The models of a datamodel by name. -/
structure Schema where
  models : OrderedMap Model := .empty

namespace Schema

/-- The schema without models. -/
def empty : Schema := {}

/-- The schema of a list in which a repeated name keeps its first place and its last model. -/
def ofList (models : List (String × Model)) : Schema := ⟨OrderedMap.ofList models⟩

/-- Stores a model under a name. -/
def insert (schema : Schema) (name : String) (model : Model) : Schema :=
  ⟨schema.models.insert name model⟩

/-- Stores a model under a name and gives the one that was stored there. -/
def exchange (schema : Schema) (name : String) (model : Model) : Option Model × Schema :=
  (schema.models.find? name, schema.insert name model)

/-- The model declared under a name. -/
def find? (schema : Schema) (name : String) : Option Model :=
  schema.models.find? name

/-- The names of the models in order. -/
def names (schema : Schema) : List String :=
  schema.models.keys

/-- How many models there are. -/
def size (schema : Schema) : Nat :=
  schema.models.size

/-- The model that a type name stands for, with its declared name. -/
def resolve? (schema : Schema) (name : String) : Option (String × Model) :=
  if name = "" then none
  else
    match schema.find? name with
    | some model => some (name, model)
    | none => List.find? (fun entry => entry.2.isMappedTo name) schema.models.entries

/-- The model that a type name stands for. -/
def model? (schema : Schema) (name : String) : Option Model :=
  (schema.resolve? name).map Prod.snd

/-- The empty name stands for no model. -/
@[simp] theorem resolve?_empty_name (schema : Schema) : schema.resolve? "" = none := rfl

/-- A declared name stands for its own model, whatever the aliases say. -/
theorem resolve?_of_find? {schema : Schema} {name : String} {model : Model} (hname : name ≠ "")
    (h : schema.find? name = some model) : schema.resolve? name = some (name, model) := by
  simp [resolve?, hname, h]

end Schema

end FieldProjection
