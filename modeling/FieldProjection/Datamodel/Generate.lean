import FieldProjection.Datamodel.Declaration
import FieldProjection.Error

/-!
# From declarations to a schema

The schema of a list of declarations takes them over as they are. No two models may have the same
name and no two fields of a model. The first model at fault counts, and of its faults a repeated
field before its own repeated name.
-/

namespace FieldProjection

/-- Why declarations make no schema, or a schema no source. -/
inductive SchemaFault where
  | repeatedField (model field : String)
  | repeatedModel (model : String)
  | unusableName (model : String)
deriving DecidableEq

/-- The wording of the fault. -/
def SchemaFault.message : SchemaFault → String
  | .repeatedField model field =>
    "model `" ++ model ++ "` declares field `" ++ field ++ "` more than once"
  | .repeatedModel model => "model `" ++ model ++ "` is declared more than once"
  | .unusableName model => "model name `" ++ model ++ "` cannot be used as a Rust identifier"

/-- The fault as an error. -/
def SchemaFault.error (fault : SchemaFault) : Error :=
  Error.invalidSchema fault.message

namespace Schema

/-- Adds a declared field of a model to the ones before it. -/
def addField (model : String) (fields : OrderedMap Field) (field : FieldDeclaration) :
    Except SchemaFault (OrderedMap Field) :=
  if (fields.find? field.name).isSome then .error (.repeatedField model field.name)
  else .ok (fields.insert field.name ⟨field.kind, field.type⟩)

/-- Adds a declared model to the ones before it. -/
def addModel (schema : Schema) (model : ModelDeclaration) : Except SchemaFault Schema := do
  let fields ← model.fields.foldlM (addField model.name) .empty
  if (schema.find? model.name).isSome then .error (.repeatedModel model.name)
  else .ok (schema.insert model.name ⟨fields, model.documentation⟩)

/-- The schema of a list of declarations. -/
def generate (models : List ModelDeclaration) : Except SchemaFault Schema :=
  models.foldlM addModel .empty

end Schema

end FieldProjection
