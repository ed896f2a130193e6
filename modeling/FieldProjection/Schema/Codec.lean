import FieldProjection.Json.Shape
import FieldProjection.Schema.Basic

/-!
# Schemas as JSON

A schema is an object from model names to models, a model an object with its fields by name and
its comment, which is left out when there is none. Reading accepts the shapes that `toJson` writes,
the fields of a record also as a list in order.
-/

namespace FieldProjection

open Json (Shape ShapeFault)

/-- The JSON form of a kind. -/
def FieldKind.toJson (kind : FieldKind) : Json :=
  .string kind.spelling

/-- How a kind looks in JSON. -/
def FieldKind.shape : Shape FieldKind :=
  Shape.variant variants

namespace Field

/-- The parts of a field read so far. -/
structure Parts where
  kind : Option FieldKind := none
  type : Option String := none

/-- The field of its parts. -/
def Parts.finish (parts : Parts) : Except ShapeFault Field :=
  match parts.kind, parts.type with
  | none, _ => .error (.missingField "kind")
  | some _, none => .error (.missingField "type")
  | some kind, some type => .ok ⟨kind, type⟩

/-- How a field looks in JSON. -/
def shape : Shape Field :=
  Shape.record "Field"
    [⟨"kind", true, (·.kind.isSome),
      FieldKind.shape.map fun kind parts => { parts with kind := some kind }⟩,
     ⟨"type", true, (·.type.isSome),
      Shape.text.map fun type parts => { parts with type := some type }⟩]
    {} Parts.finish

/-- The JSON form of a field. -/
def toJson (field : Field) : Json :=
  .object [("kind", field.kind.toJson), ("type", .string field.type)]

end Field

namespace Model

/-- The parts of a model read so far. -/
structure Parts where
  fields : Option (OrderedMap Field) := none
  documentation : Option (Option String) := none

/-- The model of its parts. -/
def Parts.finish (parts : Parts) : Except ShapeFault Model :=
  match parts.fields with
  | none => .error (.missingField "fields")
  | some fields => .ok ⟨fields, parts.documentation.getD none⟩

/-- How a model looks in JSON. -/
def shape : Shape Model :=
  Shape.record "Model"
    [⟨"fields", true, (·.fields.isSome),
      Field.shape.orderedMap.map fun fields parts => { parts with fields := some fields }⟩,
     ⟨"documentation", false, (·.documentation.isSome),
      Shape.text.optional.map fun text parts => { parts with documentation := some text }⟩]
    {} Parts.finish

/-- The member that holds a comment, if there is one. -/
def documentationMembers (documentation : Option String) : List (String × Json) :=
  match documentation with
  | none => []
  | some text => [("documentation", .string text)]

/-- The JSON form of a model. -/
def toJson (model : Model) : Json :=
  .object (("fields", .object (model.fields.entries.map fun entry => (entry.1, entry.2.toJson))) ::
    documentationMembers model.documentation)

end Model

namespace Schema

/-- How a schema looks in JSON. -/
def shape : Shape Schema :=
  Model.shape.orderedMap.map Schema.mk

/-- The JSON form of a schema. -/
def toJson (schema : Schema) : Json :=
  .object (schema.models.entries.map fun entry => (entry.1, entry.2.toJson))

end Schema

end FieldProjection
