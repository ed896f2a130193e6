import FieldProjection.Schema.Codec

/-!
# Declarations of models

A datamodel declares models as a list, each with the list of its fields. Unlike in a schema, names
may be repeated here.
-/

namespace FieldProjection

open Json (Shape ShapeFault)

/-- A declared field. -/
structure FieldDeclaration where
  name : String
  kind : FieldKind
  type : String
deriving DecidableEq

/-- A declared model. -/
structure ModelDeclaration where
  name : String
  fields : List FieldDeclaration := []
  documentation : Option String := none
deriving DecidableEq

namespace FieldDeclaration

/-- The parts of a declared field read so far. -/
structure Parts where
  name : Option String := none
  kind : Option FieldKind := none
  type : Option String := none

/-- The declared field of its parts. -/
def Parts.finish (parts : Parts) : Except ShapeFault FieldDeclaration :=
  match parts.name, parts.kind, parts.type with
  | none, _, _ => .error (.missingField "name")
  | some _, none, _ => .error (.missingField "kind")
  | some _, some _, none => .error (.missingField "type")
  | some name, some kind, some type => .ok ⟨name, kind, type⟩

/-- How a declared field looks in JSON. -/
def shape : Shape FieldDeclaration :=
  Shape.record "FieldInput"
    [⟨"name", true, (·.name.isSome),
      Shape.text.map fun name parts => { parts with name := some name }⟩,
     ⟨"kind", true, (·.kind.isSome),
      FieldKind.shape.map fun kind parts => { parts with kind := some kind }⟩,
     ⟨"type", true, (·.type.isSome),
      Shape.text.map fun type parts => { parts with type := some type }⟩]
    {} Parts.finish

/-- The JSON form of a declared field. -/
def toJson (field : FieldDeclaration) : Json :=
  .object
    [("name", .string field.name), ("kind", field.kind.toJson), ("type", .string field.type)]

end FieldDeclaration

namespace ModelDeclaration

/-- The parts of a declared model read so far. -/
structure Parts where
  name : Option String := none
  fields : Option (List FieldDeclaration) := none
  documentation : Option (Option String) := none

/-- The declared model of its parts. -/
def Parts.finish (parts : Parts) : Except ShapeFault ModelDeclaration :=
  match parts.name, parts.fields with
  | none, _ => .error (.missingField "name")
  | some _, none => .error (.missingField "fields")
  | some name, some fields => .ok ⟨name, fields, parts.documentation.getD none⟩

/-- How a declared model looks in JSON. -/
def shape : Shape ModelDeclaration :=
  Shape.record "ModelInput"
    [⟨"name", true, (·.name.isSome),
      Shape.text.map fun name parts => { parts with name := some name }⟩,
     ⟨"fields", true, (·.fields.isSome),
      FieldDeclaration.shape.list.map fun fields parts => { parts with fields := some fields }⟩,
     ⟨"documentation", false, (·.documentation.isSome),
      Shape.text.optional.map fun text parts => { parts with documentation := some text }⟩]
    {} Parts.finish

/-- The JSON form of a declared model. -/
def toJson (model : ModelDeclaration) : Json :=
  .object (("name", .string model.name) ::
    ("fields", .array (model.fields.map FieldDeclaration.toJson)) ::
    Model.documentationMembers model.documentation)

end ModelDeclaration

end FieldProjection
