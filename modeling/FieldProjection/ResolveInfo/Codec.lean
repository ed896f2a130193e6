import FieldProjection.Json.Shape
import FieldProjection.ResolveInfo.Basic

/-!
# Resolver information as JSON

All parts of a field are written. When a field is read its label, arguments and groups may be
missing and are then empty, and names that a field does not have are passed over.
-/

namespace FieldProjection

open Json (Shape ShapeFault)

namespace ResolvedField

/-- The parts of a field read so far. -/
structure Parts where
  name : Option String := none
  label : Option String := none
  arguments : Option (List (String × Json)) := none
  groups : Option (List (String × List (String × ResolvedField))) := none

/-- The field of its parts. -/
def Parts.finish (parts : Parts) : Except ShapeFault ResolvedField :=
  match parts.name with
  | none => .error (.missingField "name")
  | some name =>
    .ok ⟨name, parts.label.getD "", parts.arguments.getD [], parts.groups.getD []⟩

/-- How a field looks in JSON when selections are nested less than `levels` deep. -/
def shape : Nat → Shape ResolvedField
  | 0 => Shape.never "ResolvedField"
  | levels + 1 =>
    Shape.record "ResolvedField"
      [⟨"name", true, (·.name.isSome),
        Shape.text.map fun name parts => { parts with name := some name }⟩,
       ⟨"alias", false, (·.label.isSome),
        Shape.text.map fun label parts => { parts with label := some label }⟩,
       ⟨"args", false, (·.arguments.isSome),
        Shape.any.entries.map fun arguments parts =>
          { parts with arguments := some arguments }⟩,
       ⟨"fieldsByTypeName", false, (·.groups.isSome),
        (shape levels).entries.entries.map fun groups parts =>
          { parts with groups := some groups }⟩]
      {} Parts.finish

mutual

/-- The JSON form of a field. -/
def toJson : ResolvedField → Json
  | ⟨name, label, arguments, groups⟩ =>
    .object
      [("name", .string name), ("alias", .string label), ("args", .object arguments),
       ("fieldsByTypeName", .object (groupsToJson groups))]

/-- The JSON form of the groups of a field. -/
def groupsToJson : List (String × List (String × ResolvedField)) → List (String × Json)
  | [] => []
  | (type, selected) :: rest =>
    (type, .object (selectedToJson selected)) :: groupsToJson rest

/-- The JSON form of the fields of a group. -/
def selectedToJson : List (String × ResolvedField) → List (String × Json)
  | [] => []
  | (key, child) :: rest => (key, toJson child) :: selectedToJson rest

end

end ResolvedField

namespace ResolveInfo

/-- The parts of resolver information read so far. -/
structure Parts where
  returnType : Option String := none
  field : Option ResolvedField := none

/-- The information of its parts. -/
def Parts.finish (parts : Parts) : Except ShapeFault ResolveInfo :=
  match parts.returnType, parts.field with
  | none, _ => .error (.missingField "returnType")
  | some _, none => .error (.missingField "field")
  | some returnType, some field => .ok ⟨returnType, field⟩

/-- How resolver information looks in JSON when selections are nested less than `levels` deep. -/
def shape (levels : Nat) : Shape ResolveInfo :=
  Shape.record "ResolveInfo"
    [⟨"returnType", true, (·.returnType.isSome),
      Shape.text.map fun type parts => { parts with returnType := some type }⟩,
     ⟨"field", true, (·.field.isSome),
      (ResolvedField.shape levels).map fun field parts => { parts with field := some field }⟩]
    {} Parts.finish

/-- The JSON form of resolver information. -/
def toJson (info : ResolveInfo) : Json :=
  .object [("returnType", .string info.returnType), ("field", info.field.toJson)]

/-- Reads resolver information from a value. The selections cannot be nested deeper than the value
is. -/
def ofJson (value : Json) : Except ShapeFault ResolveInfo :=
  (shape value.depth).ofJson value

end ResolveInfo

/-- Reads a field from a value. -/
def ResolvedField.ofJson (value : Json) : Except ShapeFault ResolvedField :=
  (ResolvedField.shape (value.depth + 1)).ofJson value

end FieldProjection
