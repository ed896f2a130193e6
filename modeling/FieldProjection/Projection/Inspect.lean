import FieldProjection.Projection.Options
import FieldProjection.Text.Quoted

/-!
# Options in words

A field specification written out for a reader: the constructors of its fixed value, or the mere
fact that it is computed.
-/

namespace FieldProjection

/-- Items in brackets or braces, separated by commas. -/
def enclosed (opening closing : String) (items : List String) : String :=
  opening ++ ", ".intercalate items ++ closing

namespace Json

mutual

/-- A value with the names of its constructors. -/
def inspect : Json → String
  | .null => "Null"
  | .bool value => "Bool(" ++ (if value then "true" else "false") ++ ")"
  | .number value => "Number(" ++ String.ofList value.chars ++ ")"
  | .string value => "String(" ++ Text.quote value ++ ")"
  | .array items => enclosed "Array [" "]" (inspectItems items)
  | .object members => enclosed "Object \x7b" "\x7d" (inspectMembers members)

/-- The items of an array. -/
def inspectItems : List Json → List String
  | [] => []
  | item :: rest => inspect item :: inspectItems rest

/-- The members of an object, with their names in quotes. -/
def inspectMembers : List (String × Json) → List String
  | [] => []
  | (key, value) :: rest => (Text.quote key ++ ": " ++ inspect value) :: inspectMembers rest

end

end Json

namespace FieldSpec

/-- A specification with its fixed value. -/
def inspect {α : Type} (inspectValue : α → String) : FieldSpec α → String
  | .fixed value => "Static(" ++ inspectValue value ++ ")"
  | .computed _ => "Computed(..)"

end FieldSpec

/-- Default fields written out. -/
def DefaultFields.inspect (spec : DefaultFields) : String :=
  FieldSpec.inspect
    (fun fields => enclosed "\x7b" "\x7d" (Json.inspectMembers fields.entries)) spec

/-- Excluded fields written out. -/
def ExcludedFields.inspect (spec : ExcludedFields) : String :=
  FieldSpec.inspect (fun names => enclosed "[" "]" (names.map Text.quote)) spec

end FieldProjection
