import FieldProjection.Datamodel.Declaration
import FieldProjection.Error

/-!
# Datamodel documents

A document holds the declared models as a list, under the name `models`, or both of these under the
name `datamodel`; the layouts are tried in this order. All names but the known ones are ignored.
The whole text is read before a layout is tried, and what follows it is looked at last.
-/

namespace FieldProjection.Datamodel

open Json (Shape ShapeFault ReadError)

/-- Why a document could not be read. -/
inductive DocumentFault where
  | unreadable (error : ReadError)
  | unknownLayout

/-- The wording of the fault. -/
def DocumentFault.message : DocumentFault → String
  | .unreadable error => error.message
  | .unknownLayout => "data did not match any variant of untagged enum Document"

/-- The fault as an error. -/
def DocumentFault.error (fault : DocumentFault) : Error :=
  (Error.foreign (.plain fault.message)).within "invalid datamodel"

/-- Makes a record of its only part. -/
def onlyPart (key : String) (part : Option (List ModelDeclaration)) :
    Except ShapeFault (List ModelDeclaration) :=
  match part with
  | none => .error (.missingField key)
  | some models => .ok models

/-- How a list of models looks. -/
def listShape : Shape (List ModelDeclaration) :=
  ModelDeclaration.shape.list

/-- How a list under the name `models` looks. -/
def wrappedShape : Shape (List ModelDeclaration) :=
  Shape.record "ModelList"
    [⟨"models", true, (·.isSome), listShape.map fun models _ => some models⟩]
    none (onlyPart "models")

/-- How a document with the name `datamodel` looks. -/
def nestedShape : Shape (List ModelDeclaration) :=
  Shape.record "Document"
    [⟨"datamodel", true, (·.isSome), wrappedShape.map fun models _ => some models⟩]
    none (onlyPart "datamodel")

/-- The models of a document that is a list. -/
def ofList? (document : Json) : Option (List ModelDeclaration) :=
  (listShape.ofJson document).toOption

/-- The models of a document that holds a list under the name `models`. -/
def ofWrapped? (document : Json) : Option (List ModelDeclaration) :=
  (wrappedShape.ofJson document).toOption

/-- The models of a document that holds another one under the name `datamodel`. -/
def ofNested? (document : Json) : Option (List ModelDeclaration) :=
  if document.isObject then (nestedShape.ofJson document).toOption else none

/-- The models of a document by the first layout that fits. -/
def ofJson? (document : Json) : Option (List ModelDeclaration) :=
  ((ofList? document).or (ofWrapped? document)).or (ofNested? document)

/-- The models of a text. -/
def parse (text : String) : Except DocumentFault (List ModelDeclaration) :=
  let input := text.toList
  let inPlace (stop : Json.Reader.Stop) : DocumentFault := .unreadable (stop.inText input)
  match Json.Reader.value Json.Reader.nestingLimit input with
  | .error stop => .error (inPlace stop)
  | .ok (document, rest) =>
    match ofJson? document with
    | none => .error .unknownLayout
    | some models =>
      match Json.Reader.finish rest with
      | .error stop => .error (inPlace stop)
      | .ok () => .ok models

end FieldProjection.Datamodel
