import FieldProjection.OrderedMap

/-!
# Fields and models

A model is what storage knows about one type: its fields in the order of their declaration, each
with a kind and the name of a type, and the comment that was written on the model.
-/

namespace FieldProjection

/-- How a field is stored. -/
inductive FieldKind where
  | scalar
  | enumeration
  | relation
deriving DecidableEq

namespace FieldKind

/-- The spelling of a kind in a datamodel, where a relation is an object. -/
def spelling : FieldKind → String
  | .scalar => "scalar"
  | .enumeration => "enum"
  | .relation => "object"

/-- The kinds by their spelling. -/
def variants : List (String × FieldKind) :=
  [scalar, enumeration, relation].map fun kind => (kind.spelling, kind)

/-- Every kind is found under its spelling. -/
theorem find?_variants (kind : FieldKind) : Entries.find? kind.spelling variants = some kind := by
  cases kind <;> decide

end FieldKind

/-- A field of a model: its kind, and the scalar, enumeration or model that it refers to. -/
structure Field where
  kind : FieldKind
  type : String
deriving DecidableEq

namespace Field

/-- Whether a field leads to another model. -/
def isRelation (field : Field) : Bool :=
  field.kind = .relation

/-- The name of the model that a relation leads to. -/
def target? (field : Field) : Option String :=
  if field.isRelation then some field.type else none

end Field

/-- The stored form of one type. -/
structure Model where
  fields : OrderedMap Field := .empty
  documentation : Option String := none

namespace Model

/-- The field declared under a name. -/
def field? (model : Model) (name : String) : Option Field :=
  model.fields.find? name

/-- Declares a field, or replaces the one of the same name. -/
def withField (model : Model) (name : String) (field : Field) : Model :=
  { model with fields := model.fields.insert name field }

/-- Replaces the comment. -/
def withDocumentation (model : Model) (documentation : String) : Model :=
  { model with documentation := some documentation }

end Model

end FieldProjection
