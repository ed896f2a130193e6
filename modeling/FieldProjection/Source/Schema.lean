import FieldProjection.Datamodel.Generate
import FieldProjection.Source.Identifier
import FieldProjection.Source.Literal
import FieldProjection.Source.Token

/-!
# The source of a schema

A schema is rendered as source code with two declarations: a function that builds the schema, model
by model and field by field, and an enumeration of the names of its models. Every name must
therefore spell an identifier, which becomes the variant of the enumeration; string literals hold
the name as it is.
-/

namespace FieldProjection.Source

open Token (phrase parens brackets braces)

/-- The token of a string literal. -/
def text (content : String) : Token := .literal (literal content)

/-- A documentation attribute. -/
def documentation (content : Token) : List Token :=
  [.plain "#", brackets (phrase "doc =" ++ [content])]

/-! ## The function that builds the schema -/

/-- A call of a method with arguments. -/
def call (method : String) (arguments : List Token) : List Token :=
  [.plain ".", .plain method, parens arguments]

/-- The expression of a kind. -/
def kindExpression : FieldKind → List Token
  | .scalar => phrase "FieldKind :: Scalar"
  | .enumeration => phrase "FieldKind :: Enum"
  | .relation => phrase "FieldKind :: Relation"

/-- The expression that builds a field. -/
def fieldExpression (field : Field) : List Token :=
  phrase "Field :: new" ++ [parens (kindExpression field.kind ++ [.plain ",", text field.type])]

/-- The expression that builds a model. -/
def modelExpression (model : Model) : List Token :=
  phrase "Model :: new" ++ [parens []] ++
    (model.fields.entries.flatMap fun entry =>
      call "with_field" ([text entry.1, .plain ","] ++ fieldExpression entry.2)) ++
    match model.documentation with
    | none => []
    | some content => call "with_documentation" [text content]

/-- The expression that builds a schema. -/
def schemaExpression (schema : Schema) : List Token :=
  phrase "Schema :: new" ++ [parens []] ++
    schema.models.entries.flatMap fun entry =>
      call "with_model" ([text entry.1, .plain ","] ++ modelExpression entry.2)

/-- The function that builds a schema. -/
def schemaFunction (schema : Schema) : List Token :=
  phrase "use prisma_select :: schema ::" ++
    [braces (phrase "Field , FieldKind , Model")] ++
    phrase "; use prisma_select :: Schema ;" ++
    documentation (.literal "r\" Schema description of the datamodel.\"") ++
    phrase "pub fn schema" ++ [parens []] ++ phrase "-> Schema" ++
    [braces (schemaExpression schema)]

/-! ## The enumeration of the models -/

/-- A model in the enumeration: the variant, the name that it stands for, and the comment. -/
structure Variant where
  identifier : String
  name : String
  documentation : Option String
deriving DecidableEq

/-- The variant of a model. -/
def variant (name : String) (model : Model) : Except SchemaFault Variant :=
  match identifier? name with
  | none => .error (.unusableName name)
  | some identifier => .ok ⟨identifier, name, model.documentation⟩

/-- The variants of the models in order. -/
def variants (schema : Schema) : Except SchemaFault (List Variant) :=
  schema.models.entries.mapM fun entry => variant entry.1 entry.2

/-- A variant with its full name. -/
def variantPath (variant : Variant) : List Token :=
  phrase "ModelName ::" ++ [.plain variant.identifier]

/-- The declaration of a variant. -/
def variantDeclaration (variant : Variant) : List Token :=
  (match variant.documentation with
    | none => []
    | some content => documentation (text content)) ++
    [.plain variant.identifier, .plain ","]

/-- The variants with their full names, separated by commas. -/
def variantList (variants : List Variant) : List Token :=
  [Token.plain ","].intercalate (variants.map variantPath)

/-- The case of a variant in a match on the enumeration. -/
def variantCase (variant : Variant) : List Token :=
  variantPath variant ++ [.plain "=>", text variant.name, .plain ","]

/-- The enumeration with its list of variants, the names of the variants, and their printing. -/
def enumeration (variants : List Variant) : List Token :=
  documentation (.literal "r\" Models declared in the datamodel.\"") ++
    [.plain "#",
      brackets
        (.plain "derive" :: [parens (phrase "Debug , Clone , Copy , PartialEq , Eq , Hash")])] ++
    phrase "pub enum ModelName" ++ [braces (variants.flatMap variantDeclaration)] ++
    phrase "impl ModelName" ++
    [braces
      (phrase "pub const ALL : & 'static" ++ [brackets (phrase "ModelName")] ++ phrase "= &" ++
        [brackets (variantList variants)] ++ phrase "; pub fn as_str" ++
        [parens (phrase "& self")] ++ phrase "-> & 'static str" ++
        [braces (phrase "match * self" ++ [braces (variants.flatMap variantCase)])])] ++
    phrase "impl std :: fmt :: Display for ModelName" ++
    [braces
      (phrase "fn fmt" ++
        [parens (phrase "& self , f : & mut std :: fmt :: Formatter < '_ >")] ++
        phrase "-> std :: fmt :: Result" ++
        [braces
          (phrase "f . write_str" ++ [parens (phrase "self . as_str" ++ [parens []])])])]

/-! ## Files -/

/-- The name of the generator. -/
def generatorName : String := "prisma-select"

/-- The version of the generator. -/
def generatorVersion : String := "0.1.0"

/-- A file of source code with its header. -/
def file (tokens : List Token) : String :=
  "// @generated by " ++ generatorName ++ " v" ++ generatorVersion ++ ". Do not edit.\n\n" ++
    Token.renderAll tokens ++ "\n"

/-- The file with the source of a schema. -/
def schemaFile (schema : Schema) : Except SchemaFault String := do
  let variants ← variants schema
  return file (schemaFunction schema ++ enumeration variants)

/-- The file that makes the declarations of the source of a schema available. -/
def moduleFile : String :=
  file (phrase "mod schema ; pub use self :: schema ::" ++ [braces (phrase "schema , ModelName")] ++
    [.plain ";"])

end FieldProjection.Source
