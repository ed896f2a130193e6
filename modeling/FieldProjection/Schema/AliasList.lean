import FieldProjection.Schema.Field
import FieldProjection.Text.Search

/-!
# Aliases of a model

A comment can give its model further names by an annotation `@PrismaSelect.map([First, Second])`.
The first annotation that is closed on its own line counts, and no other.
-/

namespace FieldProjection

/-- The list of an annotation, as the text between its brackets. -/
structure AliasList where
  text : List Char
deriving DecidableEq

namespace AliasList

/-- The start of an annotation. -/
def opening : List Char := "@PrismaSelect.map([".toList

/-- The end of an annotation. -/
def closing : List Char := "])".toList

/-- The list of an annotation whose start was just read, if it is closed on its line. -/
def closed? (rest : List Char) : Option AliasList :=
  (Text.before? closing (rest.takeWhile (· ≠ '\n'))).map AliasList.mk

/-- The list of the first annotation of a text that is closed on its line. -/
def find? : List Char → Option AliasList
  | [] => none
  | char :: rest =>
    match (opening.isPrefixOf? (char :: rest)).bind closed? with
    | some aliases => some aliases
    | none => find? rest

/-- The list of the first annotation of a comment that is closed on its line. -/
def parse? (documentation : String) : Option AliasList :=
  find? documentation.toList

/-- The names of a list, without the blanks around them. Empty ones are left out. -/
def names (aliases : AliasList) : List String :=
  (((Text.split ',' aliases.text).map Text.trim).filter (· ≠ [])).map String.ofList

/-- Whether a name is in the list. -/
def contains (aliases : AliasList) (name : String) : Bool :=
  aliases.names.contains name

end AliasList

namespace Model

/-- The aliases that a model's comment gives. -/
def aliases? (model : Model) : Option AliasList :=
  model.documentation.bind AliasList.parse?

/-- Whether the comment makes a name an alias of the model. -/
def isMappedTo (model : Model) (name : String) : Bool :=
  model.aliases?.any (·.contains name)

end Model

end FieldProjection
