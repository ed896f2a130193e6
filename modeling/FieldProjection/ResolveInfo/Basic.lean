import FieldProjection.Json.Basic
import FieldProjection.Text.Search

/-!
# What a resolver knows

A resolver is asked for a field of some return type. The field carries the selections made below
it, grouped by the type that they apply to and named by their key in the response, so the
selections form a tree. Within a group a key occurs once, and so does a type within a field.
-/

namespace FieldProjection

/-- A requested field with the selections below it. -/
structure ResolvedField where
  name : String
  /-- The key in the response, empty when it is the name. -/
  label : String
  arguments : List (String × Json)
  groups : List (String × List (String × ResolvedField))

namespace ResolvedField

/-- A field without arguments and selections, whose key is its name. -/
def ofName (name : String) : ResolvedField :=
  ⟨name, name, [], []⟩

/-- Sets the key in the response. -/
def withLabel (field : ResolvedField) (label : String) : ResolvedField :=
  { field with label }

/-- Passes an argument. -/
def withArgument (field : ResolvedField) (name : String) (value : Json) : ResolvedField :=
  { field with arguments := Entries.insert name value field.arguments }

/-- The key of a field in the response. -/
def responseKey (field : ResolvedField) : String :=
  if field.label = "" then field.name else field.label

/-- Selects fields of a type, after those that are already selected. -/
def select (field : ResolvedField) (type : String) (selected : List ResolvedField) :
    ResolvedField :=
  let group := (Entries.find? type field.groups).getD []
  let extended := Entries.insertAll group (selected.map fun child => (child.responseKey, child))
  { field with groups := Entries.insert type extended field.groups }

/-- The selected fields of all types, in order. -/
def children (field : ResolvedField) : List ResolvedField :=
  field.groups.flatMap fun group => group.2.map Prod.snd

/-- Whether there is no group of selections, not even an empty one. -/
def isLeaf (field : ResolvedField) : Bool :=
  field.groups.isEmpty

end ResolvedField

/-- The field that a resolver is asked for, and the type that it returns. -/
structure ResolveInfo where
  returnType : String
  field : ResolvedField

/-- The name of a type without the marks for lists and for values that may not be null. -/
def namedType (type : String) : String :=
  String.ofList (type.toList.filter fun char => char ∉ ['[', ']', '!'])

/-- The name of the return type. -/
def ResolveInfo.rootType (info : ResolveInfo) : String :=
  namedType info.returnType

end FieldProjection
