import FieldProjection.Json.Basic
import FieldProjection.Schema.Basic

/-!
# Options of a projection

The schema against which selections are filtered, and for single models the fields that are always
selected and those that never are. Both are either fixed or computed from the selection that was
requested for the model. They are looked up by the name under which the model was asked for, and
then by the name under which it is declared.
-/

namespace FieldProjection

/-- The selected fields of a model: each with `true` or with the selection below it. -/
abbrev Selection := List (String × Json)

/-- A fixed value, or one computed from the requested selection. -/
inductive FieldSpec (α : Type) where
  | fixed (value : α)
  | computed (rule : Selection → α)

/-- The value for a requested selection. -/
def FieldSpec.resolve {α : Type} (spec : FieldSpec α) (selection : Selection) : α :=
  match spec with
  | .fixed value => value
  | .computed rule => rule selection

/-- Fields that are selected whether or not they were requested, each with its value. -/
abbrev DefaultFields := FieldSpec (OrderedMap Json)

/-- Selects each of the given fields. -/
def DefaultFields.ofNames (names : List String) : DefaultFields :=
  .fixed (OrderedMap.ofList (names.map fun name => (name, .bool true)))

/-- Names of fields that are not selected although they were requested. -/
abbrev ExcludedFields := FieldSpec (List String)

/-- What a projection goes by. Without a schema nothing is filtered. -/
structure Options where
  schema : Option Schema := none
  defaults : OrderedMap DefaultFields := .empty
  excludes : OrderedMap ExcludedFields := .empty

namespace Options

/-- Sets the default fields of a model. -/
def withDefaults (options : Options) (model : String) (spec : DefaultFields) : Options :=
  { options with defaults := options.defaults.insert model spec }

/-- Sets the excluded fields of a model. -/
def withExcludes (options : Options) (model : String) (spec : ExcludedFields) : Options :=
  { options with excludes := options.excludes.insert model spec }

/-- The entry for a model asked for under one name and declared under another. -/
def entryFor {α : Type} (map : OrderedMap α) (requested declared : String) : Option α :=
  (map.find? requested).or (map.find? declared)

/-- The default fields of a model for a requested selection, none unless they are set. -/
def defaultsFor (options : Options) (requested declared : String) (selection : Selection) :
    OrderedMap Json :=
  ((entryFor options.defaults requested declared).map (·.resolve selection)).getD .empty

/-- The excluded fields of a model for a requested selection, none unless they are set. -/
def excludesFor (options : Options) (requested declared : String) (selection : Selection) :
    List String :=
  ((entryFor options.excludes requested declared).map (·.resolve selection)).getD []

end Options

end FieldProjection
