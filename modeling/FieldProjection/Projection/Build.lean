import FieldProjection.Projection.Layout
import FieldProjection.ResolveInfo.Basic

/-!
# The projection of a request

Every requested field is selected under its own name, whatever its key in the response and the
type that it was requested for: a field without groups by `true`, any other by the node of its own
selections. Of several requests for one field the last one counts, at the place of the first. Only
the root passes on arguments, and of these only the ones that storage knows.
-/

namespace FieldProjection.Projection

/-- The arguments of the root that are passed on, in this order. -/
def forwardedNames : List String :=
  ["where", "orderBy", "skip", "cursor", "take", "distinct"]

/-- The arguments that are passed on, except for those that are null. -/
def forwarded (arguments : List (String × Json)) : List (String × Json) :=
  forwardedNames.filterMap fun name =>
    match Entries.find? name arguments with
    | none | some .null => none
    | some value => some (name, value)

mutual

/-- What is selected for a field below the root. -/
def value (layout : Layout) : ResolvedField → Json
  | ⟨_, _, _, groups⟩ =>
    if groups.isEmpty then .bool true else layout.node (addGroups layout [] groups)

/-- Adds the fields of some groups to a selection. -/
def addGroups (layout : Layout) (selection : Selection) :
    List (String × List (String × ResolvedField)) → Selection
  | [] => selection
  | (_, selected) :: rest => addGroups layout (addFields layout selection selected) rest

/-- Adds the fields of one group to a selection. -/
def addFields (layout : Layout) (selection : Selection) :
    List (String × ResolvedField) → Selection
  | [] => selection
  | (_, child) :: rest =>
    addFields layout (Entries.insert child.name (value layout child) selection) rest

end

/-- The selection made below a field. -/
def selection (layout : Layout) (field : ResolvedField) : Selection :=
  addGroups layout [] field.groups

/-- The projection of the root, with the arguments that are passed on unless it is flat. -/
def root (layout : Layout) (field : ResolvedField) : Json :=
  match layout with
  | .flat => .object (selection .flat field)
  | .wrapped =>
    .object ((Layout.selectKey, .object (selection .wrapped field)) :: forwarded field.arguments)

/-- A leaf is selected by `true`, any other field by the node of its selection. -/
theorem value_eq (layout : Layout) (field : ResolvedField) :
    value layout field =
      if field.isLeaf then .bool true else layout.node (selection layout field) := by
  cases field
  rfl

/-- Adding a group adds its fields one after the other. -/
theorem addFields_eq_foldl (layout : Layout) (start : Selection)
    (selected : List (String × ResolvedField)) :
    addFields layout start selected =
      selected.foldl (fun result entry =>
        Entries.insert entry.2.name (value layout entry.2) result) start := by
  induction selected generalizing start with
  | nil => simp [addFields]
  | cons entry rest ih => simp [addFields, ih]

/-- Adding groups adds the fields of all of them one after the other. -/
theorem addGroups_eq_foldl (layout : Layout) (start : Selection)
    (groups : List (String × List (String × ResolvedField))) :
    addGroups layout start groups =
      (groups.flatMap fun group => group.2.map Prod.snd).foldl (fun result child =>
        Entries.insert child.name (value layout child) result) start := by
  induction groups generalizing start with
  | nil => simp [addGroups]
  | cons group rest ih =>
    obtain ⟨type, selected⟩ := group
    simp [addGroups, ih, addFields_eq_foldl, List.foldl_append, List.foldl_map]

/-- The selection below a field holds its children one after the other. -/
theorem selection_eq_foldl (layout : Layout) (field : ResolvedField) :
    selection layout field =
      field.children.foldl (fun result child =>
        Entries.insert child.name (value layout child) result) [] :=
  addGroups_eq_foldl layout [] field.groups

end FieldProjection.Projection
