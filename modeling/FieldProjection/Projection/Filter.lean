import FieldProjection.Projection.Layout

/-!
# Filtering against a schema

A node is filtered against the model that a type name stands for. The default fields of the model
come first, then every requested field that has an outcome to keep: a relation with what remains
of its own node, `_count` unchanged, any other declared field as `true`. Nodes of unknown types and
values that are no objects stay as they are.

`node` is structural in the node that it filters, so the relations of a schema may lead in circles.
Its four functions share that structure; `node_object` says in one equation what they do.
-/

namespace FieldProjection.Filter

/-- The field that is selected without being declared: it counts related records. -/
def countKey : String := "_count"

/-- What becomes of a requested field. -/
inductive Outcome where
  | kept (value : Json)
  | excluded
  | undeclared
  | pruned

namespace Outcome

/-- The value of a field that is kept. -/
def value? : Outcome → Option Json
  | .kept value => some value
  | _ => none

/-- A relation is kept with what remains of its node, unless nothing is selected there. -/
def ofNode (layout : Layout) (node : Json) : Outcome :=
  match node with
  | .bool true => .kept node
  | _ => if layout.hasSelection node then .kept node else .pruned

end Outcome

/-- The default fields, overwritten and extended by the requested fields that are kept. -/
def assemble (defaults : OrderedMap Json) (outcomes : List (String × Outcome)) : Selection :=
  Entries.insertAll defaults.entries
    (outcomes.filterMap fun entry => entry.2.value?.map fun value => (entry.1, value))

variable (options : Options) (schema : Schema) (layout : Layout)

mutual

/-- A node filtered against the model that a type name stands for. -/
def node (name : String) : Json → Json
  | .object members =>
    match schema.resolve? name with
    | none => .object members
    | some (declared, model) =>
      match layout with
      | .flat =>
        .object (assemble (options.defaultsFor name declared members)
          (outcomes model (options.excludesFor name declared members) members))
      | .wrapped => Layout.wrapped.replace (ofSelect name declared model members) members
  | value => value

/-- The filtered selection of a wrapped node, given the members of the node. -/
def ofSelect (name declared : String) (model : Model) : List (String × Json) → Selection
  | [] => assemble (options.defaultsFor name declared []) []
  | (key, value) :: rest =>
    if key = Layout.selectKey then ofSelection name declared model value
    else ofSelect name declared model rest

/-- The filtered selection of a node, given the object with its selection. -/
def ofSelection (name declared : String) (model : Model) : Json → Selection
  | .object selection =>
    assemble (options.defaultsFor name declared selection)
      (outcomes model (options.excludesFor name declared selection) selection)
  | _ => assemble (options.defaultsFor name declared []) []

/-- What becomes of the requested fields of a model. -/
def outcomes (model : Model) (excluded : List String) :
    List (String × Json) → List (String × Outcome)
  | [] => []
  | (key, value) :: rest =>
    let outcome :=
      if excluded.contains key then .excluded
      else if key = countKey then .kept value
      else
        match model.field? key with
        | none => .undeclared
        | some ⟨.relation, target⟩ => .ofNode layout (node target value)
        | some _ => .kept (.bool true)
    (key, outcome) :: outcomes model excluded rest

end

/-- What becomes of one requested field of a model. -/
def outcome (model : Model) (excluded : List String) (key : String) (value : Json) : Outcome :=
  if excluded.contains key then .excluded
  else if key = countKey then .kept value
  else
    match model.field? key with
    | none => .undeclared
    | some ⟨.relation, target⟩ => .ofNode layout (node options schema layout target value)
    | some _ => .kept (.bool true)

/-- The outcomes are those of the single fields. -/
theorem outcomes_eq_map (model : Model) (excluded : List String) (selection : Selection) :
    outcomes options schema layout model excluded selection =
      selection.map fun entry =>
        (entry.1, outcome options schema layout model excluded entry.1 entry.2) := by
  induction selection with
  | nil => simp [outcomes]
  | cons entry rest ih =>
    obtain ⟨key, value⟩ := entry
    simp only [outcomes, ih, List.map_cons, outcome]

/-- The filtered selection of a requested selection. -/
def filtered (name declared : String) (model : Model) (selection : Selection) : Selection :=
  assemble (options.defaultsFor name declared selection)
    (outcomes options schema layout model (options.excludesFor name declared selection) selection)

/-- The filtered selection of a wrapped node is that of the selection under `select`. -/
theorem ofSelect_eq (name declared : String) (model : Model) (members : List (String × Json)) :
    ofSelect options schema layout name declared model members =
      filtered options schema layout name declared model
        (Layout.wrapped.selectionOf (.object members)) := by
  induction members with
  | nil => simp [ofSelect, filtered, outcomes, Layout.selectionOf, Layout.selection?, Json.find?,
      Json.members?]
  | cons entry rest ih =>
    obtain ⟨key, value⟩ := entry
    by_cases h : key = Layout.selectKey
    · cases value <;>
        simp [ofSelect, ofSelection, filtered, outcomes, Layout.selectionOf, Layout.selection?,
          Json.find?, Json.members?, Entries.find?, h]
    · rw [ofSelect, if_neg h, ih]
      simp [Layout.selectionOf, Layout.selection?, Json.find?, Json.members?, Entries.find?, h]

/-- A node of a known type is filtered by filtering its selection. -/
theorem node_object {name declared : String} {model : Model}
    (h : schema.resolve? name = some (declared, model)) (members : List (String × Json)) :
    node options schema layout name (.object members) =
      layout.replace (filtered options schema layout name declared model
        (layout.selectionOf (.object members))) members := by
  cases layout with
  | flat => simp [node, h, filtered, Layout.replace, Layout.selectionOf, Layout.selection?,
      Json.members?]
  | wrapped => simp [node, h, ofSelect_eq]

/-- A node of an unknown type stays as it is. -/
theorem node_of_unresolved {name : String} (h : schema.resolve? name = none) (value : Json) :
    node options schema layout name value = value := by
  cases value <;> simp [node, h]

end FieldProjection.Filter
