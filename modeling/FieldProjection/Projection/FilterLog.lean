import FieldProjection.Log
import FieldProjection.Projection.Filter

/-!
# What filtering reports

Every requested field that does not reach the projection is reported once, in the order of the
selection and after what is reported about the fields below it. A type name that stands for no
model is reported where it is looked up, also when there is nothing to filter.
-/

namespace FieldProjection.Filter

/-- What filtering reports. -/
inductive Event where
  | unmatched (name : String)
  | excluded (model key : String)
  | undeclared (model key : String)
  | pruned (model key : String)
deriving DecidableEq

/-- The record of a report. -/
def Event.record : Event → LogRecord
  | .unmatched name =>
    ⟨.debug, "no model matches `" ++ name ++ "`; selection is not filtered"⟩
  | .excluded model key => ⟨.trace, "excluding `" ++ model ++ "." ++ key ++ "`"⟩
  | .undeclared model key =>
    ⟨.trace, "dropping `" ++ key ++ "`; not declared on `" ++ model ++ "`"⟩
  | .pruned model key => ⟨.trace, "pruning empty relation `" ++ model ++ "." ++ key ++ "`"⟩

variable (options : Options) (schema : Schema) (layout : Layout)

mutual

/-- What is reported when a node is filtered. -/
def events (name : String) : Json → List Event
  | .object members =>
    match schema.resolve? name with
    | none => [.unmatched name]
    | some (declared, model) =>
      match layout with
      | .flat =>
        ofFields declared model (options.excludesFor name declared members) members
      | .wrapped => ofSelectMember name declared model members
  | _ => if (schema.resolve? name).isNone then [.unmatched name] else []

/-- What is reported about a wrapped node, given its members. -/
def ofSelectMember (name declared : String) (model : Model) : List (String × Json) → List Event
  | [] => []
  | (key, value) :: rest =>
    if key = Layout.selectKey then ofSelected name declared model value
    else ofSelectMember name declared model rest

/-- What is reported about the object with the selection of a node. -/
def ofSelected (name declared : String) (model : Model) : Json → List Event
  | .object selection =>
    ofFields declared model (options.excludesFor name declared selection) selection
  | _ => []

/-- What is reported about the requested fields of a model. -/
def ofFields (declared : String) (model : Model) (excluded : List String) :
    List (String × Json) → List Event
  | [] => []
  | (key, value) :: rest =>
    let below :=
      if excluded.contains key ∨ key = countKey then []
      else
        match model.field? key with
        | some ⟨.relation, target⟩ => events target value
        | _ => []
    let own :=
      match outcome options schema layout model excluded key value with
      | .kept _ => []
      | .excluded => [.excluded declared key]
      | .undeclared => [.undeclared declared key]
      | .pruned => [.pruned declared key]
    below ++ own ++ ofFields declared model excluded rest

end

end FieldProjection.Filter
