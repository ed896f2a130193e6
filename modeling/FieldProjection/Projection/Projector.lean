import FieldProjection.Projection.Build
import FieldProjection.Projection.FilterLog
import FieldProjection.Projection.Merge

/-!
# Projecting a request

A projector turns what a resolver knows into a projection for storage: of the whole request,
filtered against the model of its return type or another one, or of the field at a path. Whether
projections are flat is told by the return type. Each function that filters has a companion that
gives what is reported meanwhile.
-/

namespace FieldProjection

/-- A request with the options of its projection. -/
structure Projector where
  info : ResolveInfo
  options : Options

namespace Projector

/-- What the name of a type contains if its values are the results of an aggregation. -/
def aggregateMark : List Char := "Aggregate".toList

/-- Whether the request is for the result of an aggregation. -/
def isAggregate (projector : Projector) : Bool :=
  Text.occurs aggregateMark projector.info.rootType.toList

/-- The layout of the projections. -/
def layout (projector : Projector) : Layout :=
  if projector.isAggregate then .flat else .wrapped

/-- The projection of the whole request before filtering. -/
def projection (projector : Projector) : Json :=
  Projection.root projector.layout projector.info.field

/-- A node filtered against the model that a type name stands for, if there is a schema. -/
def filter (projector : Projector) (name : String) (node : Json) : Json :=
  match projector.options.schema with
  | none => node
  | some schema => Filter.node projector.options schema projector.layout name node

/-- What is reported when a node is filtered. -/
def filterEvents (projector : Projector) (name : String) (node : Json) : List Filter.Event :=
  match projector.options.schema with
  | none => []
  | some schema => Filter.events projector.options schema projector.layout name node

/-- The projection of the whole request, filtered against the model of a type name. -/
def valueFor (projector : Projector) (name : String) : Json :=
  projector.filter name projector.projection

/-- What is reported by `valueFor`. -/
def eventsFor (projector : Projector) (name : String) : List Filter.Event :=
  projector.filterEvents name projector.projection

/-- The projection of the whole request, filtered against the model of its return type. -/
def value (projector : Projector) : Json :=
  projector.valueFor projector.info.rootType

/-- The names of a path, which are separated by dots. -/
def pathNames (path : String) : List String :=
  (Text.split '.' path.toList).map String.ofList

/-- The node at a path below the root, before filtering. -/
def nodeAt? (projector : Projector) (path : String) : Option Json :=
  projector.layout.selectPath? projector.projection (pathNames path)

/-- The projection of the field at a path, before filtering; empty if it was not requested. -/
def valueAt (projector : Projector) (path : String) : Json :=
  (projector.nodeAt? path).getD .emptyObject

/-- The projection of the field at a path, filtered and overridden by the members of an object;
empty if it was not requested. -/
def valueAtWith (projector : Projector) (path name : String) (override : Json) : Json :=
  match projector.nodeAt? path with
  | none => .emptyObject
  | some node => (projector.filter name node).merge override

/-- What is reported by `valueAtWith`. -/
def eventsAtWith (projector : Projector) (path name : String) : List Filter.Event :=
  match projector.nodeAt? path with
  | none => []
  | some node => projector.filterEvents name node

end Projector

end FieldProjection
