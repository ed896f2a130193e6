import FieldProjection.Projection.Options

/-!
# The two layouts of a projection

A projection names the fields to fetch. Usually the selection of a node stands under `select`,
beside the arguments of the node; the results of aggregations are flat, and a node is its own
selection.
-/

namespace FieldProjection

/-- Where the selection of a node stands. -/
inductive Layout where
  | wrapped
  | flat
deriving DecidableEq

namespace Layout

/-- The name under which a wrapped selection stands. -/
def selectKey : String := "select"

/-- The selection of a node, if it has one. -/
def selection? : Layout → Json → Option Selection
  | .flat, node => node.members?
  | .wrapped, node => (node.find? selectKey).bind Json.members?

/-- The selection of a node, empty if it has none. -/
def selectionOf (layout : Layout) (node : Json) : Selection :=
  (layout.selection? node).getD []

/-- A node with a selection and nothing else. -/
def node : Layout → Selection → Json
  | .flat, selection => .object selection
  | .wrapped, selection => .object [(selectKey, .object selection)]

/-- A node with its selection replaced. -/
def replace : Layout → Selection → List (String × Json) → Json
  | .flat, selection, _ => .object selection
  | .wrapped, selection, members =>
    .object (Entries.insert selectKey (.object selection) members)

/-- What a node selects under a name. -/
def select? (layout : Layout) (node : Json) (key : String) : Option Json :=
  (layout.selection? node).bind (Entries.find? key)

/-- What is selected at a path of names below a node. -/
def selectPath? (layout : Layout) : Json → List String → Option Json
  | node, [] => some node
  | node, key :: rest => (layout.select? node key).bind fun inner => layout.selectPath? inner rest

/-- A path in two parts is followed one part after the other. -/
theorem selectPath?_append (layout : Layout) (node : Json) (first second : List String) :
    layout.selectPath? node (first ++ second) =
      (layout.selectPath? node first).bind fun inner => layout.selectPath? inner second := by
  induction first generalizing node with
  | nil => simp [selectPath?]
  | cons key rest ih =>
    cases h : layout.select? node key with
    | none => simp [selectPath?, h]
    | some inner => simp [selectPath?, h, ih]

/-- Whether a node selects anything. -/
def hasSelection (layout : Layout) (node : Json) : Bool :=
  !(layout.selectionOf node).isEmpty

/-- A node made of a selection has that selection. -/
@[simp] theorem selection?_node (layout : Layout) (selection : Selection) :
    layout.selection? (layout.node selection) = some selection := by
  cases layout <;> simp [node, selection?, Json.members?, Json.find?, Entries.find?]

/-- A node whose selection was replaced has the new one. -/
@[simp] theorem selection?_replace (layout : Layout) (selection : Selection)
    (members : List (String × Json)) :
    layout.selection? (layout.replace selection members) = some selection := by
  cases layout <;>
    simp [replace, selection?, Json.members?, Json.find?, Entries.find?_insert]

end Layout

end FieldProjection
