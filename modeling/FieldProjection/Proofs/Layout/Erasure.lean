import FieldProjection.Proofs.Filter.Grant
import FieldProjection.Proofs.Options.Fixed

/-!
# The flat layout is the wrapped one without its wrappers

`erase` removes the wrapper of every selection of a node. It turns the wrapped projection of a
request into the flat one, and it commutes with filtering and with following a path, so the two
layouts differ in nothing else: `aggregate_eq_erase`. Defaults have to be bare, because a default
value is put into a selection as it is, and specifications fixed, because a computed one is handed
a selection that still has its wrappers.
-/

namespace FieldProjection

namespace Layout

mutual
/-- A node without the wrappers of its selection and of the selections below. -/
def erase : Json → Json
  | .object members => .object (eraseMembers members)
  | value => value

/-- The flat selection of a wrapped node, given the members of the node. -/
def eraseMembers : List (String × Json) → Selection
  | [] => []
  | (key, value) :: rest => if key = selectKey then eraseSelected value else eraseMembers rest

/-- The flat selection of a wrapped node, given the object with its selection. -/
def eraseSelected : Json → Selection
  | .object selection => eraseFields selection
  | _ => []

/-- The fields of a selection with the wrappers below them removed. -/
def eraseFields : List (String × Json) → Selection
  | [] => []
  | (key, value) :: rest => (key, erase value) :: eraseFields rest
end

/-- Erasure changes the values of a selection. -/
theorem eraseFields_eq_mapValues (selection : Selection) :
    eraseFields selection = Entries.mapValues erase selection := by
  induction selection with
  | nil => rfl
  | cons entry rest ih =>
      obtain ⟨key, value⟩ := entry
      rw [eraseFields, ih, Entries.mapValues_cons]

/-- The members of a node are erased to its selection. -/
theorem eraseMembers_eq_mapValues (members : List (String × Json)) :
    eraseMembers members =
      Entries.mapValues erase (wrapped.selectionOf (.object members)) := by
  induction members with
  | nil => rfl
  | cons entry rest ih =>
      obtain ⟨key, value⟩ := entry
      by_cases hkey : key = selectKey
      · cases value <;>
          simp [eraseMembers, eraseSelected, eraseFields_eq_mapValues, selectionOf, selection?,
            Json.find?, Json.members?, Entries.find?, hkey]
      · rw [eraseMembers, if_neg hkey, ih]
        simp [selectionOf, selection?, Json.find?, Json.members?, Entries.find?, hkey]

/-- A node is erased to its selection. -/
theorem erase_object (members : List (String × Json)) :
    erase (.object members) =
      .object (Entries.mapValues erase (wrapped.selectionOf (.object members))) := by
  rw [erase, eraseMembers_eq_mapValues]

/-- Values that are no objects are not changed. -/
theorem erase_of_members?_eq_none {value : Json} (h : value.members? = none) :
    erase value = value := by
  cases value with
  | object members => simp [Json.members?] at h
  | null | bool _ | number _ | string _ | array _ => rfl

/-- A node made of a selection is erased to the node of the erased selection. -/
theorem erase_node (selection : Selection) :
    erase (wrapped.node selection) = flat.node (Entries.mapValues erase selection) := by
  show erase (.object [(selectKey, .object selection)]) = _
  rw [erase_object]
  rfl

/-- A node with a replaced selection is erased to the selection. -/
theorem erase_replace (selection : Selection) (members : List (String × Json)) :
    erase (wrapped.replace selection members) =
      .object (Entries.mapValues erase selection) := by
  have hselection := selection?_replace wrapped selection members
  rw [replace] at hselection ⊢
  rw [erase_object, selectionOf, hselection, Option.getD_some]

/-- What an erased node selects is what the node selects, erased. -/
theorem selectionOf_erase (node : Json) :
    flat.selectionOf (erase node) = Entries.mapValues erase (wrapped.selectionOf node) := by
  cases hmembers : node.members? with
  | none =>
      rw [erase_of_members?_eq_none hmembers, selectionOf_of_members?_eq_none hmembers,
        selectionOf_of_members?_eq_none hmembers, Entries.mapValues_nil]
  | some members =>
      obtain rfl := Json.members?_eq_some_iff.mp hmembers
      rw [erase_object, selectionOf, selection?, Json.members?, Option.getD_some]

/-- Erasure neither empties a selection nor fills it. -/
theorem hasSelection_erase (node : Json) :
    flat.hasSelection (erase node) = wrapped.hasSelection node := by
  rw [hasSelection, hasSelection, selectionOf_erase]
  cases wrapped.selectionOf node <;> rfl

/-- Following a path and erasing can be exchanged. -/
theorem selectPath?_erase (node : Json) (names : List String) :
    flat.selectPath? (erase node) names = (wrapped.selectPath? node names).map erase := by
  induction names generalizing node with
  | nil => rfl
  | cons name rest ih =>
      rw [selectPath?, selectPath?, select?_eq_find?, select?_eq_find?, selectionOf_erase,
        Entries.find?_mapValues]
      cases Entries.find? name (wrapped.selectionOf node) with
      | none => rfl
      | some inner => exact ih inner

end Layout

/-! ## The projection of a request -/

namespace Projection

open Layout (erase)

/-- The flat selection below a field is the erased one if that holds of its children. -/
theorem selection_flat_of_children {field : ResolvedField}
    (h : ∀ child ∈ field.children, value .flat child = erase (value .wrapped child)) :
    selection .flat field = Entries.mapValues erase (selection .wrapped field) := by
  have hchildren : (field.children.map fun child => (child.name, value .flat child)) =
      Entries.mapValues erase
        (field.children.map fun child => (child.name, value .wrapped child)) := by
    rw [Entries.mapValues, List.map_map]
    refine List.map_congr_left fun child hchild => ?_
    rw [h child hchild]
    rfl
  rw [selection_eq_ofList, selection_eq_ofList, hchildren, Entries.ofList, Entries.ofList,
    Entries.mapValues_insertAll, Entries.mapValues_nil]

/-- The flat projection of a field is the wrapped one, erased. -/
theorem value_flat (field : ResolvedField) :
    value .flat field = erase (value .wrapped field) := by
  have hselection := selection_flat_of_children fun child (_ : child ∈ field.children) =>
    value_flat child
  rw [value_eq, value_eq]
  cases field.isLeaf with
  | true => rfl
  | false =>
      rw [if_neg Bool.false_ne_true, if_neg Bool.false_ne_true, Layout.erase_node, hselection]
termination_by sizeOf field
decreasing_by exact ResolvedField.sizeOf_lt_of_mem_children ‹_›

/-- The flat projection of a request is the wrapped one, erased: it has no arguments. -/
theorem root_flat (field : ResolvedField) : root .flat field = erase (root .wrapped field) := by
  have hwrapped := selectionOf_root .wrapped field
  rw [root] at hwrapped ⊢
  rw [root, Layout.erase_object, hwrapped, selection_flat_of_children fun child _ =>
    value_flat child]

end Projection

/-! ## Filtering -/

namespace Filter

open Layout (erase)

variable {options : Options} {schema : Schema}

/-- Whether a relation is pruned does not depend on the layout. -/
theorem ofNode_erase (node : Json) :
    (Outcome.ofNode .flat (erase node)).value? =
      (Outcome.ofNode .wrapped node).value?.map erase := by
  by_cases htrue : node = .bool true
  · rw [htrue]
    rfl
  · have herase : erase node ≠ .bool true := by
      cases node with
      | object members => simp [erase]
      | null | bool _ | number _ | string _ | array _ => exact htrue
    rw [ofNode_of_ne_true herase, ofNode_of_ne_true htrue, Layout.hasSelection_erase]
    split <;> rfl

/-- The outcome of a field is the same in both layouts if filtering below it is. -/
theorem outcome_erase (model : Model) (excluded : List String) (key : String) {value : Json}
    (h : ∀ target, node options schema .flat target (erase value) =
      erase (node options schema .wrapped target value)) :
    (outcome options schema .flat model excluded key (erase value)).value? =
      (outcome options schema .wrapped model excluded key value).value?.map erase := by
  unfold outcome
  -- the tests look at the name only, except that a relation is filtered below
  by_cases hexcluded : excluded.contains key = true
  · rw [if_pos hexcluded, if_pos hexcluded]
    rfl
  · rw [if_neg hexcluded, if_neg hexcluded]
    by_cases hcount : key = countKey
    · rw [if_pos hcount, if_pos hcount]
      rfl
    · rw [if_neg hcount, if_neg hcount]
      cases model.field? key with
      | none => rfl
      | some field =>
          obtain ⟨kind, target⟩ := field
          cases kind with
          | relation =>
              show (Outcome.ofNode .flat (node options schema .flat target (erase value))).value? =
                (Outcome.ofNode .wrapped (node options schema .wrapped target value)).value?.map
                  erase
              rw [h target, ofNode_erase]
          | scalar | enumeration => rfl

/-- The filtered selection is the same in both layouts if filtering below it is. -/
theorem filtered_erase (hfixed : options.IsFixed) (hbare : options.DefaultsBare)
    (name declared : String) (model : Model) {selection : Selection}
    (h : ∀ key value, (key, value) ∈ selection → ∀ target,
      node options schema .flat target (erase value) =
        erase (node options schema .wrapped target value)) :
    filtered options schema .flat name declared model (Entries.mapValues erase selection) =
      Entries.mapValues erase
        (filtered options schema .wrapped name declared model selection) := by
  -- the defaults have no wrappers, and like the excluded fields they do not look at the selection
  have hdefaults : Entries.mapValues erase
      (options.defaultsFor name declared selection).entries =
        (options.defaultsFor name declared selection).entries := by
    refine Entries.mapValues_eq_self fun field hmem => ?_
    rw [hbare.eq_true name declared selection hmem]
    rfl
  rw [filtered_eq_insertAll, filtered_eq_insertAll, Entries.mapValues_insertAll, hdefaults,
    hfixed.defaultsFor_eq name declared _ selection,
    hfixed.excludesFor_eq name declared _ selection]
  congr 1
  exact Entries.filterMapValues_mapValues erase fun key value hmem =>
    outcome_erase model _ key (h key value hmem)

/-- Filtering and erasing can be exchanged. -/
theorem node_erase (hfixed : options.IsFixed) (hbare : options.DefaultsBare) (name : String)
    (value : Json) :
    node options schema .flat name (erase value) =
      erase (node options schema .wrapped name value) := by
  -- both filters walk the selections of the wrapped node
  induction name, value using level_induction schema .wrapped with
  | other name value hmembers =>
      rw [Layout.erase_of_members?_eq_none hmembers, node_of_members?_eq_none hmembers,
        node_of_members?_eq_none hmembers, Layout.erase_of_members?_eq_none hmembers]
  | unknown name value hresolve =>
      rw [node_of_unresolved options schema _ hresolve,
        node_of_unresolved options schema _ hresolve]
  | level name declared model members hresolve ih =>
      have hfiltered := filtered_erase hfixed hbare name declared model ih
      -- the arguments beside the selection go with the wrapper
      rw [node_object options schema _ hresolve, Layout.erase_replace, ← hfiltered,
        Layout.erase_object, node_object options schema _ hresolve]
      rfl

end Filter

/-! ## Projectors -/

namespace Projector

/-- With fixed options and bare defaults, the projections of an aggregation are those of any other
request for the same field, with the wrappers of all selections erased. -/
theorem aggregate_eq_erase {aggregate plain : Projector}
    (haggregate : aggregate.isAggregate = true) (hplain : plain.isAggregate = false)
    (hfield : aggregate.info.field = plain.info.field)
    (hoptions : aggregate.options = plain.options)
    (hfixed : plain.options.IsFixed) (hbare : plain.options.DefaultsBare) (name path : String) :
    aggregate.valueFor name = Layout.erase (plain.valueFor name) ∧
      aggregate.valueAt path = Layout.erase (plain.valueAt path) := by
  have hflat : aggregate.layout = .flat := by rw [layout, if_pos haggregate]
  have hwrapped : plain.layout = .wrapped := by
    rw [layout, hplain, if_neg Bool.false_ne_true]
  have hprojection : aggregate.projection = Layout.erase plain.projection := by
    rw [projection, projection, hflat, hwrapped, hfield, Projection.root_flat]
  constructor
  · rw [valueFor, valueFor, filter, filter, hoptions, hprojection, hflat, hwrapped]
    cases plain.options.schema with
    | none => rfl
    | some schema => exact Filter.node_erase hfixed hbare name _
  · rw [valueAt, valueAt, nodeAt?, nodeAt?, hprojection, hflat, hwrapped,
      Layout.selectPath?_erase]
    cases Layout.wrapped.selectPath? plain.projection (pathNames path) with
    | none => rfl
    | some inner => rfl

/-- The options of the example, with the identifiers of users selected by default. -/
def blogOptions : Options :=
  blogRequest.options.withDefaults "User" (.ofNames ["id"])

/-- The default fields of the example are bare. -/
theorem blogOptions_defaultsBare : blogOptions.DefaultsBare := by
  intro entry hentry selection field hfield
  obtain rfl := List.mem_singleton.mp hentry
  exact Options.eq_true_of_mem_ofNames hfield

/-- The example as an aggregation. -/
theorem aggregate_eq_erase_blogRequest :
    let aggregate : Projector := ⟨⟨"[AggregateUser!]!", blogRequest.info.field⟩, blogOptions⟩
    let plain : Projector := ⟨blogRequest.info, blogOptions⟩
    (aggregate.isAggregate = true ∧ plain.isAggregate = false) ∧
      blogOptions.IsFixed ∧ blogOptions.DefaultsBare ∧
      aggregate.valueFor "User" = Layout.erase (plain.valueFor "User") ∧
      aggregate.valueAt "posts.author" = Layout.erase (plain.valueAt "posts.author") := by
  intro aggregate plain
  have haggregate : aggregate.isAggregate = true := by decide +kernel
  have hplain : plain.isAggregate = false := by decide +kernel
  have hfixed : blogOptions.IsFixed := ⟨by decide, by decide⟩
  exact ⟨⟨haggregate, hplain⟩, hfixed, blogOptions_defaultsBare,
    aggregate_eq_erase haggregate hplain rfl rfl hfixed blogOptions_defaultsBare _ _⟩

end Projector

end FieldProjection
