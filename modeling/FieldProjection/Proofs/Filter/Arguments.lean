import FieldProjection.Proofs.Filter.Settled
import FieldProjection.Proofs.Layout.Erasure
import FieldProjection.Proofs.Request.Skeleton

/-!
# Arguments stay at the root

Of all that a request carries besides names, only six arguments of the root reach the projection,
in a fixed order behind the selection, and filtering leaves them where they are. Below the root a
value is plain: it is `true`, or a node that has a selection of plain values and nothing else. With
bare defaults, filtering keeps plain values plain (`Filter.plain_node`). The results of aggregations
are plain throughout, and no argument changes them: `Projector.valueFor_confines_arguments`.
-/

namespace FieldProjection

namespace Layout

/-- A value that selects and does nothing else: `true`, or a node that holds just a selection of
such values. -/
inductive Plain (layout : Layout) : Json → Prop where
  | bare : Plain layout (.bool true)
  | node {value : Json} (selection : Selection) :
      value = layout.node selection →
      (∀ key field, (key, field) ∈ selection → Plain layout field) →
      Plain layout value

variable {layout : Layout}

/-- A node that holds just a selection holds just the one that takes its place. -/
theorem replace_eq_node {members : List (String × Json)} {selection : Selection}
    (h : .object members = layout.node selection) (new : Selection) :
    layout.replace new members = layout.node new := by
  cases layout with
  | flat => rfl
  | wrapped =>
      obtain rfl := Json.object.inj h
      simp [replace, node, Entries.insert]

end Layout

namespace ResolvedField

/-- Some entries are the arguments that a field passes on as a root: six names in their order, each
with the value that it has, unless it has none or null. -/
structure PassesOn (field : ResolvedField) (passed : Entries Json) : Prop where
  order : (Entries.keys passed).Sublist ["where", "orderBy", "skip", "cursor", "take", "distinct"]
  mem_iff : ∀ name value, (name, value) ∈ passed ↔
    name ∈ ["where", "orderBy", "skip", "cursor", "take", "distinct"] ∧
      Entries.find? name field.arguments = some value ∧ value ≠ .null

mutual
/-- A field without its arguments and those of the fields below it. -/
def withoutArguments : ResolvedField → ResolvedField
  | ⟨name, label, _, groups⟩ => ⟨name, label, [], groupsWithoutArguments groups⟩

/-- The fields of some groups without arguments. -/
def groupsWithoutArguments :
    List (String × List (String × ResolvedField)) → List (String × List (String × ResolvedField))
  | [] => []
  | (type, selected) :: rest =>
    (type, selectedWithoutArguments selected) :: groupsWithoutArguments rest

/-- The fields of one group without arguments. -/
def selectedWithoutArguments : List (String × ResolvedField) → List (String × ResolvedField)
  | [] => []
  | (key, child) :: rest => (key, withoutArguments child) :: selectedWithoutArguments rest
end

mutual
/-- The skeleton of a field has no arguments to lose. -/
theorem skeleton_withoutArguments : ∀ field : ResolvedField,
    field.withoutArguments.skeleton = field.skeleton
  | ⟨name, label, arguments, groups⟩ => by
      rw [withoutArguments, skeleton, skeleton, groupSkeletons_withoutArguments groups]
      cases groups <;> rfl

/-- Nor have the skeletons of groups. -/
theorem groupSkeletons_withoutArguments :
    ∀ groups : List (String × List (String × ResolvedField)),
      groupSkeletons (groupsWithoutArguments groups) = groupSkeletons groups
  | [] => rfl
  | (type, selected) :: rest => by
      rw [groupsWithoutArguments, groupSkeletons, groupSkeletons,
        fieldSkeletons_withoutArguments selected, groupSkeletons_withoutArguments rest]

/-- Nor have the skeletons of one group. -/
theorem fieldSkeletons_withoutArguments : ∀ selected : List (String × ResolvedField),
    fieldSkeletons (selectedWithoutArguments selected) = fieldSkeletons selected
  | [] => rfl
  | (key, child) :: rest => by
      rw [selectedWithoutArguments, fieldSkeletons, fieldSkeletons,
        skeleton_withoutArguments child, fieldSkeletons_withoutArguments rest]
end

end ResolvedField

/-! ## The projection of a request -/

namespace Projection

variable {layout : Layout}

/-- What is selected for a field below the root is plain. -/
theorem plain_value (layout : Layout) (field : ResolvedField) :
    layout.Plain (value layout field) := by
  rw [value_eq]
  cases field.isLeaf with
  | true => exact .bare
  | false =>
      refine .node (selection layout field) rfl fun key json hmem => ?_
      obtain ⟨child, hchild, rfl⟩ := exists_child_of_mem_selection hmem
      exact plain_value layout child
termination_by sizeOf field
decreasing_by exact ResolvedField.sizeOf_lt_of_mem_children ‹_›

/-- What the root selects is plain. -/
theorem plain_of_mem_selection {field : ResolvedField} {key : String} {json : Json}
    (h : (key, json) ∈ selection layout field) : layout.Plain json := by
  obtain ⟨child, _, rfl⟩ := exists_child_of_mem_selection h
  exact plain_value layout child

/-- Names with the values that they are given stand in their order. -/
theorem keys_filterMap_sublist (value? : String → Option Json) (names : List String) :
    (Entries.keys (names.filterMap fun name =>
      (value? name).map fun value => (name, value))).Sublist names := by
  induction names with
  | nil => exact .slnil
  | cons name rest ih =>
      cases hvalue : value? name with
      | none => simpa [hvalue] using ih.cons name
      | some value => simpa [hvalue] using ih.cons_cons name

/-- The arguments that are forwarded are those that the field passes on. -/
theorem passesOn_forwarded (field : ResolvedField) :
    field.PassesOn (forwarded field.arguments) := by
  rw [forwarded_eq_filterMap]
  constructor
  · exact keys_filterMap_sublist field.passedOn? forwardedNames
  · intro name value
    rw [← ResolvedField.passedOn?_eq_some_iff, List.mem_filterMap]
    constructor
    · rintro ⟨other, hother, hentry⟩
      obtain ⟨found, hfound, hpair⟩ := Option.map_eq_some_iff.mp hentry
      obtain ⟨rfl, rfl⟩ := Prod.mk.inj hpair
      exact ⟨hother, hfound⟩
    · rintro ⟨hname, hvalue⟩
      exact ⟨name, hname, by rw [hvalue, Option.map_some]⟩

/-- The root has the selection that is made below it. -/
theorem selection?_root (layout : Layout) (field : ResolvedField) :
    layout.selection? (root layout field) = some (selection layout field) := by
  cases layout <;>
    simp [root, Layout.selection?, Json.find?, Json.members?, Entries.find?]

end Projection

/-! ## Filtering -/

namespace Filter

variable {options : Options} {schema : Schema} {layout : Layout}
variable {model : Model} {name declared key : String} {excluded : List String}
variable {requested kept value : Json} {selection : Selection}

/-- A field that is kept has a plain value, provided that the requested one and those below it are
plain. -/
theorem Keeps.plain (h : Keeps options schema layout model excluded key requested kept)
    (hrequested : layout.Plain requested)
    (hbelow : ∀ target, layout.Plain (node options schema layout target requested)) :
    layout.Plain kept := by
  cases h with
  | count => exact hrequested
  | column => exact .bare
  | relation target => exact hbelow target

/-- With bare defaults, the fields of a filtered selection are plain if the requested ones are and
stay so below. -/
theorem plain_of_mem_filtered (hbare : options.DefaultsBare)
    (hrequested : ∀ key asked, (key, asked) ∈ selection → layout.Plain asked)
    (hbelow : ∀ key asked, (key, asked) ∈ selection → ∀ target,
      layout.Plain (node options schema layout target asked))
    (hmem : (key, value) ∈ filtered options schema layout name declared model selection) :
    layout.Plain value := by
  rw [filtered_eq_insertAll] at hmem
  rcases Entries.mem_of_mem_insertAll hmem with hseeded | hkept
  · obtain rfl : value = .bool true := hbare.eq_true name declared selection hseeded
    exact .bare
  · obtain ⟨asked, hasked, houtcome⟩ := Entries.mem_filterMapValues.mp hkept
    exact (outcome_value?_eq_some_iff.mp houtcome).plain (hrequested key asked hasked)
      (hbelow key asked hasked)

/-- With bare defaults, a plain value stays plain. -/
theorem plain_node (hbare : options.DefaultsBare) (name : String) (value : Json)
    (h : layout.Plain value) : layout.Plain (node options schema layout name value) := by
  induction name, value using level_induction schema layout with
  | other name value hmembers => rwa [node_of_members?_eq_none hmembers]
  | unknown name value hresolve => rwa [node_of_unresolved options schema layout hresolve]
  | level name declared model members hresolve ih =>
      cases h with
      | node selection hnode hfields =>
          have hselection : layout.selectionOf (.object members) = selection := by
            rw [hnode, Layout.selectionOf, Layout.selection?_node, Option.getD_some]
          rw [hselection] at ih
          rw [node_object options schema layout hresolve, Layout.replace_eq_node hnode, hselection]
          refine .node _ rfl fun key value hmem => ?_
          refine plain_of_mem_filtered hbare hfields ?_ hmem
          exact fun key asked hasked target => ih key asked hasked target (hfields key asked hasked)

end Filter

/-! ## Projectors -/

namespace Projector

/-- The filtered projection of a request is the unfiltered one with its selection replaced, and with
bare defaults by a selection of plain values. -/
theorem exists_valueFor_eq_replace (projector : Projector)
    (hbare : projector.options.DefaultsBare) (name : String) :
    ∃ selection, (∀ key value, (key, value) ∈ selection → projector.layout.Plain value) ∧
      ∀ members, projector.projection = .object members →
        projector.valueFor name = projector.layout.replace selection members := by
  have hselection := Projection.selection?_root projector.layout projector.info.field
  rw [← projection] at hselection
  have hplain (key : String) (value : Json)
      (hmem : (key, value) ∈ Projection.selection projector.layout projector.info.field) :
      projector.layout.Plain value := Projection.plain_of_mem_selection hmem
  -- a projection that is not filtered has its own selection put in its place
  have hunfiltered : projector.valueFor name = projector.projection →
      ∃ selection, (∀ key value, (key, value) ∈ selection → projector.layout.Plain value) ∧
        ∀ members, projector.projection = .object members →
          projector.valueFor name = projector.layout.replace selection members := by
    intro hsame
    refine ⟨_, hplain, fun members hmembers => ?_⟩
    rw [hmembers] at hselection
    rw [hsame, hmembers, Layout.replace_eq_self hselection]
  cases hschema : projector.options.schema with
  | none =>
      apply hunfiltered
      rw [valueFor, filter, hschema]
  | some schema =>
      cases hresolve : schema.resolve? name with
      | none =>
          apply hunfiltered
          rw [valueFor_eq_node hschema, Filter.node_of_unresolved _ _ _ hresolve]
      | some found =>
          refine ⟨Filter.filtered projector.options schema projector.layout name found.1 found.2
            (projector.layout.selectionOf projector.projection), ?_, ?_⟩
          · intro key value hmem
            rw [Layout.selectionOf, hselection, Option.getD_some] at hmem
            refine Filter.plain_of_mem_filtered hbare hplain ?_ hmem
            exact fun key asked hasked target =>
              Filter.plain_node hbare target asked (hplain key asked hasked)
          · intro members hmembers
            rw [valueFor_eq_node hschema, hmembers, Filter.node_object _ _ _ hresolve]

/-- Requests that differ in arguments only have the same results as aggregations. -/
theorem valueFor_eq_of_withoutArguments_eq {projector : Projector}
    (haggregate : projector.isAggregate = true) (name : String) {other : ResolvedField}
    (h : other.withoutArguments = projector.info.field.withoutArguments) :
    (⟨⟨projector.info.returnType, other⟩, projector.options⟩ : Projector).valueFor name =
      projector.valueFor name := by
  have hskeleton : other.skeleton = projector.info.field.skeleton := by
    rw [← ResolvedField.skeleton_withoutArguments, h, ResolvedField.skeleton_withoutArguments]
  have hlayout : projector.layout = .flat := by rw [layout, if_pos haggregate]
  -- a flat root has no place for arguments
  have hroot : Projection.root projector.layout other =
      Projection.root projector.layout projector.info.field := by
    rw [hlayout, Projection.root, Projection.root, Projection.selection_eq_of_skeleton_eq hskeleton]
  exact congrArg (projector.filter name) hroot

/-- With bare defaults, whatever the filter does: the filtered projection of a request starts with
its selection, and behind it stand just the arguments that the root passes on. All that is selected
is plain, so below the root nothing but selections is left. The filtered projection of an
aggregation is nothing but a selection of plain values, and stays the same when any arguments of the
request are changed. -/
theorem valueFor_confines_arguments (projector : Projector)
    (hbare : projector.options.DefaultsBare) (name : String) :
    (projector.isAggregate = false → ∃ selection passed,
      projector.valueFor name = .object ((Layout.selectKey, .object selection) :: passed) ∧
        projector.info.field.PassesOn passed ∧
        ∀ key value, (key, value) ∈ selection → Layout.wrapped.Plain value) ∧
    (projector.isAggregate = true →
      (∃ selection, projector.valueFor name = .object selection ∧
        ∀ key value, (key, value) ∈ selection → Layout.flat.Plain value) ∧
      ∀ other : ResolvedField,
        other.withoutArguments = projector.info.field.withoutArguments →
        (⟨⟨projector.info.returnType, other⟩, projector.options⟩ : Projector).valueFor name =
          projector.valueFor name) := by
  obtain ⟨selection, hplain, hvalue⟩ := projector.exists_valueFor_eq_replace hbare name
  constructor
  · intro hplainRequest
    have hlayout : projector.layout = .wrapped := by
      rw [layout, hplainRequest, if_neg Bool.false_ne_true]
    rw [hlayout] at hplain hvalue
    refine ⟨selection, Projection.forwarded projector.info.field.arguments, ?_,
      Projection.passesOn_forwarded projector.info.field, hplain⟩
    rw [hvalue _ (by rw [projection, hlayout, Projection.root]), Layout.replace, Entries.insert,
      if_pos rfl]
  · intro haggregate
    have hlayout : projector.layout = .flat := by rw [layout, if_pos haggregate]
    rw [hlayout] at hplain hvalue
    constructor
    · refine ⟨selection, ?_, hplain⟩
      rw [hvalue _ (by rw [projection, hlayout, Projection.root]), Layout.replace]
    · exact fun other hother => valueFor_eq_of_withoutArguments_eq haggregate name hother

/-- A request for users with arguments of the root, in no order and partly unknown, and of the
posts. -/
def pagedUsers : ResolvedField :=
  ((((ResolvedField.ofName "users").withArgument "take" (.string "ten")).withArgument "trace"
    (.bool true)).withArgument "skip" .null).withArgument "where" (.object []) |>.select "User"
      [.ofName "password", ((ResolvedField.ofName "posts").withArgument "take" (.bool true)).select
        "Post" [.ofName "title"]]

/-- In the example the root passes on two of its arguments, and the posts none. As an aggregation
the users are the same without any arguments. -/
theorem valueFor_confines_arguments_pagedUsers :
    let plain : Projector := ⟨⟨"[User!]!", pagedUsers⟩, blogOptions⟩
    let aggregate : Projector := ⟨⟨"AggregateUser", pagedUsers⟩, blogOptions⟩
    let bare : Projector := ⟨⟨"AggregateUser", pagedUsers.withoutArguments⟩, blogOptions⟩
    blogOptions.DefaultsBare ∧ (plain.isAggregate = false ∧ aggregate.isAggregate = true) ∧
      (plain.valueFor "User").members?.map Entries.keys = some ["select", "where", "take"] ∧
      (∃ selection passed,
        plain.valueFor "User" = .object ((Layout.selectKey, .object selection) :: passed) ∧
          pagedUsers.PassesOn passed ∧
          ∀ key value, (key, value) ∈ selection → Layout.wrapped.Plain value) ∧
      pagedUsers.withoutArguments.withoutArguments = pagedUsers.withoutArguments ∧
      bare.valueFor "User" = aggregate.valueFor "User" := by
  intro plain aggregate bare
  have hplain : plain.isAggregate = false := by decide +kernel
  have haggregate : aggregate.isAggregate = true := by decide +kernel
  obtain ⟨hconfined, _⟩ := valueFor_confines_arguments plain blogOptions_defaultsBare "User"
  obtain ⟨_, hsame⟩ := valueFor_confines_arguments aggregate blogOptions_defaultsBare "User"
  exact ⟨blogOptions_defaultsBare, ⟨hplain, haggregate⟩, by decide +kernel, hconfined hplain, rfl,
    (hsame haggregate).2 _ rfl⟩

end Projector

end FieldProjection
