import FieldProjection.Proofs.Filter.Grant

/-!
# What a projection can tell of a request

The skeleton of a request is what is left of it when labels and arguments are taken away, and with
them the types that its fields are grouped by: the names of the fields, one below the other, and
which of them have no groups. A projection is made of the skeleton and of the arguments that the
root passes on (`Projection.root_eq_of_skeleton_eq`), so two requests that agree in these give the
same values everywhere, and the same reports (`Projector.values_eq_of_skeleton_eq`).
-/

namespace FieldProjection

/-- The name of a requested field, whether it has no groups, and what is requested below it. -/
structure Skeleton where
  name : String
  isLeaf : Bool
  children : List Skeleton

namespace ResolvedField

mutual
/-- The skeleton of a requested field. -/
def skeleton : ResolvedField → Skeleton
  | ⟨name, _, _, groups⟩ => ⟨name, groups.isEmpty, groupSkeletons groups⟩

/-- The skeletons of the fields of all groups, in order. -/
def groupSkeletons : List (String × List (String × ResolvedField)) → List Skeleton
  | [] => []
  | (_, selected) :: rest => fieldSkeletons selected ++ groupSkeletons rest

/-- The skeletons of the fields of one group, in order. -/
def fieldSkeletons : List (String × ResolvedField) → List Skeleton
  | [] => []
  | (_, child) :: rest => skeleton child :: fieldSkeletons rest
end

/-- The fields of a group have their own skeletons. -/
theorem fieldSkeletons_eq (selected : List (String × ResolvedField)) :
    fieldSkeletons selected = (selected.map Prod.snd).map skeleton := by
  induction selected with
  | nil => rfl
  | cons entry rest ih =>
      obtain ⟨key, child⟩ := entry
      rw [fieldSkeletons, ih, List.map_cons, List.map_cons]

/-- Grouping leaves no trace but the order of the fields. -/
theorem groupSkeletons_eq (groups : List (String × List (String × ResolvedField))) :
    groupSkeletons groups =
      (groups.flatMap fun group => group.2.map Prod.snd).map skeleton := by
  induction groups with
  | nil => rfl
  | cons group rest ih =>
      obtain ⟨type, selected⟩ := group
      rw [groupSkeletons, ih, fieldSkeletons_eq, List.flatMap_cons, List.map_append]

/-- Below a field the skeleton has those of its children. -/
theorem skeleton_eq (field : ResolvedField) :
    field.skeleton = ⟨field.name, field.isLeaf, field.children.map skeleton⟩ := by
  obtain ⟨name, label, arguments, groups⟩ := field
  rw [skeleton, groupSkeletons_eq]
  rfl

/-- The value that an argument is passed on with: null is not passed on. -/
def passedOn? (field : ResolvedField) (name : String) : Option Json :=
  match Entries.find? name field.arguments with
  | some .null => none
  | found => found

/-- An argument is passed on with the value that it has, unless that is null. -/
theorem passedOn?_eq_some_iff {field : ResolvedField} {name : String} {value : Json} :
    field.passedOn? name = some value ↔
      Entries.find? name field.arguments = some value ∧ value ≠ .null := by
  unfold passedOn?
  split
  · next hnull =>
      rw [hnull, Option.some.injEq]
      constructor
      · intro h
        exact False.elim (Option.some_ne_none value h.symm)
      · rintro ⟨rfl, hvalue⟩
        exact False.elim (hvalue rfl)
  · next hfound =>
      refine ⟨fun h => ⟨h, ?_⟩, And.left⟩
      rintro rfl
      exact hfound h

/-- Two fields pass on the same arguments as a root. Null counts as no argument. -/
def PassesOnSame (first second : ResolvedField) : Prop :=
  ∀ name ∈ Projection.forwardedNames, first.passedOn? name = second.passedOn? name

end ResolvedField

namespace Skeleton

mutual
/-- What is selected for a field with a skeleton. -/
def value (layout : Layout) : Skeleton → Json
  | ⟨_, isLeaf, children⟩ =>
    if isLeaf then .bool true else layout.node (Entries.ofList (fields layout children))

/-- The names of some skeletons, each with what is selected for it. -/
def fields (layout : Layout) : List Skeleton → List (String × Json)
  | [] => []
  | child :: rest => (child.name, value layout child) :: fields layout rest
end

/-- The fields are valued one by one. -/
theorem fields_eq_map (layout : Layout) (children : List Skeleton) :
    fields layout children = children.map fun child => (child.name, child.value layout) := by
  induction children with
  | nil => rfl
  | cons child rest ih => rw [fields, ih, List.map_cons]

end Skeleton

namespace Projection

variable {layout : Layout}

/-- The selection below a field is made of the skeletons of its children, if their values are. -/
theorem selection_eq_of_children {field : ResolvedField}
    (h : ∀ child ∈ field.children, value layout child = child.skeleton.value layout) :
    selection layout field = Entries.ofList (field.skeleton.children.map fun child =>
      (child.name, child.value layout)) := by
  rw [selection_eq_ofList, ResolvedField.skeleton_eq, List.map_map]
  refine congrArg Entries.ofList (List.map_congr_left fun child hchild => ?_)
  rw [h child hchild, Function.comp, ResolvedField.skeleton_eq]

/-- What is selected for a request is made of its skeleton. -/
theorem value_eq_value_skeleton (layout : Layout) (field : ResolvedField) :
    value layout field = field.skeleton.value layout := by
  have hselection := selection_eq_of_children fun child (_ : child ∈ field.children) =>
    value_eq_value_skeleton layout child
  rw [value_eq, hselection, ResolvedField.skeleton_eq, Skeleton.value, Skeleton.fields_eq_map]
termination_by sizeOf field
decreasing_by exact ResolvedField.sizeOf_lt_of_mem_children ‹_›

/-- Fields with the same skeleton have the same selection below them. -/
theorem selection_eq_of_skeleton_eq {first second : ResolvedField}
    (h : first.skeleton = second.skeleton) : selection layout first = selection layout second := by
  rw [selection_eq_of_children fun child _ => value_eq_value_skeleton layout child, h,
    ← selection_eq_of_children fun child _ => value_eq_value_skeleton layout child]

/-- The arguments that are passed on, name by name. -/
theorem forwarded_eq_filterMap (field : ResolvedField) :
    forwarded field.arguments = forwardedNames.filterMap fun name =>
      (field.passedOn? name).map fun value => (name, value) := by
  refine List.filterMap_congr fun name _ => ?_
  unfold ResolvedField.passedOn?
  split <;> simp_all

/-- Fields that pass on the same arguments forward the same entries. -/
theorem forwarded_eq_of_passesOnSame {first second : ResolvedField}
    (h : first.PassesOnSame second) :
    forwarded first.arguments = forwarded second.arguments := by
  rw [forwarded_eq_filterMap, forwarded_eq_filterMap]
  exact List.filterMap_congr fun name hname => by rw [h name hname]

/-- The projection of a request is made of its skeleton and of the arguments that it passes on. -/
theorem root_eq_of_skeleton_eq {first second : ResolvedField}
    (hskeleton : first.skeleton = second.skeleton) (harguments : first.PassesOnSame second) :
    root layout first = root layout second := by
  cases layout with
  | flat => rw [root, root, selection_eq_of_skeleton_eq hskeleton]
  | wrapped =>
      rw [root, root, selection_eq_of_skeleton_eq hskeleton,
        forwarded_eq_of_passesOnSame harguments]

end Projection

namespace Projector

/-- Requests of one return type whose roots have the same skeleton and pass on the same arguments
cannot be told apart: with any options, they give the same values for every model and at every path,
overridden or not, and the same reports. -/
theorem values_eq_of_skeleton_eq (options : Options) (first second : ResolveInfo)
    (htype : first.returnType = second.returnType)
    (hskeleton : first.field.skeleton = second.field.skeleton)
    (harguments : first.field.PassesOnSame second.field) :
    let one : Projector := ⟨first, options⟩
    let other : Projector := ⟨second, options⟩
    (∀ name, one.valueFor name = other.valueFor name ∧ one.eventsFor name = other.eventsFor name) ∧
    (∀ path, one.valueAt path = other.valueAt path) ∧
    ∀ path name override,
      one.valueAtWith path name override = other.valueAtWith path name override ∧
        one.eventsAtWith path name = other.eventsAtWith path name := by
  intro one other
  -- everything is read off the projection, in a layout that the return type tells
  have hlayout : one.layout = other.layout := by
    rw [layout, layout, isAggregate, isAggregate, ResolveInfo.rootType, ResolveInfo.rootType, htype]
  have hprojection : one.projection = other.projection := by
    rw [projection, projection, hlayout, Projection.root_eq_of_skeleton_eq hskeleton harguments]
  have hnode (path : String) : one.nodeAt? path = other.nodeAt? path := by
    rw [nodeAt?, nodeAt?, hprojection, hlayout]
  have hfilter (name : String) (node : Json) : one.filter name node = other.filter name node := by
    rw [filter, filter, hlayout]
  have hevents (name : String) (node : Json) :
      one.filterEvents name node = other.filterEvents name node := by
    rw [filterEvents, filterEvents, hlayout]
  refine ⟨?_, ?_, ?_⟩
  · intro name
    rw [valueFor, valueFor, eventsFor, eventsFor, hprojection]
    exact ⟨hfilter name _, hevents name _⟩
  · intro path
    rw [valueAt, valueAt, hnode]
  · intro path name override
    rw [valueAtWith, valueAtWith, eventsAtWith, eventsAtWith, hnode]
    cases other.nodeAt? path with
    | none => exact ⟨rfl, rfl⟩
    | some node =>
        exact ⟨congrArg (Json.merge · override) (hfilter name node), hevents name node⟩

/-- A request for a user with posts, of which the root has an argument that is passed on. -/
def plainInfo : ResolveInfo where
  returnType := "User"
  field := ((ResolvedField.ofName "user").withArgument "orderBy" (.string "id")).select "User"
    [.ofName "id", (ResolvedField.ofName "posts").select "Post" [.ofName "title"]]

/-- The same request with labels, other arguments and other types. -/
def labelledInfo : ResolveInfo where
  returnType := "User"
  field := (((((ResolvedField.ofName "user").withLabel "me").withArgument "trace"
    (.bool true)).withArgument "skip" .null).withArgument "orderBy" (.string "id")).select "Admin"
      [(ResolvedField.ofName "id").withLabel "key"] |>.select "Guest" [] |>.select "Member"
      [(((ResolvedField.ofName "posts").withLabel "recent").withArgument "take" (.bool true)).select
        "Article" [(ResolvedField.ofName "title").withLabel "heading"]]

/-- In the example the labels, the other arguments and the types are not seen. -/
theorem values_eq_of_skeleton_eq_labelledInfo :
    plainInfo.returnType = labelledInfo.returnType ∧
      plainInfo.field.skeleton = labelledInfo.field.skeleton ∧
      plainInfo.field.PassesOnSame labelledInfo.field ∧
      let one : Projector := ⟨plainInfo, blogRequest.options⟩
      let other : Projector := ⟨labelledInfo, blogRequest.options⟩
      one.valueFor "User" = other.valueFor "User" ∧
      one.valueAt "posts" = other.valueAt "posts" ∧
      one.valueAtWith "posts" "Post" .emptyObject =
        other.valueAtWith "posts" "Post" .emptyObject := by
  have hskeleton : plainInfo.field.skeleton = labelledInfo.field.skeleton := rfl
  have harguments : plainInfo.field.PassesOnSame labelledInfo.field := by
    intro name hname
    simp only [Projection.forwardedNames, List.mem_cons, List.not_mem_nil, or_false] at hname
    rcases hname with rfl | rfl | rfl | rfl | rfl | rfl <;> rfl
  obtain ⟨hfor, hat, hwith⟩ := values_eq_of_skeleton_eq blogRequest.options plainInfo labelledInfo
    rfl hskeleton harguments
  exact ⟨rfl, hskeleton, harguments, (hfor "User").1, hat "posts", (hwith "posts" "Post" _).1⟩

end Projector

end FieldProjection
