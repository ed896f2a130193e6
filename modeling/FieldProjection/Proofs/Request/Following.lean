import FieldProjection.Proofs.Request.Coverage

/-!
# Following a path through a request

The value at a path is read from the projection, which has one value for each name. It is the value
of the request that is found by going through the tree of requests instead, from each field to its
last child of the next name: `valueAt_follow`. Where no child has the name the path leads nowhere,
and nothing is projected, filtered or overridden.
-/

namespace FieldProjection

namespace ResolvedField

/-- A leaf has no children. -/
theorem children_eq_nil_of_isLeaf {field : ResolvedField} (h : field.isLeaf = true) :
    field.children = [] := by
  rw [children, List.isEmpty_iff.mp h, List.flatMap_nil]

/-- Below a field without children a path leads nowhere. -/
theorem follow?_eq_none_of_children {field place : ResolvedField} {front : List String}
    (hplace : field.follow? front = some place) (hchildren : place.children = []) (name : String)
    (rest : List String) : field.follow? (front ++ name :: rest) = none := by
  rw [follow?_append, hplace, Option.bind_some, follow?, lastChild?, hchildren]
  rfl

end ResolvedField

namespace Projector

/-- Names without dots are found again when they were joined by dots. -/
theorem pathNames_intercalate {names : List String} (hnames : names ≠ [])
    (hdots : ∀ name ∈ names, '.' ∉ name.toList) :
    pathNames (".".intercalate names) = names := by
  cases names with
  | nil => exact False.elim (hnames rfl)
  | cons first more =>
      have hparts : ∀ part ∈ first.toList :: more.map String.toList, '.' ∉ part := by
        rw [← List.map_cons]
        intro part hpart
        obtain ⟨name, hname, rfl⟩ := List.mem_map.mp hpart
        exact hdots name hname
      have hdot : ".".toList = ['.'] := rfl
      rw [pathNames, String.toList_intercalate, List.map_cons, hdot,
        Text.split_intercalate _ _ hparts, ← List.map_cons, List.map_map]
      exact List.map_id'' (fun _ => String.ofList_toList) _

/-- The node at a path of names joined by dots is what the request at its end is projected to. -/
theorem nodeAt?_intercalate (projector : Projector) {names : List String} (hnames : names ≠ [])
    (hdots : ∀ name ∈ names, '.' ∉ name.toList) :
    projector.nodeAt? (".".intercalate names) =
      (projector.info.field.follow? names).map (Projection.value projector.layout) := by
  rw [nodeAt?, pathNames_intercalate hnames hdots, projection,
    Projection.selectPath?_root _ _ hnames]

/-- Follow a path through the tree of requests, each name to the last child that has it. If that
leads to a leaf, the value at the path is `true`, and if it leads to another field, the value is the
node of the selection made below it. If it leads nowhere, as below a leaf and below a field without
selections, the value is empty and stays so, whatever it is to be filtered against and overridden
by. -/
theorem valueAt_follow (projector : Projector) (names : List String) (hnames : names ≠ [])
    (hdots : ∀ name ∈ names, '.' ∉ name.toList) :
    let path := ".".intercalate names
    let field := projector.info.field
    (∀ place, field.follow? names = some place →
      projector.valueAt path =
        if place.isLeaf then .bool true
        else projector.layout.node (Projection.selection projector.layout place)) ∧
    (field.follow? names = none →
      projector.valueAt path = .emptyObject ∧
      ∀ name override, projector.valueAtWith path name override = .emptyObject) ∧
    ∀ front name rest place, names = front ++ name :: rest → field.follow? front = some place →
      place.isLeaf = true ∨ place.children = [] → field.follow? names = none := by
  intro path field
  have hnode := projector.nodeAt?_intercalate hnames hdots
  refine ⟨?_, ?_, ?_⟩
  · intro place hplace
    rw [valueAt, hnode, hplace, Option.map_some, Option.getD_some, Projection.value_eq]
  · intro hnowhere
    rw [hnowhere, Option.map_none] at hnode
    constructor
    · rw [valueAt, hnode, Option.getD_none]
    · intro name override
      rw [valueAtWith, hnode]
  · rintro front name rest place rfl hplace hend
    have hchildren : place.children = [] := by
      rcases hend with hleaf | hchildren
      · exact ResolvedField.children_eq_nil_of_isLeaf hleaf
      · exact hchildren
    exact ResolvedField.follow?_eq_none_of_children hplace hchildren name rest

/-- Of the two requests for posts the last one is followed: it asks for likes and not for titles,
and for nothing below the likes, not even under the empty name. -/
theorem valueAt_follow_postsTwice :
    let layout := postsTwice.layout
    (∀ name ∈ ["posts", "likes", ""], '.' ∉ name.toList) ∧
      (∃ posts, postsTwice.info.field.follow? ["posts"] = some posts ∧
        postsTwice.valueAt "posts" = layout.node (Projection.selection layout posts)) ∧
      postsTwice.valueAt "posts.likes" = .bool true ∧
      postsTwice.valueAt "posts.title" = .emptyObject ∧
      ∀ name override, postsTwice.valueAtWith "posts.likes." name override = .emptyObject := by
  intro layout
  have hdots : ∀ name ∈ ["posts", "likes", ""], '.' ∉ name.toList := by decide
  obtain ⟨hposts, _⟩ := valueAt_follow postsTwice ["posts"] (List.cons_ne_nil _ _) (by decide)
  obtain ⟨hlikes, _⟩ :=
    valueAt_follow postsTwice ["posts", "likes"] (List.cons_ne_nil _ _) (by decide)
  obtain ⟨_, htitle, _⟩ :=
    valueAt_follow postsTwice ["posts", "title"] (List.cons_ne_nil _ _) (by decide)
  obtain ⟨_, hbelow, hend⟩ :=
    valueAt_follow postsTwice ["posts", "likes", ""] (List.cons_ne_nil _ _) hdots
  exact ⟨hdots, ⟨_, rfl, hposts _ rfl⟩, hlikes _ rfl, (htitle rfl).1,
    (hbelow (hend ["posts", "likes"] "" [] _ rfl rfl (.inl rfl))).2⟩

end Projector

end FieldProjection
