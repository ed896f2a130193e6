import FieldProjection.Projection.Build
import FieldProjection.Proofs.Layout.Selection

/-!
# Paths of a request and of its projection

A request is a tree of fields in which one name may occur several times below a field, under
several keys and types. `Requests` says which paths of names it asks for. Its projection has one
value for each name, that of the last request: `selectPath?_root` says that a path is looked up in
the projection by following last requests, which is what `follow?` does.
-/

namespace FieldProjection.ResolvedField

/-- A chain of requests below a field, each made below the one before. -/
def Chain : ResolvedField → List ResolvedField → Prop
  | _, [] => True
  | field, child :: rest => child ∈ field.children ∧ Chain child rest

/-- A path of names is requested below a field when some chain of requests has these names. -/
def Requests (field : ResolvedField) (names : List String) : Prop :=
  ∃ chain, field.Chain chain ∧ chain.map ResolvedField.name = names

/-- The last request for a name directly below a field. -/
def lastChild? (field : ResolvedField) (name : String) : Option ResolvedField :=
  field.children.reverse.find? fun child => child.name = name

/-- The request at the end of a path on which each name stands for its last request. -/
def follow? : ResolvedField → List String → Option ResolvedField
  | field, [] => some field
  | field, name :: rest => (field.lastChild? name).bind fun child => child.follow? rest

/-- The empty path is always requested. -/
theorem requests_nil (field : ResolvedField) : field.Requests [] :=
  ⟨[], trivial, rfl⟩

/-- A path is requested when its rest is requested below a child of its first name. -/
theorem requests_cons {field : ResolvedField} {name : String} {rest : List String} :
    field.Requests (name :: rest) ↔
      ∃ child ∈ field.children, child.name = name ∧ child.Requests rest := by
  constructor
  · rintro ⟨chain, hchain, hnames⟩
    cases chain with
    | nil => simp at hnames
    | cons child below =>
        obtain ⟨hname, hrest⟩ := List.cons.inj hnames
        exact ⟨child, hchain.1, hname, below, hchain.2, hrest⟩
  · rintro ⟨child, hchild, hname, below, hbelow, hrest⟩
    exact ⟨child :: below, ⟨hchild, hbelow⟩, by rw [List.map_cons, hname, hrest]⟩

/-- The last request for a name is a child of that name. -/
theorem mem_of_lastChild? {field child : ResolvedField} {name : String}
    (h : field.lastChild? name = some child) : child ∈ field.children ∧ child.name = name := by
  have hmem := List.mem_of_find?_eq_some h
  have hname := List.find?_some h
  exact ⟨List.mem_reverse.mp hmem, by simpa using hname⟩

/-- A name that is requested has a last request. -/
theorem exists_lastChild? {field child : ResolvedField} (h : child ∈ field.children) :
    ∃ last, field.lastChild? child.name = some last := by
  rw [← Option.isSome_iff_exists]
  unfold lastChild?
  rw [List.find?_isSome]
  exact ⟨child, List.mem_reverse.mpr h, by simp⟩

/-- A path in two parts is followed one part after the other. -/
theorem follow?_append (field : ResolvedField) (first second : List String) :
    field.follow? (first ++ second) =
      (field.follow? first).bind fun place => place.follow? second := by
  induction first generalizing field with
  | nil => rfl
  | cons name rest ih =>
      cases h : field.lastChild? name with
      | none => simp [follow?, h]
      | some child => simp [follow?, h, ih]

/-- A path that can be followed is requested. -/
theorem requests_of_follow? {field place : ResolvedField} {names : List String}
    (h : field.follow? names = some place) : field.Requests names := by
  induction names generalizing field with
  | nil => exact requests_nil field
  | cons name rest ih =>
      obtain ⟨child, hchild, hrest⟩ := Option.bind_eq_some_iff.mp h
      obtain ⟨hmem, hname⟩ := mem_of_lastChild? hchild
      exact requests_cons.mpr ⟨child, hmem, hname, ih hrest⟩

/-- A request below a field is smaller than the field. -/
theorem sizeOf_lt_of_mem_children {field child : ResolvedField} (h : child ∈ field.children) :
    sizeOf child < sizeOf field := by
  obtain ⟨group, hgroup, hchild⟩ := List.mem_flatMap.mp h
  obtain ⟨entry, hentry, rfl⟩ := List.mem_map.mp hchild
  have hselected := List.sizeOf_lt_of_mem hentry
  have hgroups := List.sizeOf_lt_of_mem hgroup
  obtain ⟨name, label, arguments, groups⟩ := field
  obtain ⟨type, selected⟩ := group
  obtain ⟨key, child⟩ := entry
  simp only [ResolvedField.mk.sizeOf_spec, Prod.mk.sizeOf_spec] at hselected hgroups ⊢
  omega

end FieldProjection.ResolvedField

namespace FieldProjection.Projection

variable {layout : Layout}

/-- The selection below a field lists its children by name. -/
theorem selection_eq_ofList (layout : Layout) (field : ResolvedField) :
    selection layout field =
      Entries.ofList (field.children.map fun child => (child.name, value layout child)) := by
  rw [selection_eq_foldl, Entries.ofList, Entries.insertAll, List.foldl_map]

/-- The value selected under a name is that of the last request for it. -/
theorem find?_selection (layout : Layout) (field : ResolvedField) (name : String) :
    Entries.find? name (selection layout field) =
      (field.lastChild? name).map (value layout) := by
  -- look-up among the values of some children searches these children
  have hlast (children : List ResolvedField) :
      Entries.find? name (children.map fun child => (child.name, value layout child)) =
        (children.find? fun child => child.name = name).map (value layout) := by
    induction children with
    | nil => rfl
    | cons child rest ih =>
        by_cases hname : child.name = name <;> simp [Entries.find?, hname, ih]
  rw [selection_eq_ofList, Entries.find?_ofList, ← List.map_reverse, hlast]
  rfl

/-- The selection of a field below the root is the one made below it, empty for a leaf. -/
theorem selectionOf_value (layout : Layout) (field : ResolvedField) :
    layout.selectionOf (value layout field) = selection layout field := by
  rw [value_eq]
  cases hleaf : field.isLeaf with
  | true =>
      have hgroups : field.groups = [] := List.isEmpty_iff.mp hleaf
      rw [if_pos rfl, Layout.selectionOf_of_members?_eq_none rfl, selection, hgroups, addGroups]
  | false => simp [Layout.selectionOf]

/-- The selection of the root is the one made below it. -/
theorem selectionOf_root (layout : Layout) (field : ResolvedField) :
    layout.selectionOf (root layout field) = selection layout field := by
  cases layout <;>
    simp [root, Layout.selectionOf, Layout.selection?, Json.find?, Json.members?, Entries.find?]

/-- The projection of a field selects at a path what the request at its end is projected to. -/
theorem selectPath?_value (layout : Layout) (field : ResolvedField) (names : List String) :
    layout.selectPath? (value layout field) names = (field.follow? names).map (value layout) := by
  induction names generalizing field with
  | nil => rfl
  | cons name rest ih =>
      rw [Layout.selectPath?, Layout.select?_eq_find?, selectionOf_value, find?_selection,
        ResolvedField.follow?]
      cases field.lastChild? name with
      | none => rfl
      | some child => exact ih child

/-- The projection of the root selects at a path below it what the request at the end of the path
is projected to. -/
theorem selectPath?_root (layout : Layout) (field : ResolvedField) {names : List String}
    (h : names ≠ []) :
    layout.selectPath? (root layout field) names = (field.follow? names).map (value layout) := by
  cases names with
  | nil => exact False.elim (h rfl)
  | cons name rest =>
      have hvalue := selectPath?_value layout field (name :: rest)
      rw [Layout.selectPath?, Layout.select?_eq_find?, selectionOf_value] at hvalue
      rw [Layout.selectPath?, Layout.select?_eq_find?, selectionOf_root, hvalue]

/-- The names selected below a field are distinct. -/
theorem keys_selection_nodup (layout : Layout) (field : ResolvedField) :
    (Entries.keys (selection layout field)).Nodup := by
  rw [selection_eq_ofList]
  exact Entries.nodup_keys_ofList _

/-- What is selected below a field is the projection of a child. -/
theorem exists_child_of_mem_selection {field : ResolvedField} {key : String} {json : Json}
    (h : (key, json) ∈ selection layout field) :
    ∃ child ∈ field.children, json = value layout child := by
  have hfind := Entries.find?_of_mem (keys_selection_nodup layout field) h
  rw [find?_selection] at hfind
  obtain ⟨child, hchild, hvalue⟩ := Option.map_eq_some_iff.mp hfind
  exact ⟨child, (ResolvedField.mem_of_lastChild? hchild).1, hvalue.symm⟩

/-- No selection of a projected field repeats a name. -/
theorem distinct_value (layout : Layout) (field : ResolvedField) :
    layout.Distinct (value layout field) := by
  refine .intro _ ?_ ?_
  · rw [selectionOf_value]
    exact keys_selection_nodup layout field
  · -- the recursion is on the request, whose children are smaller
    intro key json hmem
    rw [selectionOf_value] at hmem
    obtain ⟨child, hchild, rfl⟩ := exists_child_of_mem_selection hmem
    exact distinct_value layout child
termination_by sizeOf field
decreasing_by exact ResolvedField.sizeOf_lt_of_mem_children ‹_›

/-- No selection of a projection repeats a name. -/
theorem distinct_root (layout : Layout) (field : ResolvedField) :
    layout.Distinct (root layout field) := by
  refine .intro _ ?_ ?_
  · rw [selectionOf_root]
    exact keys_selection_nodup layout field
  · intro key json hmem
    rw [selectionOf_root] at hmem
    obtain ⟨child, _, rfl⟩ := exists_child_of_mem_selection hmem
    exact distinct_value layout child

end FieldProjection.Projection
