import FieldProjection.Projection.Layout
import FieldProjection.Proofs.Entries.Insertion

/-!
# Nodes and what they select

A node is a tree whose branches are the members of its selection. `selection_induction` follows
these branches in either layout, and `Distinct` says that no selection along them repeats a name,
which is what makes look-up and membership agree.
-/

namespace FieldProjection

/-- Only the object with some members has them. -/
theorem Json.members?_eq_some_iff {value : Json} {members : Entries Json} :
    value.members? = some members ↔ value = .object members := by
  cases value <;> simp [Json.members?]

/-- Just the values without members are no objects. -/
theorem Json.isObject_eq_false_iff {value : Json} :
    value.isObject = false ↔ value.members? = none := by
  rw [isObject, Option.isSome_eq_false_iff, Option.isNone_iff_eq_none]

namespace Layout

variable {layout : Layout}

/-- The value of a member is smaller than the object. -/
theorem sizeOf_lt_of_mem_members {node : Json} {members : Entries Json} {entry : String × Json}
    (h : node.members? = some members) (hmem : entry ∈ members) :
    sizeOf entry.2 < sizeOf node := by
  obtain rfl := Json.members?_eq_some_iff.mp h
  have hentry := List.sizeOf_lt_of_mem hmem
  obtain ⟨name, value⟩ := entry
  simp only [Json.object.sizeOf_spec, Prod.mk.sizeOf_spec] at hentry ⊢
  omega

/-- What is selected below a node is smaller than the node. -/
theorem sizeOf_lt_of_mem_selectionOf {node value : Json} {key : String}
    (h : (key, value) ∈ layout.selectionOf node) : sizeOf value < sizeOf node := by
  unfold selectionOf at h
  cases hselection : layout.selection? node with
  | none => simp [hselection] at h
  | some selection =>
      rw [hselection, Option.getD_some] at h
      cases layout with
      | flat => exact sizeOf_lt_of_mem_members hselection h
      | wrapped =>
          -- two steps down: the object under `select`, then its member
          obtain ⟨inner, hinner, hmembers⟩ := Option.bind_eq_some_iff.mp hselection
          obtain ⟨members, hnode, hfind⟩ := Option.bind_eq_some_iff.mp hinner
          have hvalue := sizeOf_lt_of_mem_members hmembers h
          have hbetween := sizeOf_lt_of_mem_members hnode (Entries.mem_of_find? hfind)
          exact Nat.lt_trans hvalue hbetween

/-- Induction along selections: a property holds of every node if it holds of a node whenever it
holds of all that the node selects. -/
theorem selection_induction (layout : Layout) {motive : Json → Prop}
    (step : ∀ node, (∀ key value, (key, value) ∈ layout.selectionOf node → motive value) →
      motive node) (node : Json) : motive node :=
  step node fun _ value _ => selection_induction layout step value
termination_by sizeOf node
decreasing_by exact sizeOf_lt_of_mem_selectionOf ‹_›

/-! ## Selecting a name -/

/-- What a node selects under a name is found in its selection. -/
theorem select?_eq_find? (node : Json) (key : String) :
    layout.select? node key = Entries.find? key (layout.selectionOf node) := by
  unfold select? selectionOf
  cases layout.selection? node <;> rfl

/-- What a node selects under a name is a member of its selection. -/
theorem mem_selectionOf_of_select? {node value : Json} {key : String}
    (h : layout.select? node key = some value) : (key, value) ∈ layout.selectionOf node := by
  rw [select?_eq_find?] at h
  exact Entries.mem_of_find? h

/-- Only objects select something. -/
theorem selectionOf_of_members?_eq_none {node : Json} (h : node.members? = none) :
    layout.selectionOf node = [] := by
  cases layout <;> simp [selectionOf, selection?, Json.find?, h]

/-- A node that selects something is an object. -/
theorem members?_isSome_of_hasSelection {node : Json} (h : layout.hasSelection node = true) :
    node.members?.isSome := by
  by_contra hnone
  rw [Option.not_isSome_iff_eq_none] at hnone
  simp [hasSelection, selectionOf_of_members?_eq_none hnone] at h

/-- A node that selects something under some name has a selection. -/
theorem hasSelection_of_select? {node value : Json} {key : String}
    (h : layout.select? node key = some value) : layout.hasSelection node = true := by
  have hmem := mem_selectionOf_of_select? h
  unfold hasSelection
  cases hselection : layout.selectionOf node with
  | nil => simp [hselection] at hmem
  | cons => rfl

/-- A path that goes on below a node starts with a name that the node selects. -/
theorem hasSelection_of_selectPath?_cons {node value : Json} {key : String} {rest : List String}
    (h : layout.selectPath? node (key :: rest) = some value) : layout.hasSelection node = true := by
  obtain ⟨_, hselect, _⟩ := Option.bind_eq_some_iff.mp h
  exact hasSelection_of_select? hselect

/-- A node with a selection selects something under some name. -/
theorem exists_select?_of_hasSelection {node : Json} (h : layout.hasSelection node = true) :
    ∃ key value, layout.select? node key = some value := by
  unfold hasSelection at h
  cases hselection : layout.selectionOf node with
  | nil => simp [hselection] at h
  | cons entry rest =>
      refine ⟨entry.1, entry.2, ?_⟩
      rw [select?_eq_find?, hselection]
      simp [Entries.find?]

/-! ## Distinct names -/

/-- No selection at or below a node repeats a name. -/
inductive Distinct (layout : Layout) : Json → Prop where
  | intro (node) :
      (Entries.keys (layout.selectionOf node)).Nodup →
      (∀ key value, (key, value) ∈ layout.selectionOf node → Distinct layout value) →
      Distinct layout node

namespace Distinct

variable {node : Json}

/-- The selection of a node with distinct names has distinct names. -/
theorem keys_nodup (h : Distinct layout node) :
    (Entries.keys (layout.selectionOf node)).Nodup := by
  cases h with
  | intro _ hkeys _ => exact hkeys

/-- The fields of a node with distinct names have distinct names. -/
theorem of_mem (h : Distinct layout node) {key : String} {value : Json}
    (hmem : (key, value) ∈ layout.selectionOf node) : Distinct layout value := by
  cases h with
  | intro _ _ hbelow => exact hbelow key value hmem

/-- In a node with distinct names, each member of the selection is found under its name. -/
theorem select?_of_mem (h : Distinct layout node) {key : String} {value : Json}
    (hmem : (key, value) ∈ layout.selectionOf node) : layout.select? node key = some value := by
  rw [select?_eq_find?]
  exact Entries.find?_of_mem h.keys_nodup hmem

/-- What a node with distinct names selects has distinct names. -/
theorem of_select? (h : Distinct layout node) {key : String} {value : Json}
    (hvalue : layout.select? node key = some value) : Distinct layout value :=
  h.of_mem (mem_selectionOf_of_select? hvalue)

/-- What stands at a path below a node with distinct names has distinct names. -/
theorem of_selectPath? (h : Distinct layout node) {path : List String} {value : Json}
    (hvalue : layout.selectPath? node path = some value) : Distinct layout value := by
  induction path generalizing node with
  | nil =>
      obtain rfl : node = value := Option.some.inj hvalue
      exact h
  | cons key rest ih =>
      obtain ⟨inner, hinner, hrest⟩ := Option.bind_eq_some_iff.mp hvalue
      exact ih (h.of_select? hinner) hrest

end Distinct

end Layout

end FieldProjection
