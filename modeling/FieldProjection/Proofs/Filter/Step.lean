import FieldProjection.Projection.Filter
import FieldProjection.Proofs.Layout.Selection

/-!
# One level of filtering

`Keeps` lists the ways in which a requested field can reach the filtered selection. What a
filtered node selects under a name is then either a default or a requested value that is kept:
`select?_node_of_keeps` and `keeps_of_select?_node` are the two directions, and all that is said
about filtering a whole tree follows from them by induction along the selections, or along the
levels that filtering walks (`level_induction`).
-/

namespace FieldProjection.Filter

variable (options : Options) (schema : Schema) (layout : Layout)

/-- `Keeps model excluded key requested kept` says that a field requested with one value reaches
the filtered selection with another. -/
inductive Keeps (model : Model) (excluded : List String) (key : String) (requested : Json) :
    Json → Prop where
  | count :
      key ∉ excluded → key = countKey → Keeps model excluded key requested requested
  | column (field : Field) :
      key ∉ excluded → key ≠ countKey →
      model.field? key = some field → field.isRelation = false →
      Keeps model excluded key requested (.bool true)
  | relation (target : String) :
      key ∉ excluded → key ≠ countKey →
      model.field? key = some ⟨.relation, target⟩ →
      (node options schema layout target requested = .bool true ∨
        layout.hasSelection (node options schema layout target requested) = true) →
      Keeps model excluded key requested (node options schema layout target requested)

variable {options : Options} {schema : Schema} {layout : Layout}
variable {model : Model} {excluded : List String} {key name declared : String}
variable {requested kept : Json}

/-- A field that is kept is not excluded. -/
theorem Keeps.not_excluded (h : Keeps options schema layout model excluded key requested kept) :
    key ∉ excluded := by
  cases h <;> assumption

/-! ## The value that is kept -/

/-- A node that is not bare is kept if it selects something. -/
theorem ofNode_of_ne_true {value : Json} (hbare : value ≠ .bool true) :
    Outcome.ofNode layout value =
      if layout.hasSelection value = true then .kept value else .pruned := by
  unfold Outcome.ofNode
  split
  · exact False.elim (hbare rfl)
  · rfl

/-- A node is kept if it is bare or selects something, and is pruned otherwise. -/
theorem ofNode_cases (layout : Layout) (value : Json) :
    (Outcome.ofNode layout value = .kept value ∧
        (value = .bool true ∨ layout.hasSelection value = true)) ∨
      Outcome.ofNode layout value = .pruned ∧ value ≠ .bool true ∧
        layout.hasSelection value = false := by
  by_cases hbare : value = .bool true
  · subst hbare
    exact .inl ⟨rfl, .inl rfl⟩
  · rw [ofNode_of_ne_true hbare]
    by_cases hselection : layout.hasSelection value = true
    · exact .inl ⟨if_pos hselection, .inr hselection⟩
    · exact .inr ⟨if_neg hselection, hbare, by simpa using hselection⟩

/-- A relation is kept when its node is bare or selects something. -/
theorem ofNode_value?_eq_some_iff {value : Json} :
    (Outcome.ofNode layout value).value? = some kept ↔
      kept = value ∧ (value = .bool true ∨ layout.hasSelection value = true) := by
  rcases ofNode_cases layout value with ⟨hkept, hleft⟩ | ⟨hpruned, hbare, hempty⟩
  · rw [hkept, Outcome.value?, Option.some.injEq]
    exact ⟨fun h => ⟨h.symm, hleft⟩, fun h => h.1.symm⟩
  · rw [hpruned]
    constructor
    · intro h
      exact False.elim (Option.some_ne_none _ h.symm)
    · rintro ⟨_, htrue | hselection⟩
      · exact False.elim (hbare htrue)
      · exact False.elim (Bool.false_ne_true (hempty.symm.trans hselection))

/-- The outcome of a field has a value exactly when the field is kept with it. -/
theorem outcome_value?_eq_some_iff :
    (outcome options schema layout model excluded key requested).value? = some kept ↔
      Keeps options schema layout model excluded key requested kept := by
  constructor
  · intro h
    unfold outcome at h
    -- the tests of a field in their order: is it excluded, is it the count, how is it declared
    split at h
    · simp [Outcome.value?] at h
    · next hexcluded =>
        have hkey : key ∉ excluded := by simpa using hexcluded
        split at h
        · next hcount =>
            obtain rfl : requested = kept := Option.some.inj h
            exact .count hkey hcount
        · next hcount =>
            split at h
            · simp [Outcome.value?] at h
            · next target hfield =>
                obtain ⟨rfl, hkept⟩ := ofNode_value?_eq_some_iff.mp h
                exact .relation target hkey hcount hfield hkept
            · next field hrelation hfield =>
                obtain rfl : Json.bool true = kept := Option.some.inj h
                refine .column field hkey hcount hfield ?_
                obtain ⟨kind, type⟩ := field
                cases kind with
                | relation => exact False.elim (hrelation type rfl)
                | scalar | enumeration => rfl
  · intro h
    unfold outcome
    rw [if_neg (by simpa using h.not_excluded)]
    cases h with
    | count _ hcount =>
        rw [if_pos hcount]
        rfl
    | column field _ hcount hfield hrelation =>
        rw [if_neg hcount, hfield]
        obtain ⟨kind, type⟩ := field
        cases kind with
        | relation => simp [Field.isRelation] at hrelation
        | scalar | enumeration => rfl
    | relation target _ hcount hfield hkept =>
        rw [if_neg hcount, hfield]
        exact ofNode_value?_eq_some_iff.mpr ⟨rfl, hkept⟩

/-! ## The filtered selection -/

/-- The filtered selection extends the defaults by the requested fields that are kept. -/
theorem filtered_eq_insertAll (name declared : String) (model : Model) (selection : Selection) :
    filtered options schema layout name declared model selection =
      Entries.insertAll (options.defaultsFor name declared selection).entries
        (Entries.filterMapValues (fun key value => (outcome options schema layout model
          (options.excludesFor name declared selection) key value).value?) selection) := by
  rw [filtered, assemble, outcomes_eq_map, List.filterMap_map]
  rfl

/-- What the filtered selection holds under a name: the requested value if it is kept, or else the
default. -/
theorem find?_filtered {selection : Selection} (hnodup : (Entries.keys selection).Nodup) :
    Entries.find? key (filtered options schema layout name declared model selection) =
      ((Entries.find? key selection).bind fun value =>
        (outcome options schema layout model (options.excludesFor name declared selection) key
          value).value?).or
        ((options.defaultsFor name declared selection).find? key) := by
  -- with distinct names it does not matter that the last kept value of a name counts
  rw [filtered_eq_insertAll, Entries.find?_insertAll,
    Entries.find?_reverse (Entries.nodup_keys_filterMapValues _ hnodup),
    Entries.find?_filterMapValues _ hnodup]
  rfl

/-- A requested field that is kept is in the filtered selection with the value that it is kept
with. -/
theorem find?_filtered_of_keeps {selection : Selection} (hnodup : (Entries.keys selection).Nodup)
    (hrequested : Entries.find? key selection = some requested)
    (hkeeps : Keeps options schema layout model (options.excludesFor name declared selection) key
      requested kept) :
    Entries.find? key (filtered options schema layout name declared model selection) =
      some kept := by
  rw [find?_filtered hnodup, hrequested, Option.bind_some,
    outcome_value?_eq_some_iff.mpr hkeeps, Option.some_or]

/-! ## The filtered node -/

/-- Values that are no objects are not filtered. -/
theorem node_of_members?_eq_none {value : Json} (h : value.members? = none) :
    node options schema layout name value = value := by
  cases value with
  | object members => simp [Json.members?] at h
  | null | bool _ | number _ | string _ | array _ => rfl

/-- Induction along the levels that filtering walks. Values that are no objects and values for
unknown types are not looked into, and an object for a known type has what it selects filtered for
other types. -/
theorem level_induction (schema : Schema) (layout : Layout) {motive : String → Json → Prop}
    (other : ∀ name value, value.members? = none → motive name value)
    (unknown : ∀ name value, schema.resolve? name = none → motive name value)
    (level : ∀ name declared model members, schema.resolve? name = some (declared, model) →
      (∀ key value, (key, value) ∈ layout.selectionOf (.object members) →
        ∀ target, motive target value) →
      motive name (.object members))
    (name : String) (value : Json) : motive name value := by
  induction value using layout.selection_induction generalizing name with
  | step value ih =>
      cases hmembers : value.members? with
      | none => exact other name value hmembers
      | some members =>
          obtain rfl := Json.members?_eq_some_iff.mp hmembers
          cases hresolve : schema.resolve? name with
          | none => exact unknown name _ hresolve
          | some found =>
              exact level name found.1 found.2 members hresolve fun key value hmem target =>
                ih key value hmem target

/-- An object stays an object. -/
theorem members?_node_isSome {value : Json} (h : value.members?.isSome) :
    (node options schema layout name value).members?.isSome := by
  obtain ⟨members, hmembers⟩ := Option.isSome_iff_exists.mp h
  obtain rfl := Json.members?_eq_some_iff.mp hmembers
  cases hresolve : schema.resolve? name with
  | none => rw [node_of_unresolved options schema layout hresolve, h]
  | some found =>
      rw [node_object options schema layout hresolve]
      cases layout <;> rfl

/-- Only a bare request is filtered to a bare one. -/
theorem node_eq_true_iff {value : Json} :
    node options schema layout name value = .bool true ↔ value = .bool true := by
  cases hmembers : value.members? with
  | none => rw [node_of_members?_eq_none hmembers]
  | some members =>
      have hnode : (node options schema layout name value).members?.isSome :=
        members?_node_isSome (by rw [hmembers, Option.isSome_some])
      constructor
      · intro h
        simp [h, Json.members?] at hnode
      · rintro rfl
        simp [Json.members?] at hmembers

/-- The selection of a filtered node is its filtered selection. -/
theorem selectionOf_node (hresolve : schema.resolve? name = some (declared, model))
    (hobject : requested.members?.isSome) :
    layout.selectionOf (node options schema layout name requested) =
      filtered options schema layout name declared model (layout.selectionOf requested) := by
  obtain ⟨members, hmembers⟩ := Option.isSome_iff_exists.mp hobject
  obtain rfl := Json.members?_eq_some_iff.mp hmembers
  rw [node_object options schema layout hresolve, Layout.selectionOf, Layout.selection?_replace,
    Option.getD_some]

/-- A requested field that is kept is selected by the filtered node. -/
theorem select?_node_of_keeps (hresolve : schema.resolve? name = some (declared, model))
    (hdistinct : layout.Distinct requested) {asked : Json}
    (hasked : layout.select? requested key = some asked)
    (hkeeps : Keeps options schema layout model
      (options.excludesFor name declared (layout.selectionOf requested)) key asked kept) :
    layout.select? (node options schema layout name requested) key = some kept := by
  have hobject := Layout.members?_isSome_of_hasSelection (Layout.hasSelection_of_select? hasked)
  rw [Layout.select?_eq_find?] at hasked
  rw [Layout.select?_eq_find?, selectionOf_node hresolve hobject,
    find?_filtered_of_keeps hdistinct.keys_nodup hasked hkeeps]

/-- What a filtered node selects, other than its default fields, was requested and is kept. -/
theorem keeps_of_select?_node (hresolve : schema.resolve? name = some (declared, model))
    (hdistinct : layout.Distinct requested)
    (hdefault : key ∉ (options.defaultsFor name declared (layout.selectionOf requested)).keys)
    (hselect : layout.select? (node options schema layout name requested) key = some kept) :
    ∃ asked, layout.select? requested key = some asked ∧
      Keeps options schema layout model
        (options.excludesFor name declared (layout.selectionOf requested)) key asked kept := by
  cases hmembers : requested.members? with
  | none =>
      rw [node_of_members?_eq_none hmembers, Layout.select?_eq_find?,
        Layout.selectionOf_of_members?_eq_none hmembers] at hselect
      simp at hselect
  | some members =>
      have hobject : requested.members?.isSome := by rw [hmembers, Option.isSome_some]
      -- no default stands under the name, so what is found there was kept
      have hnone : (options.defaultsFor name declared (layout.selectionOf requested)).find? key =
          none := Entries.find?_eq_none_iff.mpr hdefault
      rw [Layout.select?_eq_find?, selectionOf_node hresolve hobject,
        find?_filtered hdistinct.keys_nodup, hnone, Option.or_none] at hselect
      obtain ⟨asked, hasked, houtcome⟩ := Option.bind_eq_some_iff.mp hselect
      refine ⟨asked, ?_, outcome_value?_eq_some_iff.mp houtcome⟩
      rw [Layout.select?_eq_find?, hasked]

end FieldProjection.Filter
