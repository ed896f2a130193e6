import FieldProjection.Proofs.Filter.Defaults
import FieldProjection.Proofs.Options.Fixed

/-!
# Filtering twice

`Settled` describes the nodes that filtering has nothing to do with: their selections start with the
default fields, and whatever they select is a default field by `true` or would be kept as it is.
With fixed options and bare defaults, a filtered node is settled (`settled_node`) and a settled node
stays as it is (`Settled.node_eq_self`). So filtering is idempotent, and the settled nodes are all
that it can result in.
-/

namespace FieldProjection

/-- Only an object has a selection. -/
theorem Layout.exists_eq_object_of_selection? {layout : Layout} {value : Json}
    {selection : Selection} (h : layout.selection? value = some selection) :
    ∃ members, value = .object members := by
  cases value with
  | object members => exact ⟨members, rfl⟩
  | _ => cases layout <;> exact False.elim (Option.some_ne_none _ h.symm)

/-- A node with its own selection put in its place is the same node. -/
theorem Layout.replace_eq_self {layout : Layout} {members : List (String × Json)}
    {selection : Selection} (h : layout.selection? (.object members) = some selection) :
    layout.replace selection members = .object members := by
  cases layout with
  | flat =>
      obtain rfl : members = selection := Option.some.inj h
      rfl
  | wrapped =>
      obtain ⟨inner, hinner, hselection⟩ := Option.bind_eq_some_iff.mp h
      obtain rfl := Json.members?_eq_some_iff.mp hselection
      exact congrArg Json.object (Entries.insert_of_find? hinner)

namespace Filter

variable (options : Options) (schema : Schema) (layout : Layout)

mutual
/-- `Settled name node` says that a node is one that filtering against the model of a type name can
result in: it is no object, or its type is unknown, or its selection repeats no name, starts with
the default fields, and holds settled fields only. -/
inductive Settled : String → Json → Prop where
  | other (name) {value : Json} : value.isObject = false → Settled name value
  | unknown {name : String} (value) : schema.resolve? name = none → Settled name value
  | level {name declared : String} {model : Model} {value : Json} {selection : Selection} :
      schema.resolve? name = some (declared, model) →
      layout.selection? value = some selection →
      (Entries.keys selection).Nodup →
      (options.defaultsFor name declared selection).keys <+: Entries.keys selection →
      (∀ key field, (key, field) ∈ selection →
        SettledField (options.defaultsFor name declared selection).keys model
          (options.excludesFor name declared selection) key field) →
      Settled name value

/-- `SettledField seeded model excluded key value` says that a field of a settled selection is a
default field selected by `true`, or is not excluded and has a value that its kind is kept with: the
count any, a column `true`, and a relation `true` or a settled node that selects something. -/
inductive SettledField : List String → Model → List String → String → Json → Prop where
  | seeded {seeded : List String} {key : String} (model excluded) :
      key ∈ seeded → SettledField seeded model excluded key (.bool true)
  | count {excluded : List String} {key : String} (seeded model value) :
      key ∉ excluded → key = countKey → SettledField seeded model excluded key value
  | column {model : Model} {excluded : List String} {key : String} (seeded) (field : Field) :
      key ∉ excluded → key ≠ countKey →
      model.field? key = some field → field.isRelation = false →
      SettledField seeded model excluded key (.bool true)
  | relation {model : Model} {excluded : List String} {key : String} {value : Json} (seeded)
      (target : String) :
      key ∉ excluded → key ≠ countKey →
      model.field? key = some ⟨.relation, target⟩ →
      (value = .bool true ∨ layout.hasSelection value = true) →
      Settled target value →
      SettledField seeded model excluded key value
end

variable {options : Options} {schema : Schema} {layout : Layout}
variable {model : Model} {name declared key : String} {excluded seeded : List String}
variable {requested kept value : Json} {selection : Selection}

/-! ## Filtered nodes are settled -/

/-- A field that is kept is settled, provided that the nodes below it are. -/
theorem Keeps.settled (h : Keeps options schema layout model excluded key requested kept)
    (hbelow : ∀ target, Settled options schema layout target
      (node options schema layout target requested)) :
    SettledField options schema layout seeded model excluded key kept := by
  cases h with
  | count hexcluded hcount => exact .count seeded model requested hexcluded hcount
  | column field hexcluded hcount hfield hrelation =>
      exact .column seeded field hexcluded hcount hfield hrelation
  | relation target hexcluded hcount hfield hkept =>
      exact .relation seeded target hexcluded hcount hfield hkept (hbelow target)

/-- A field of a filtered selection is settled, provided that the nodes below it are. -/
theorem settledField_of_mem_filtered (hbare : options.DefaultsBare)
    (hbelow : ∀ key asked, (key, asked) ∈ selection → ∀ target,
      Settled options schema layout target (node options schema layout target asked))
    (hmem : (key, value) ∈ filtered options schema layout name declared model selection) :
    SettledField options schema layout (options.defaultsFor name declared selection).keys model
      (options.excludesFor name declared selection) key value := by
  rw [filtered_eq_insertAll] at hmem
  rcases Entries.mem_of_mem_insertAll hmem with hseeded | hkept
  · obtain rfl := hbare.eq_true name declared selection hseeded
    exact .seeded model _ (Entries.mem_keys_of_mem hseeded)
  · obtain ⟨asked, hasked, houtcome⟩ := Entries.mem_filterMapValues.mp hkept
    exact (outcome_value?_eq_some_iff.mp houtcome).settled (hbelow key asked hasked)

/-- With fixed options and bare defaults, a filtered node is settled. -/
theorem settled_node (hfixed : options.IsFixed) (hbare : options.DefaultsBare) (name : String)
    (value : Json) :
    Settled options schema layout name (node options schema layout name value) := by
  induction name, value using level_induction schema layout with
  | other name value hmembers =>
      rw [node_of_members?_eq_none hmembers]
      exact .other name (Json.isObject_eq_false_iff.mpr hmembers)
  | unknown name value hresolve => exact .unknown _ hresolve
  | level name declared model members hresolve ih =>
      rw [node_object options schema layout hresolve]
      -- fixed options say the same of the filtered selection as of the requested one
      refine .level hresolve (Layout.selection?_replace _ _ _) ?_ ?_ ?_
      · rw [filtered_eq_insertAll]
        exact Entries.nodup_keys_insertAll _ (OrderedMap.nodup _)
      · rw [hfixed.defaultsFor_eq name declared _ (layout.selectionOf (.object members)),
          filtered_eq_insertAll]
        exact Entries.keys_prefix_keys_insertAll _ _
      · intro key field hmem
        rw [hfixed.defaultsFor_eq name declared _ (layout.selectionOf (.object members)),
          hfixed.excludesFor_eq name declared _ (layout.selectionOf (.object members))]
        exact settledField_of_mem_filtered hbare ih hmem

/-! ## Settled nodes are not changed -/

/-- Whatever is kept of a bare request is bare. -/
theorem Keeps.eq_true (h : Keeps options schema layout model excluded key (.bool true) kept) :
    kept = .bool true := by
  cases h with
  | count | column => rfl
  | relation => exact node_eq_true_iff.mpr rfl

/-- A settled field is kept as it is or is a default field by `true`, provided that the settled
nodes below it are not changed. -/
theorem SettledField.keeps_or_seeded
    (h : SettledField options schema layout seeded model excluded key value)
    (hbelow : ∀ target, Settled options schema layout target value →
      node options schema layout target value = value) :
    Keeps options schema layout model excluded key value value ∨
      key ∈ seeded ∧ value = .bool true := by
  cases h with
  | seeded _ _ hseeded => exact .inr ⟨hseeded, rfl⟩
  | count _ _ _ hexcluded hcount => exact .inl (.count hexcluded hcount)
  | column _ field hexcluded hcount hfield hrelation =>
      exact .inl (.column field hexcluded hcount hfield hrelation)
  | relation _ target hexcluded hcount hfield hkept hsettled =>
      have hsame := hbelow target hsettled
      have hkeeps : Keeps options schema layout model excluded key value
          (node options schema layout target value) :=
        .relation target hexcluded hcount hfield (by rwa [hsame])
      rw [hsame] at hkeeps
      exact .inl hkeeps

/-- A selection that starts with the defaults keeps its names if all others of its fields remain. -/
theorem keys_filtered_eq_keys (hnodup : (Entries.keys selection).Nodup)
    (hstarts : (options.defaultsFor name declared selection).keys <+: Entries.keys selection)
    (hremain : ∀ field ∈ selection,
      field.1 ∉ (options.defaultsFor name declared selection).keys →
      Remains options schema layout model (options.excludesFor name declared selection) field) :
    Entries.keys (filtered options schema layout name declared model selection) =
      Entries.keys selection := by
  have hbehind : (selection.filter fun field =>
      Remains options schema layout model (options.excludesFor name declared selection) field ∧
        field.1 ∉ (options.defaultsFor name declared selection).keys) =
      selection.filter fun field =>
        field.1 ∉ (options.defaultsFor name declared selection).keys := by
    apply List.filter_congr
    intro field hmem
    rw [decide_eq_decide, and_iff_right_iff_imp]
    exact hremain field hmem
  rw [keys_filtered hnodup, hbehind,
    Entries.keys_filter (· ∉ (options.defaultsFor name declared selection).keys),
    Entries.append_filter_not_mem hstarts hnodup]

/-- A selection that starts with bare defaults and holds otherwise what is kept as it is does not
change. -/
theorem filtered_eq_self (hbare : options.DefaultsBare) (hnodup : (Entries.keys selection).Nodup)
    (hstarts : (options.defaultsFor name declared selection).keys <+: Entries.keys selection)
    (hfields : ∀ key value, (key, value) ∈ selection →
      Keeps options schema layout model (options.excludesFor name declared selection) key value
          value ∨
        key ∈ (options.defaultsFor name declared selection).keys ∧ value = .bool true) :
    filtered options schema layout name declared model selection = selection := by
  have hkeys : Entries.keys (filtered options schema layout name declared model selection) =
      Entries.keys selection := by
    apply keys_filtered_eq_keys hnodup hstarts
    intro field hmem hdefault
    rcases hfields field.1 field.2 hmem with hkeeps | ⟨hseeded, _⟩
    · exact ⟨_, hkeeps⟩
    · exact False.elim (hdefault hseeded)
  symm
  apply Entries.eq_of_find?_eq hnodup hkeys.symm
  intro key hkey
  obtain ⟨value, hvalue⟩ := Option.isSome_iff_exists.mp (Entries.isSome_find?_iff.mpr hkey)
  rcases hfields key value (Entries.mem_of_find? hvalue) with hkeeps | ⟨hseeded, rfl⟩
  · rw [hvalue, find?_filtered_of_keeps hnodup hvalue hkeeps]
  · rw [find?_filtered hnodup, hvalue, Option.bind_some]
    -- if the field is left out, the default is there instead
    cases houtcome : (outcome options schema layout model
        (options.excludesFor name declared selection) key (.bool true)).value? with
    | some kept => rw [(outcome_value?_eq_some_iff.mp houtcome).eq_true, Option.some_or]
    | none =>
        obtain ⟨default, hdefault⟩ :=
          Option.isSome_iff_exists.mp (Entries.isSome_find?_iff.mpr hseeded)
        obtain rfl : default = .bool true :=
          hbare.eq_true name declared selection (Entries.mem_of_find? hdefault)
        rw [Option.none_or]
        exact hdefault.symm

/-- With bare defaults, a settled node stays as it is. -/
theorem Settled.node_eq_self (hbare : options.DefaultsBare)
    (h : Settled options schema layout name value) :
    node options schema layout name value = value := by
  induction value using layout.selection_induction generalizing name with
  | step value ih =>
      cases h with
      | other _ hobject =>
          exact node_of_members?_eq_none (Json.isObject_eq_false_iff.mp hobject)
      | unknown _ hresolve => exact node_of_unresolved options schema layout hresolve value
      | @level _ declared model _ selection hresolve hselection hnodup hstarts hfields =>
          obtain ⟨members, rfl⟩ := Layout.exists_eq_object_of_selection? hselection
          have hown : layout.selectionOf (.object members) = selection := by
            rw [Layout.selectionOf, hselection, Option.getD_some]
          have hkept (key : String) (field : Json) (hmem : (key, field) ∈ selection) :=
            (hfields key field hmem).keeps_or_seeded fun target hsettled =>
              ih key field (hown ▸ hmem) hsettled
          rw [node_object options schema layout hresolve, hown,
            filtered_eq_self hbare hnodup hstarts hkept, Layout.replace_eq_self hselection]

/-- With fixed options and bare defaults, filtering a filtered node again does not change it. The
nodes that filtering does not change are the settled ones. -/
theorem node_idempotent (hfixed : options.IsFixed) (hbare : options.DefaultsBare) (name : String)
    (value : Json) :
    node options schema layout name (node options schema layout name value) =
        node options schema layout name value ∧
      (node options schema layout name value = value ↔
        Settled options schema layout name value) := by
  have hsettled : Settled options schema layout name (node options schema layout name value) :=
    settled_node hfixed hbare name value
  refine ⟨hsettled.node_eq_self hbare, ?_, ?_⟩
  · intro hsame
    rwa [hsame] at hsettled
  · intro h
    exact h.node_eq_self hbare

/-- The options of the example with three defaults of users: one that is excluded, a relation, and
one that is not declared. -/
def bareOptions : Options :=
  Projector.blogRequest.options.withDefaults "User" (.ofNames ["password", "posts", "token"])

/-- In the example the password that was seeded is excluded the second time. It stays, since it is
seeded again. -/
theorem node_idempotent_blogRequest :
    let requested := Projector.blogRequest.projection
    let filtered := node bareOptions Projector.blogSchema .wrapped "User" requested
    bareOptions.IsFixed ∧ bareOptions.DefaultsBare ∧
      Layout.wrapped.select? filtered "password" = some (.bool true) ∧
      node bareOptions Projector.blogSchema .wrapped "User" filtered = filtered ∧
      (filtered = requested ↔
        Settled bareOptions Projector.blogSchema .wrapped "User" requested) := by
  intro requested filtered
  have hfixed : bareOptions.IsFixed := ⟨by decide, by decide⟩
  have hbare : bareOptions.DefaultsBare := by
    intro entry hentry selection field hfield
    obtain rfl := List.mem_singleton.mp hentry
    exact Options.eq_true_of_mem_ofNames hfield
  exact ⟨hfixed, hbare, rfl, node_idempotent hfixed hbare "User" requested⟩

end Filter

end FieldProjection
