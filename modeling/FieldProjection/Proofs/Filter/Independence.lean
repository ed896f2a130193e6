import FieldProjection.Proofs.Filter.Grant
import FieldProjection.Proofs.Options.Fixed

/-!
# Fields are filtered independently

With fixed options, what a requested field becomes depends on nothing but its own value: nodes that
agree under a name are filtered to nodes that agree under it (`select?_node_congr`). And a field
that is dropped leaves no trace. `strip` removes from a node, at every level that filtering walks,
the fields that are excluded and those that are not declared, and the stripped node is filtered to
the same node as the whole one (`node_strip`), although relations are pruned for what is left below
them.
-/

namespace FieldProjection

namespace Filter

variable (options : Options) (schema : Schema) (layout : Layout)

mutual
/-- A node without the fields that are dropped when it is filtered against the model of a type name,
on its own level and below its relations. -/
def strip (name : String) : Json → Json
  | .object members =>
    match schema.resolve? name with
    | none => .object members
    | some (declared, model) =>
      match layout with
      | .flat => .object (stripFields model (options.excludesFor name declared members) members)
      | .wrapped => .object (stripMembers name declared model members)
  | value => value

/-- The members of a wrapped node, of which the one under `select` is stripped. -/
def stripMembers (name declared : String) (model : Model) :
    List (String × Json) → List (String × Json)
  | [] => []
  | (key, value) :: rest =>
    if key = Layout.selectKey then (key, stripSelected name declared model value) :: rest
    else (key, value) :: stripMembers name declared model rest

/-- The object with the selection of a wrapped node, stripped. -/
def stripSelected (name declared : String) (model : Model) : Json → Json
  | .object selection =>
    .object (stripFields model (options.excludesFor name declared selection) selection)
  | value => value

/-- The fields of a selection except for those that are excluded and those that are neither the
count nor declared. Below relations, nodes are stripped in turn. -/
def stripFields (model : Model) (excluded : List String) : List (String × Json) → Selection
  | [] => []
  | (key, value) :: rest =>
    if excluded.contains key then stripFields model excluded rest
    else if key = countKey then (key, value) :: stripFields model excluded rest
    else
      match model.field? key with
      | none => stripFields model excluded rest
      | some ⟨.relation, target⟩ => (key, strip target value) :: stripFields model excluded rest
      | some _ => (key, value) :: stripFields model excluded rest
end

/-- What is left of a single field, nothing if it is dropped. -/
def stripField? (model : Model) (excluded : List String) (key : String) (value : Json) :
    Option Json :=
  if excluded.contains key then none
  else if key = countKey then some value
  else
    match model.field? key with
    | none => none
    | some ⟨.relation, target⟩ => some (strip options schema layout target value)
    | some _ => some value

/-- The fields of a selection are stripped one by one. -/
theorem stripFields_eq_filterMapValues (model : Model) (excluded : List String)
    (selection : Selection) :
    stripFields options schema layout model excluded selection =
      Entries.filterMapValues (stripField? options schema layout model excluded) selection := by
  induction selection with
  | nil => rfl
  | cons entry rest ih =>
      obtain ⟨key, value⟩ := entry
      rw [stripFields, Entries.filterMapValues_cons, ih, stripField?]
      by_cases hexcluded : excluded.contains key = true
      · rw [if_pos hexcluded, if_pos hexcluded]
      · rw [if_neg hexcluded, if_neg hexcluded]
        by_cases hcount : key = countKey
        · rw [if_pos hcount, if_pos hcount]
        · rw [if_neg hcount, if_neg hcount]
          cases model.field? key with
          | none => rfl
          | some field =>
              obtain ⟨kind, target⟩ := field
              cases kind <;> rfl

/-- The members of a node without a selection stay as they are. -/
theorem stripMembers_of_no_selection {name declared : String} {model : Model}
    {members : List (String × Json)} (h : Layout.wrapped.selection? (.object members) = none) :
    stripMembers options schema layout name declared model members = members := by
  induction members with
  | nil => rfl
  | cons entry rest ih =>
      obtain ⟨key, value⟩ := entry
      rw [stripMembers]
      by_cases hkey : key = Layout.selectKey
      · rw [if_pos hkey]
        cases value with
        | object selection =>
            simp [Layout.selection?, Json.find?, Json.members?, Entries.find?, hkey] at h
        | _ => rfl
      · rw [if_neg hkey, ih]
        simpa [Layout.selection?, Json.find?, Json.members?, Entries.find?, hkey] using h

/-- The selection of a node is stripped in its place among the members. -/
theorem stripMembers_of_selection? {name declared : String} {model : Model}
    {members : List (String × Json)} {selection : Selection}
    (h : Layout.wrapped.selection? (.object members) = some selection) :
    stripMembers options schema layout name declared model members =
      Entries.insert Layout.selectKey (.object (stripFields options schema layout model
        (options.excludesFor name declared selection) selection)) members := by
  induction members with
  | nil => simp [Layout.selection?, Json.find?, Json.members?] at h
  | cons entry rest ih =>
      obtain ⟨key, value⟩ := entry
      rw [stripMembers, Entries.insert]
      by_cases hkey : key = Layout.selectKey
      · rw [if_pos hkey, if_pos hkey]
        have hvalue : value.members? = some selection := by
          simpa [Layout.selection?, Json.find?, Json.members?, Entries.find?, hkey] using h
        obtain rfl := Json.members?_eq_some_iff.mp hvalue
        rw [stripSelected]
      · rw [if_neg hkey, if_neg hkey, ih]
        simpa [Layout.selection?, Json.find?, Json.members?, Entries.find?, hkey] using h

variable {options : Options} {schema : Schema} {layout : Layout}
variable {model : Model} {name declared key : String} {excluded : List String}

/-- A value that is no object has nothing to be stripped of. -/
theorem strip_of_members?_eq_none {value : Json} (h : value.members? = none) :
    strip options schema layout name value = value := by
  cases value with
  | object members => exact False.elim (Option.some_ne_none _ h)
  | null | bool _ | number _ | string _ | array _ => rfl

/-- A value for an unknown type is not stripped. -/
theorem strip_of_unresolved (hresolve : schema.resolve? name = none) (value : Json) :
    strip options schema layout name value = value := by
  cases value <;> simp [strip, hresolve]

/-- A node with a selection is stripped by stripping the selection. -/
theorem strip_of_selection? {members : List (String × Json)} {selection : Selection}
    (hresolve : schema.resolve? name = some (declared, model))
    (hselection : layout.selection? (.object members) = some selection) :
    strip options schema layout name (.object members) =
      layout.replace (stripFields options schema layout model
        (options.excludesFor name declared selection) selection) members := by
  cases layout with
  | flat =>
      obtain rfl : members = selection := Option.some.inj hselection
      simp [strip, hresolve, Layout.replace]
  | wrapped =>
      simp [strip, hresolve, Layout.replace,
        stripMembers_of_selection? options schema .wrapped hselection]

/-- A node without a selection has nothing to be stripped of. -/
theorem strip_of_no_selection {members : List (String × Json)}
    (hselection : layout.selection? (.object members) = none) :
    strip options schema layout name (.object members) = .object members := by
  cases hresolve : schema.resolve? name with
  | none => exact strip_of_unresolved hresolve _
  | some found =>
      cases layout with
      | flat => exact False.elim (Option.some_ne_none _ hselection)
      | wrapped =>
          simp [strip, hresolve, stripMembers_of_no_selection options schema .wrapped hselection]

/-! ## Siblings -/

/-- What a filtered node selects under a name depends only on what was requested under it. -/
theorem select?_node_congr (hfixed : options.IsFixed) {first second : Json}
    (hobject : first.isObject = second.isObject)
    (hfirst : (Entries.keys (layout.selectionOf first)).Nodup)
    (hsecond : (Entries.keys (layout.selectionOf second)).Nodup)
    (hagree : layout.select? first key = layout.select? second key) :
    layout.select? (node options schema layout name first) key =
      layout.select? (node options schema layout name second) key := by
  cases hresolve : schema.resolve? name with
  | none =>
      rw [node_of_unresolved options schema layout hresolve,
        node_of_unresolved options schema layout hresolve, hagree]
  | some found =>
      obtain ⟨declared, model⟩ := found
      cases hkind : first.isObject with
      | false =>
          have hother : second.isObject = false := by rw [← hobject, hkind]
          rw [node_of_members?_eq_none (Json.isObject_eq_false_iff.mp hkind),
            node_of_members?_eq_none (Json.isObject_eq_false_iff.mp hother), hagree]
      | true =>
          have hother : second.isObject = true := by rw [← hobject, hkind]
          rw [Layout.select?_eq_find?, Layout.select?_eq_find?] at hagree
          -- the lists of the options are the same for both selections
          rw [Layout.select?_eq_find?, Layout.select?_eq_find?, selectionOf_node hresolve hkind,
            selectionOf_node hresolve hother, find?_filtered hfirst, find?_filtered hsecond, hagree,
            hfixed.defaultsFor_eq name declared (layout.selectionOf first)
              (layout.selectionOf second),
            hfixed.excludesFor_eq name declared (layout.selectionOf first)
              (layout.selectionOf second)]

/-! ## Dropped fields -/

/-- A field that is dropped has no value, and any other has the value of what is left of it,
provided that this holds below relations. -/
theorem value?_outcome_stripField? {value : Json}
    (hbelow : ∀ target, node options schema layout target
      (strip options schema layout target value) = node options schema layout target value) :
    ((stripField? options schema layout model excluded key value).bind fun left =>
        (outcome options schema layout model excluded key left).value?) =
      (outcome options schema layout model excluded key value).value? := by
  unfold stripField? outcome
  by_cases hexcluded : excluded.contains key = true
  · rw [if_pos hexcluded, if_pos hexcluded]
    rfl
  · rw [if_neg hexcluded, if_neg hexcluded]
    by_cases hcount : key = countKey
    · rw [if_pos hcount, if_pos hcount, Option.bind_some, if_neg hexcluded, if_pos hcount]
    · rw [if_neg hcount, if_neg hcount]
      cases model.field? key with
      | none => rfl
      | some field =>
          obtain ⟨kind, target⟩ := field
          cases kind with
          | relation => simp only [Option.bind_some, if_neg hexcluded, if_neg hcount, hbelow]
          | scalar | enumeration =>
              simp only [Option.bind_some, if_neg hexcluded, if_neg hcount]

/-- A stripped selection is filtered to the same selection, provided that this holds below its
relations. -/
theorem filtered_stripFields (hfixed : options.IsFixed) (name declared : String) (model : Model)
    {selection : Selection}
    (hbelow : ∀ key value, (key, value) ∈ selection → ∀ target,
      node options schema layout target (strip options schema layout target value) =
        node options schema layout target value) :
    filtered options schema layout name declared model
        (stripFields options schema layout model (options.excludesFor name declared selection)
          selection) =
      filtered options schema layout name declared model selection := by
  rw [filtered_eq_insertAll, filtered_eq_insertAll, stripFields_eq_filterMapValues,
    hfixed.defaultsFor_eq name declared _ selection,
    hfixed.excludesFor_eq name declared (Entries.filterMapValues _ _) selection]
  refine congrArg (Entries.insertAll _) (Entries.filterMapValues_filterMapValues ?_)
  intro key value hmem
  exact value?_outcome_stripField? (hbelow key value hmem)

/-- A node with a replaced selection is filtered by filtering that selection. -/
theorem node_replace (hresolve : schema.resolve? name = some (declared, model))
    (selection : Selection) (members : List (String × Json)) :
    node options schema layout name (layout.replace selection members) =
      layout.replace (filtered options schema layout name declared model selection) members := by
  have hselection := Layout.selection?_replace layout selection members
  cases layout with
  | flat =>
      rw [Layout.replace] at hselection ⊢
      rw [node_object options schema .flat hresolve, Layout.selectionOf, hselection]
      rfl
  | wrapped =>
      rw [Layout.replace] at hselection ⊢
      rw [node_object options schema .wrapped hresolve, Layout.selectionOf, hselection,
        Layout.replace, Layout.replace, Entries.insert_insert]
      rfl

/-- A stripped node is filtered to the same node as the whole one. -/
theorem node_strip (hfixed : options.IsFixed) (name : String) (value : Json) :
    node options schema layout name (strip options schema layout name value) =
      node options schema layout name value := by
  induction name, value using level_induction schema layout with
  | other name value hmembers => rw [strip_of_members?_eq_none hmembers]
  | unknown name value hresolve => rw [strip_of_unresolved hresolve]
  | level name declared model members hresolve ih =>
      cases hselection : layout.selection? (.object members) with
      | none => rw [strip_of_no_selection hselection]
      | some selection =>
          have hown : layout.selectionOf (.object members) = selection := by
            rw [Layout.selectionOf, hselection, Option.getD_some]
          rw [hown] at ih
          have hfiltered := filtered_stripFields hfixed name declared model ih
          rw [strip_of_selection? hresolve hselection, node_replace hresolve, hfiltered,
            node_object options schema layout hresolve, hown]

/-- With fixed options, requested fields do not influence one another: nodes that agree under a name
are filtered to nodes that agree under it, whatever else they select. Dropped fields leave no trace:
without them, on whatever level they were requested, a node is filtered to the same node. -/
theorem fields_independent (options : Options) (schema : Schema) (layout : Layout)
    (hfixed : options.IsFixed) (name : String) :
    (∀ (first second : Json) (key : String), first.isObject = second.isObject →
      (Entries.keys (layout.selectionOf first)).Nodup →
      (Entries.keys (layout.selectionOf second)).Nodup →
      layout.select? first key = layout.select? second key →
      layout.select? (node options schema layout name first) key =
        layout.select? (node options schema layout name second) key) ∧
    ∀ value, node options schema layout name (strip options schema layout name value) =
      node options schema layout name value := by
  constructor
  · intro first second key hobject hfirst hsecond hagree
    exact select?_node_congr hfixed hobject hfirst hsecond hagree
  · intro value
    exact node_strip hfixed name value

/-- A request that shares the posts of the example and asks for nothing else that it asks for. -/
def postsRequest : Json :=
  Layout.wrapped.node [("token", .bool true),
    ("posts", (Layout.wrapped.select? Projector.blogRequest.projection "posts").getD .null)]

/-- The posts come out the same in both requests. Nothing is left of their authors, with or without
the password and the token that are dropped there. -/
theorem fields_independent_blogRequest :
    let options := Projector.blogRequest.options
    let schema := Projector.blogSchema
    let requested := Projector.blogRequest.projection
    let stripped := strip options schema .wrapped "User" requested
    options.IsFixed ∧ requested.isObject = postsRequest.isObject ∧
      (Entries.keys (Layout.wrapped.selectionOf requested)).Nodup ∧
      (Entries.keys (Layout.wrapped.selectionOf postsRequest)).Nodup ∧
      Layout.wrapped.select? requested "posts" = Layout.wrapped.select? postsRequest "posts" ∧
      Layout.wrapped.select? (node options schema .wrapped "User" requested) "posts" =
        Layout.wrapped.select? (node options schema .wrapped "User" postsRequest) "posts" ∧
      Layout.wrapped.selectPath? stripped ["posts", "author"] = some (Layout.wrapped.node []) ∧
      node options schema .wrapped "User" stripped =
        node options schema .wrapped "User" requested := by
  intro options schema requested stripped
  have hfixed : options.IsFixed := ⟨by decide, by decide⟩
  have hfirst : (Entries.keys (Layout.wrapped.selectionOf requested)).Nodup := by decide
  have hsecond : (Entries.keys (Layout.wrapped.selectionOf postsRequest)).Nodup := by decide
  obtain ⟨hsiblings, hdropped⟩ := fields_independent options schema .wrapped hfixed "User"
  exact ⟨hfixed, rfl, hfirst, hsecond, rfl,
    hsiblings requested postsRequest "posts" rfl hfirst hsecond rfl, rfl, hdropped requested⟩

end Filter

end FieldProjection
