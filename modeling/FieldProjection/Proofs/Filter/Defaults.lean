import FieldProjection.Proofs.Filter.Grant

/-!
# Default fields and the order of names

A filtered selection starts with the default fields of its model, in the order of the defaults, and
goes on with the requested fields that remain and are no defaults, in the order of the request. A
requested field that remains has its own value also where a default field has the same name.
`Layered` says all of this of one selection, and `selection?_node_layered` that it holds of every
filtered node, whatever is below the node.
-/

namespace FieldProjection.Filter

variable (options : Options) (schema : Schema) (layout : Layout)

/-- A requested field remains if it reaches the filtered selection with some value. -/
def Remains (model : Model) (excluded : List String) (field : String × Json) : Prop :=
  ∃ kept, Keeps options schema layout model excluded field.1 field.2 kept

/-- A field remains exactly when its outcome has a value. -/
theorem value?_outcome_isSome_iff {model : Model} {excluded : List String}
    {field : String × Json} :
    (outcome options schema layout model excluded field.1 field.2).value?.isSome = true ↔
      Remains options schema layout model excluded field := by
  rw [Option.isSome_iff_exists]
  exact exists_congr fun kept => outcome_value?_eq_some_iff

/-- Whether a field remains is told by its outcome. -/
instance (model : Model) (excluded : List String) :
    DecidablePred (Remains options schema layout model excluded) :=
  fun _ => decidable_of_iff _ (value?_outcome_isSome_iff options schema layout)

/-- `Layered name declared model requested result` says what the filtered selection of a requested
one is, for a model that is asked for under one name and declared under another. -/
structure Layered (name declared : String) (model : Model) (requested result : Selection) :
    Prop where
  /-- The names of the defaults come first, then those of the requested fields that remain and are
  no defaults, both in their own order. -/
  keys : Entries.keys result = (options.defaultsFor name declared requested).keys ++
    Entries.keys (requested.filter fun field =>
      Remains options schema layout model (options.excludesFor name declared requested) field ∧
        field.1 ∉ (options.defaultsFor name declared requested).keys)
  /-- No name is repeated. -/
  nodup : (Entries.keys result).Nodup
  /-- A requested field that remains has the value that it is kept with. -/
  kept : ∀ key asked kept, Entries.find? key requested = some asked →
    Keeps options schema layout model (options.excludesFor name declared requested) key asked
      kept →
    Entries.find? key result = some kept
  /-- A default field that was not requested or does not remain has its default value. -/
  default : ∀ key value,
    (options.defaultsFor name declared requested).find? key = some value →
    (∀ asked, Entries.find? key requested = some asked →
      ¬ Remains options schema layout model (options.excludesFor name declared requested)
        (key, asked)) →
    Entries.find? key result = some value
  /-- A relation that was requested with a node and is not excluded is never left out if its model
  has default fields. -/
  relation : ∀ key members target other inner,
    Entries.find? key requested = some (.object members) →
    key ∉ options.excludesFor name declared requested →
    model.field? key = some ⟨.relation, target⟩ →
    schema.resolve? target = some (other, inner) →
    (options.defaultsFor target other (layout.selectionOf (.object members))).keys ≠ [] →
    ∃ kept, Keeps options schema layout model (options.excludesFor name declared requested) key
        (.object members) kept ∧
      Entries.find? key result = some kept

variable {options : Options} {schema : Schema} {layout : Layout}
variable {model : Model} {name declared target key : String} {selection : Selection}

/-- The names of the defaults come first in a filtered selection, then those of the requested fields
that remain and are no defaults. -/
theorem keys_filtered (hnodup : (Entries.keys selection).Nodup) :
    Entries.keys (filtered options schema layout name declared model selection) =
      (options.defaultsFor name declared selection).keys ++
        Entries.keys (selection.filter fun field =>
          Remains options schema layout model (options.excludesFor name declared selection) field ∧
            field.1 ∉ (options.defaultsFor name declared selection).keys) := by
  rw [filtered_eq_insertAll,
    Entries.keys_insertAll _ (Entries.nodup_keys_filterMapValues _ hnodup),
    Entries.keys_filterMapValues, ← Entries.keys_filter, List.filter_filter]
  -- the names are tested after the fields: both tests are made of the field
  refine congrArg (fun fields => _ ++ Entries.keys fields) (List.filter_congr ?_)
  intro field _
  rw [Bool.eq_iff_iff, decide_eq_true_iff, Bool.and_eq_true, value?_outcome_isSome_iff, and_comm]
  exact and_congr_right fun _ => decide_eq_true_iff

/-- A node with default fields selects something, whatever was requested. -/
theorem hasSelection_node_of_defaults {value : Json} (hobject : value.members?.isSome)
    (hresolve : schema.resolve? name = some (declared, model))
    (hdefaults : (options.defaultsFor name declared (layout.selectionOf value)).keys ≠ []) :
    layout.hasSelection (node options schema layout name value) = true := by
  obtain ⟨key, hkey⟩ := List.exists_mem_of_ne_nil _ hdefaults
  have hseeded : key ∈ Entries.keys
      (layout.selectionOf (node options schema layout name value)) := by
    rw [selectionOf_node hresolve hobject, filtered_eq_insertAll]
    exact Entries.mem_keys_insertAll.mpr (.inl hkey)
  obtain ⟨seeded, hfind⟩ := Option.isSome_iff_exists.mp (Entries.isSome_find?_iff.mpr hseeded)
  rw [← Layout.select?_eq_find?] at hfind
  exact Layout.hasSelection_of_select? hfind

/-- The filtered selection of a requested one starts with the defaults and goes on with the
requested fields that remain. -/
theorem filtered_layered (hnodup : (Entries.keys selection).Nodup) :
    Layered options schema layout name declared model selection
      (filtered options schema layout name declared model selection) where
  keys := keys_filtered hnodup
  nodup := by
    rw [filtered_eq_insertAll]
    exact Entries.nodup_keys_insertAll _ (OrderedMap.nodup _)
  kept := fun _ _ _ hasked hkeeps => find?_filtered_of_keeps hnodup hasked hkeeps
  default := by
    intro key value hvalue hgone
    have hnone : ((Entries.find? key selection).bind fun asked =>
        (outcome options schema layout model (options.excludesFor name declared selection) key
          asked).value?) = none := by
      rw [Option.bind_eq_none_iff]
      intro asked hasked
      rw [Option.eq_none_iff_forall_not_mem]
      intro kept hkept
      exact hgone asked hasked ⟨kept, outcome_value?_eq_some_iff.mp hkept⟩
    rw [find?_filtered hnodup, hnone, Option.none_or, hvalue]
  relation := by
    intro key members target other inner hasked hexcluded hfield hresolve hdefaults
    suffices hremains : ∃ kept, Keeps options schema layout model
        (options.excludesFor name declared selection) key (.object members) kept by
      obtain ⟨kept, hkeeps⟩ := hremains
      exact ⟨kept, hkeeps, find?_filtered_of_keeps hnodup hasked hkeeps⟩
    by_cases hcount : key = countKey
    · exact ⟨_, .count hexcluded hcount⟩
    · -- the defaults of its model are left of the node in any case
      have hleft := hasSelection_node_of_defaults rfl hresolve hdefaults
      exact ⟨_, .relation target hexcluded hcount hfield (.inr hleft)⟩

/-- The selection of a filtered node starts with the default fields of its model, in their order.
The requested fields that remain and are no defaults follow in theirs. All that remain have the
values that they are kept with, the other defaults their own. A relation whose model has default
fields remains if it was requested with a node and is not excluded. -/
theorem selection?_node_layered {requested : Json}
    (hresolve : schema.resolve? name = some (declared, model)) (hobject : requested.isObject)
    (hnodup : (Entries.keys (layout.selectionOf requested)).Nodup) :
    ∃ result, layout.selection? (node options schema layout name requested) = some result ∧
      Layered options schema layout name declared model (layout.selectionOf requested) result := by
  obtain ⟨members, hmembers⟩ := Option.isSome_iff_exists.mp hobject
  obtain rfl := Json.members?_eq_some_iff.mp hmembers
  refine ⟨_, ?_, filtered_layered hnodup⟩
  rw [node_object options schema layout hresolve, Layout.selection?_replace]

/-- The options of the example with defaults of users that are computed: one that is not declared,
one that is excluded, and one that depends on what was requested. -/
def seededOptions : Options :=
  Projector.blogRequest.options.withDefaults "User" (.computed fun selection =>
    .ofList [("token", .null), ("password", .bool false), ("images", .bool selection.isEmpty)])

/-- In the example the three defaults come first, although the password is excluded. -/
theorem selection?_node_layered_blogRequest :
    let requested := Projector.blogRequest.projection
    Projector.blogSchema.resolve? "User" = some ("User", Projector.blogUser) ∧
      requested.isObject ∧ (Entries.keys (Layout.wrapped.selectionOf requested)).Nodup ∧
      ∃ result, Layout.wrapped.selection?
          (node seededOptions Projector.blogSchema .wrapped "User" requested) = some result ∧
        Layered seededOptions Projector.blogSchema .wrapped "User" "User" Projector.blogUser
          (Layout.wrapped.selectionOf requested) result ∧
        Entries.keys result = ["token", "password", "images", "id", "posts"] := by
  intro requested
  have hnodup : (Entries.keys (Layout.wrapped.selectionOf requested)).Nodup := by decide
  obtain ⟨result, hresult, hlayered⟩ : ∃ result,
      Layout.wrapped.selection?
          (node seededOptions Projector.blogSchema .wrapped "User" requested) = some result ∧
        Layered seededOptions Projector.blogSchema .wrapped "User" "User" Projector.blogUser
          (Layout.wrapped.selectionOf requested) result :=
    selection?_node_layered rfl rfl hnodup
  refine ⟨rfl, rfl, hnodup, result, hresult, hlayered, ?_⟩
  rw [hlayered.keys]
  rfl

end FieldProjection.Filter
