import FieldProjection.Proofs.Filter.Grant
import FieldProjection.Proofs.Options.Entry

/-!
# Aliases and declared names

When all options are set under declared names, it makes no difference by which of its names a
model is asked for (`Filter.node_alias`), nor by which of them the relations of a schema refer to
it (`Filter.node_withDeclaredTargets`).
-/

namespace FieldProjection

namespace Filter

variable {options : Options} {schema : Schema} {layout : Layout}
variable {model : Model} {name declared : String}

/-- A node is filtered in the same way under an alias of a model and under its declared name. -/
theorem node_alias (hkeyed : options.KeyedBy schema) (hempty : schema.find? "" = none)
    (hresolve : schema.resolve? name = some (declared, model)) (value : Json) :
    node options schema layout name value = node options schema layout declared value := by
  cases hmembers : value.members? with
  | none => rw [node_of_members?_eq_none hmembers, node_of_members?_eq_none hmembers]
  | some members =>
      obtain rfl := Json.members?_eq_some_iff.mp hmembers
      rw [node_object options schema layout hresolve,
        node_object options schema layout (Schema.resolve?_declared hempty hresolve), filtered,
        filtered, hkeyed.defaultsFor_alias hresolve, hkeyed.excludesFor_alias hresolve]

/-- A relation has the same outcome when its target is replaced by a declared name, any other field
has it anyway, provided that filtering below is the same. -/
theorem outcome_withDeclaredTargets (hkeyed : options.KeyedBy schema)
    (hempty : schema.find? "" = none) (model : Model) (excluded : List String) (key : String)
    {value : Json}
    (hbelow : ∀ target,
      node { options with schema := some schema.withDeclaredTargets } schema.withDeclaredTargets
        layout target value = node options schema layout target value) :
    outcome { options with schema := some schema.withDeclaredTargets }
        schema.withDeclaredTargets layout (model.withDeclaredTargets schema) excluded key value =
      outcome options schema layout model excluded key value := by
  unfold outcome
  -- both ask the same questions about the name, only the targets of relations differ
  by_cases hexcluded : excluded.contains key = true
  · rw [if_pos hexcluded, if_pos hexcluded]
  · rw [if_neg hexcluded, if_neg hexcluded]
    by_cases hcount : key = countKey
    · rw [if_pos hcount, if_pos hcount]
    · rw [if_neg hcount, if_neg hcount, Model.field?_withDeclaredTargets]
      cases model.field? key with
      | none => rfl
      | some field =>
          obtain ⟨kind, target⟩ := field
          cases kind with
          | scalar | enumeration => rfl
          | relation =>
              rw [Option.map_some, Field.withDeclaredTarget_relation]
              show Outcome.ofNode layout (node _ _ layout _ value) =
                Outcome.ofNode layout (node options schema layout target value)
              rw [hbelow]
              cases hresolve : schema.resolve? target with
              | none => rfl
              | some found =>
                  rw [node_alias hkeyed hempty hresolve]
                  rfl

/-- A node is filtered in the same way when the targets of all relations are replaced by declared
names. -/
theorem node_withDeclaredTargets (hkeyed : options.KeyedBy schema)
    (hempty : schema.find? "" = none) (name : String) (value : Json) :
    node { options with schema := some schema.withDeclaredTargets } schema.withDeclaredTargets
        layout name value = node options schema layout name value := by
  induction name, value using level_induction schema layout with
  | other name value hmembers =>
      rw [node_of_members?_eq_none hmembers, node_of_members?_eq_none hmembers]
  | unknown name value hresolve =>
      have hrewritten := Schema.resolve?_withDeclaredTargets schema name
      rw [hresolve, Option.map_none] at hrewritten
      rw [node_of_unresolved _ _ _ hrewritten, node_of_unresolved _ _ _ hresolve]
  | level name declared model members hresolve ih =>
      have hrewritten := Schema.resolve?_withDeclaredTargets schema name
      rw [hresolve, Option.map_some] at hrewritten
      rw [node_object _ _ _ hrewritten, node_object _ _ _ hresolve]
      congr 1
      rw [filtered, filtered, outcomes_eq_map, outcomes_eq_map]
      -- the options give the same defaults and exclusions, whatever schema they hold
      refine congrArg (assemble _) (List.map_congr_left fun entry hentry => ?_)
      exact congrArg (Prod.mk entry.1)
        (outcome_withDeclaredTargets hkeyed hempty model _ entry.1 (ih entry.1 entry.2 hentry))

end Filter

namespace Projector

/-- The projection of the field at a path is the same if the node at the path is and is filtered to
the same. -/
theorem valueAtWith_congr {first second : Projector} {path name other : String}
    (hnode : first.nodeAt? path = second.nodeAt? path)
    (hfilter : ∀ node, first.filter name node = second.filter other node) (override : Json) :
    first.valueAtWith path name override = second.valueAtWith path other override := by
  unfold valueAtWith
  rw [hnode]
  cases second.nodeAt? path with
  | none => rfl
  | some node => exact congrArg (fun filtered => Json.merge filtered override) (hfilter node)

/-- When all options are set under declared names and no model has the empty name, filtering under
any name of a model gives the same as under its declared name, and projections do not change when
the relations of the schema refer to models by their declared names. -/
theorem aliases_interchangeable (projector : Projector) (schema : Schema)
    (hschema : projector.options.schema = some schema) (hempty : schema.find? "" = none)
    (hkeyed : projector.options.KeyedBy schema) :
    (∀ name declared model, schema.resolve? name = some (declared, model) →
      projector.valueFor name = projector.valueFor declared ∧
      ∀ path override,
        projector.valueAtWith path name override =
          projector.valueAtWith path declared override) ∧
    (let rewritten : Projector := { projector with
        options := { projector.options with schema := some schema.withDeclaredTargets } }
      ∀ name path override,
        rewritten.valueFor name = projector.valueFor name ∧
        rewritten.valueAt path = projector.valueAt path ∧
        rewritten.valueAtWith path name override =
          projector.valueAtWith path name override) := by
  constructor
  · intro name declared model hresolve
    have hfilter (node : Json) : projector.filter name node = projector.filter declared node := by
      rw [filter, filter, hschema]
      exact Filter.node_alias hkeyed hempty hresolve node
    exact ⟨hfilter projector.projection,
      fun path override => valueAtWith_congr rfl hfilter override⟩
  · intro rewritten name path override
    have hfilter (node : Json) : rewritten.filter name node = projector.filter name node := by
      rw [filter, filter, hschema]
      exact Filter.node_withDeclaredTargets hkeyed hempty name node
    -- the projection and the nodes at its paths do not depend on the options
    have hnode : rewritten.nodeAt? path = projector.nodeAt? path := rfl
    exact ⟨hfilter projector.projection, rfl, valueAtWith_congr hnode hfilter override⟩

/-- The example with titles selected by default for posts, which users refer to as articles. -/
theorem aliases_interchangeable_blogRequest :
    let projector : Projector :=
      ⟨blogRequest.info, blogRequest.options.withDefaults "Post" (.ofNames ["title"])⟩
    let rewritten : Projector := { projector with
      options := { projector.options with schema := some blogSchema.withDeclaredTargets } }
    projector.options.schema = some blogSchema ∧ blogSchema.find? "" = none ∧
      projector.options.KeyedBy blogSchema ∧
      blogSchema.resolve? "Article" = some ("Post", blogPost) ∧
      projector.valueAtWith "posts" "Article" .emptyObject =
        projector.valueAtWith "posts" "Post" .emptyObject ∧
      (blogUser.withDeclaredTargets blogSchema).field? "posts" = some ⟨.relation, "Post"⟩ ∧
      rewritten.valueFor "User" = projector.valueFor "User" := by
  intro projector rewritten
  have hkeyed : projector.options.KeyedBy blogSchema := ⟨by decide, by decide⟩
  have hpost : blogSchema.resolve? "Article" = some ("Post", blogPost) := rfl
  obtain ⟨halias, hrewritten⟩ := aliases_interchangeable projector blogSchema rfl rfl hkeyed
  exact ⟨rfl, rfl, hkeyed, hpost, (halias "Article" "Post" blogPost hpost).2 "posts" .emptyObject,
    rfl, (hrewritten "User" "posts" .emptyObject).1⟩

end Projector

end FieldProjection
