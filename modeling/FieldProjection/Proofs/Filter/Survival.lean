import FieldProjection.Proofs.Filter.Grant

/-!
# What filtering keeps

Filtering decides bottom-up whether a relation is pruned: it looks at what remains of the node
below. `Survives` says top-down which paths of a request remain and with which value. The two
agree: a surviving path is in the filtered node (`Survives.selectPath?_node`), and a relation to a
known type is there exactly when a surviving path goes through it
(`selectPath?_node_isSome_iff_survives`).
-/

namespace FieldProjection

namespace Filter

variable (options : Options) (schema : Schema) (layout : Layout)

/-- `Ends model key asked kept` says that a surviving path can end with a field, and with which
value. The count and nodes of unknown types are kept as they were asked for. -/
inductive Ends (model : Model) (key : String) (asked : Json) : Json → Prop where
  | count : key = countKey → Ends model key asked asked
  | column (field) :
      key ≠ countKey → model.field? key = some field → field.isRelation = false →
      Ends model key asked (.bool true)
  | bare (target) :
      model.field? key = some ⟨.relation, target⟩ → asked = .bool true →
      Ends model key asked (.bool true)
  | unknown (target) :
      model.field? key = some ⟨.relation, target⟩ → schema.resolve? target = none →
      layout.hasSelection asked = true →
      Ends model key asked asked

/-- `Survives name requested path kept` says that a path of the requested node leads through
relations of known types to a field that it can end with, and that none of its names is excluded
by the list in force for its model. -/
inductive Survives : String → Json → List String → Json → Prop where
  | last {name declared : String} {model : Model} {requested : Json} {key : String}
      {asked kept : Json} :
      schema.resolve? name = some (declared, model) →
      layout.select? requested key = some asked →
      key ∉ options.excludesFor name declared (layout.selectionOf requested) →
      Ends schema layout model key asked kept →
      Survives name requested [key] kept
  | through {name declared : String} {model : Model} {requested : Json} {key target : String}
      {asked kept : Json} {rest : List String} :
      schema.resolve? name = some (declared, model) →
      layout.select? requested key = some asked →
      key ∉ options.excludesFor name declared (layout.selectionOf requested) →
      key ≠ countKey → model.field? key = some ⟨.relation, target⟩ →
      Survives target asked rest kept →
      Survives name requested (key :: rest) kept

/-- `Leads name requested path target inner` says that declared relations lead along a path from a
node of one type to a node of another. -/
inductive Leads : String → Json → List String → String → Json → Prop where
  | here (name requested) : Leads name requested [] name requested
  | through {name declared : String} {model : Model} {requested : Json} {key next : String}
      {asked : Json} {rest : List String} {target : String} {inner : Json} :
      schema.resolve? name = some (declared, model) →
      layout.select? requested key = some asked →
      key ≠ countKey → model.field? key = some ⟨.relation, next⟩ →
      Leads next asked rest target inner →
      Leads name requested (key :: rest) target inner

variable {options : Options} {schema : Schema} {layout : Layout}
variable {model : Model} {excluded : List String} {name key target : String}
variable {requested asked kept inner : Json} {path : List String}

/-- A surviving path has a name. -/
theorem Survives.ne_nil (h : Survives options schema layout name requested path kept) :
    path ≠ [] := by
  cases h <;> exact List.cons_ne_nil _ _

/-! ## Surviving paths are kept -/

/-- A field that a surviving path ends with is kept. -/
theorem Ends.keeps (h : Ends schema layout model key asked kept) (hexcluded : key ∉ excluded) :
    Keeps options schema layout model excluded key asked kept := by
  cases h with
  | count hcount => exact .count hexcluded hcount
  | column field hcount hfield hrelation => exact .column field hexcluded hcount hfield hrelation
  | bare target hfield hasked =>
      subst hasked
      by_cases hcount : key = countKey
      · exact .count hexcluded hcount
      · exact .relation target hexcluded hcount hfield (.inl rfl)
  | unknown target hfield hresolve hselection =>
      by_cases hcount : key = countKey
      · exact .count hexcluded hcount
      · have hnode := node_of_unresolved options schema layout hresolve asked
        have hkept : Keeps options schema layout model excluded key asked
            (node options schema layout target asked) :=
          .relation target hexcluded hcount hfield (.inr (by rw [hnode, hselection]))
        rwa [hnode] at hkept

/-- A filtered node holds at every surviving path the value that survives. -/
theorem Survives.selectPath?_node
    (h : Survives options schema layout name requested path kept)
    (hdistinct : layout.Distinct requested) :
    layout.selectPath? (node options schema layout name requested) path = some kept := by
  induction h with
  | last hresolve hasked hexcluded hends =>
      rw [Layout.selectPath?, select?_node_of_keeps hresolve hdistinct hasked
        (hends.keeps hexcluded), Option.bind_some, Layout.selectPath?]
  | @through name declared model requested key target asked kept rest hresolve hasked hexcluded
      hcount hfield hrest ih =>
      have hinner := ih (hdistinct.of_select? hasked)
      -- the path goes on below the relation, so the relation is not pruned
      have hselection : layout.hasSelection (node options schema layout target asked) = true := by
        cases rest with
        | nil => exact False.elim (hrest.ne_nil rfl)
        | cons next below =>
            obtain ⟨_, hnext, _⟩ := Option.bind_eq_some_iff.mp hinner
            exact Layout.hasSelection_of_select? hnext
      have hkeeps := Keeps.relation target hexcluded hcount hfield (.inr hselection)
      rw [Layout.selectPath?, select?_node_of_keeps hresolve hdistinct hasked hkeeps,
        Option.bind_some, hinner]

/-! ## What is kept survives -/

/-- A relation is kept with its filtered node, which is bare only if it was asked for so. -/
theorem Keeps.of_relation (h : Keeps options schema layout model excluded key asked kept)
    (hcount : key ≠ countKey) (hfield : model.field? key = some ⟨.relation, target⟩) :
    kept = node options schema layout target asked ∧
      (asked = .bool true ∨ layout.hasSelection kept = true) := by
  cases h with
  | count _ hkey => exact False.elim (hcount hkey)
  | column field _ _ hcolumn hrelation =>
      obtain rfl := Option.some.inj (hcolumn.symm.trans hfield)
      simp [Field.isRelation] at hrelation
  | relation other _ _ hother hkept =>
      obtain rfl : other = target :=
        congrArg Field.type (Option.some.inj (hother.symm.trans hfield))
      exact ⟨rfl, hkept.imp_left node_eq_true_iff.mp⟩

/-- A surviving path ends with a field that is kept, or else the field is a relation of a known
type below which something is selected. -/
theorem Keeps.ends_or_selects (h : Keeps options schema layout model excluded key asked kept) :
    Ends schema layout model key asked kept ∨
      ∃ target, key ≠ countKey ∧ model.field? key = some ⟨.relation, target⟩ ∧
        (schema.resolve? target).isSome ∧
        layout.hasSelection (node options schema layout target asked) = true := by
  cases h with
  | count _ hcount => exact .inl (.count hcount)
  | column field _ hcount hfield hrelation => exact .inl (.column field hcount hfield hrelation)
  | relation target _ hcount hfield hkept =>
      rcases hkept with htrue | hselection
      · rw [htrue]
        exact .inl (.bare target hfield (node_eq_true_iff.mp htrue))
      · cases hresolve : schema.resolve? target with
        | none =>
            rw [node_of_unresolved options schema layout hresolve] at hselection ⊢
            exact .inl (.unknown target hfield hresolve hselection)
        | some found => exact .inr ⟨target, hcount, hfield, by rw [hresolve]; rfl, hselection⟩

/-- Without defaults, what a filtered node selects was requested and is kept. -/
theorem keeps_of_select?_node_of_no_defaults {declared : String}
    (hdefaults : options.defaults = .empty)
    (hresolve : schema.resolve? name = some (declared, model))
    (hdistinct : layout.Distinct requested)
    (hselect : layout.select? (node options schema layout name requested) key = some kept) :
    ∃ asked, layout.select? requested key = some asked ∧
      Keeps options schema layout model
        (options.excludesFor name declared (layout.selectionOf requested)) key asked kept := by
  refine keeps_of_select?_node hresolve hdistinct ?_ hselect
  simp [Options.defaultsFor, Options.entryFor, hdefaults, OrderedMap.keys]

/-- Without defaults, a filtered node selects something only if some path survives. -/
theorem exists_survives_of_hasSelection (hdefaults : options.defaults = .empty)
    (hdistinct : layout.Distinct requested) (hname : (schema.resolve? name).isSome)
    (hselection : layout.hasSelection (node options schema layout name requested) = true) :
    ∃ path kept, Survives options schema layout name requested path kept := by
  induction requested using layout.selection_induction generalizing name with
  | step requested ih =>
      obtain ⟨⟨declared, model⟩, hresolve⟩ := Option.isSome_iff_exists.mp hname
      obtain ⟨key, kept, hselect⟩ := Layout.exists_select?_of_hasSelection hselection
      obtain ⟨asked, hasked, hkeeps⟩ :=
        keeps_of_select?_node_of_no_defaults hdefaults hresolve hdistinct hselect
      -- some field is left: a path ends there, or goes on to a field that is left below it
      rcases hkeeps.ends_or_selects with hends | ⟨target, hcount, hfield, htarget, hbelow⟩
      · exact ⟨[key], kept, .last hresolve hasked hkeeps.not_excluded hends⟩
      · obtain ⟨rest, last, hrest⟩ := ih key asked (Layout.mem_selectionOf_of_select? hasked)
          (hdistinct.of_select? hasked) htarget hbelow
        exact ⟨key :: rest, last,
          .through hresolve hasked hkeeps.not_excluded hcount hfield hrest⟩

/-- Without defaults, a path survives through every relation of a known type that is kept. -/
theorem exists_survives_of_selectPath? (hdefaults : options.defaults = .empty)
    (hdistinct : layout.Distinct requested)
    (hleads : Leads schema layout name requested path target inner) (hpath : path ≠ [])
    (htarget : (schema.resolve? target).isSome) (hinner : inner.isObject = true)
    (hpresent : (layout.selectPath? (node options schema layout name requested) path).isSome) :
    ∃ rest kept, rest ≠ [] ∧
      Survives options schema layout name requested (path ++ rest) kept := by
  induction hleads with
  | here => exact False.elim (hpath rfl)
  | @through name declared model requested key next asked rest target inner hresolve hasked
      hcount hfield hrest ih =>
      obtain ⟨value, hvalue⟩ := Option.isSome_iff_exists.mp hpresent
      obtain ⟨kept, hselect, hbelow⟩ := Option.bind_eq_some_iff.mp hvalue
      obtain ⟨found, hfound, hkeeps⟩ :=
        keeps_of_select?_node_of_no_defaults hdefaults hresolve hdistinct hselect
      obtain rfl : found = asked := Option.some.inj (hfound.symm.trans hasked)
      have hexcluded := hkeeps.not_excluded
      obtain ⟨rfl, hkept⟩ := hkeeps.of_relation hcount hfield
      have hdistinctBelow := hdistinct.of_select? hasked
      cases hrest with
      | here =>
          -- the node was asked for with a selection, so something is left of it
          have hselection : layout.hasSelection
              (node options schema layout next inner) = true := by
            rcases hkept with rfl | hselection
            · simp [Json.isObject, Json.members?] at hinner
            · exact hselection
          obtain ⟨below, last, hsurvives⟩ :=
            exists_survives_of_hasSelection hdefaults hdistinctBelow htarget hselection
          exact ⟨below, last, hsurvives.ne_nil,
            .through hresolve hasked hexcluded hcount hfield hsurvives⟩
      | through =>
          obtain ⟨below, last, hne, hsurvives⟩ := ih hdistinctBelow (List.cons_ne_nil _ _)
            htarget hinner (by rw [hbelow, Option.isSome_some])
          exact ⟨below, last, hne, .through hresolve hasked hexcluded hcount hfield hsurvives⟩

/-- Without defaults, a relation to a known type is in the filtered node exactly when a path
survives through it. -/
theorem selectPath?_node_isSome_iff_survives (hdefaults : options.defaults = .empty)
    (hdistinct : layout.Distinct requested)
    (hleads : Leads schema layout name requested path target inner) (hpath : path ≠ [])
    (htarget : (schema.resolve? target).isSome) (hinner : inner.isObject = true) :
    (layout.selectPath? (node options schema layout name requested) path).isSome ↔
      ∃ rest kept, rest ≠ [] ∧
        Survives options schema layout name requested (path ++ rest) kept := by
  constructor
  · exact exists_survives_of_selectPath? hdefaults hdistinct hleads hpath htarget hinner
  · rintro ⟨rest, kept, _, hsurvives⟩
    have hvalue := hsurvives.selectPath?_node hdistinct
    rw [Layout.selectPath?_append] at hvalue
    obtain ⟨value, hpresent, _⟩ := Option.bind_eq_some_iff.mp hvalue
    rw [hpresent, Option.isSome_some]

end Filter

namespace Projector

/-- Without defaults, the projection of a request holds every surviving path with the value that
survives, and of the declared relations to known types that were asked for with a node exactly
those through which a path survives. -/
theorem valueFor_keeps_survivors (projector : Projector) (schema : Schema) (name : String)
    (hschema : projector.options.schema = some schema)
    (hdefaults : projector.options.defaults = .empty) :
    (∀ path kept,
      Filter.Survives projector.options schema projector.layout name projector.projection
        path kept →
      projector.layout.selectPath? (projector.valueFor name) path = some kept) ∧
    (∀ path target inner, path ≠ [] →
      Filter.Leads schema projector.layout name projector.projection path target inner →
      (schema.resolve? target).isSome → inner.isObject = true →
      ((projector.layout.selectPath? (projector.valueFor name) path).isSome ↔
        ∃ rest kept, rest ≠ [] ∧ Filter.Survives projector.options schema projector.layout name
          projector.projection (path ++ rest) kept)) := by
  rw [valueFor_eq_node hschema]
  constructor
  · intro path kept hsurvives
    exact hsurvives.selectPath?_node projector.distinct_projection
  · intro path target inner hpath hleads htarget hinner
    exact Filter.selectPath?_node_isSome_iff_survives hdefaults projector.distinct_projection hleads
      hpath htarget hinner

/-- The titles of the posts survive in the example. -/
theorem blogRequest_titles_survive :
    Filter.Survives blogRequest.options blogSchema blogRequest.layout "User"
      blogRequest.projection ["posts", "title"] (.bool true) := by
  have huser : blogSchema.resolve? "User" = some ("User", blogUser) := rfl
  have hpost : blogSchema.resolve? "Article" = some ("Post", blogPost) := rfl
  refine .through huser rfl (by decide) (by decide) rfl (.last hpost rfl (by decide) ?_)
  exact .column ⟨.scalar, "String"⟩ (by decide) rfl rfl

/-- The projection of the example holds the titles of the posts, and therefore the posts. -/
theorem valueFor_keeps_survivors_blogRequest :
    blogRequest.options.schema = some blogSchema ∧ blogRequest.options.defaults = .empty ∧
      blogRequest.layout.selectPath? (blogRequest.valueFor "User") ["posts", "title"] =
        some (.bool true) ∧
      (blogRequest.layout.selectPath? (blogRequest.valueFor "User") ["posts"]).isSome := by
  have huser : blogSchema.resolve? "User" = some ("User", blogUser) := rfl
  obtain ⟨hsurvivors, hrelations⟩ :=
    valueFor_keeps_survivors blogRequest blogSchema "User" rfl rfl
  refine ⟨rfl, rfl, hsurvivors _ _ blogRequest_titles_survive, ?_⟩
  have hleads : Filter.Leads blogSchema blogRequest.layout "User" blogRequest.projection ["posts"]
      "Article" _ := .through huser rfl (by decide) rfl (.here _ _)
  exact (hrelations ["posts"] "Article" _ (List.cons_ne_nil _ _) hleads rfl rfl).mpr
    ⟨["title"], _, List.cons_ne_nil _ _, blogRequest_titles_survive⟩

end Projector

end FieldProjection
