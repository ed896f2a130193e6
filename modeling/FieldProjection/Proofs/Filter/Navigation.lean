import FieldProjection.Proofs.Filter.Survival
import FieldProjection.Proofs.Request.Following

/-!
# Filtering and following a path

Filtering a tree filters a node of its own below every declared relation that is not excluded:
`Reaches` lists these nodes with their paths. Unless nothing is left of such a node, the filtered
tree holds it at its path just as it comes out when it is filtered alone
(`Reaches.selectPath?_node`); if nothing is left and there are no defaults, the filtered tree holds
nothing at that path (`Leads.selectPath?_node_eq_none`).
-/

namespace FieldProjection

/-- Merging the empty object into a value changes nothing. -/
theorem Json.merge_emptyObject (value : Json) : value.merge .emptyObject = value := by
  cases value <;> rfl

namespace Filter

variable (options : Options) (schema : Schema) (layout : Layout)

/-- `Reaches name requested path target inner` says that filtering a node against the model of one
type name comes, at a path of declared relations none of which is excluded, to filtering an inner
node against the model of another. -/
inductive Reaches : String → Json → List String → String → Json → Prop where
  | here (name requested) : Reaches name requested [] name requested
  | through {name declared : String} {model : Model} {requested : Json} {key next : String}
      {asked : Json} {rest : List String} {target : String} {inner : Json} :
      schema.resolve? name = some (declared, model) →
      layout.select? requested key = some asked →
      key ∉ options.excludesFor name declared (layout.selectionOf requested) →
      key ≠ countKey → model.field? key = some ⟨.relation, next⟩ →
      Reaches next asked rest target inner →
      Reaches name requested (key :: rest) target inner

variable {options : Options} {schema : Schema} {layout : Layout}
variable {name target : String} {requested inner : Json} {path : List String}

/-- Filtering goes along declared relations. -/
theorem Reaches.leads (h : Reaches options schema layout name requested path target inner) :
    Leads schema layout name requested path target inner := by
  induction h with
  | here name requested => exact .here name requested
  | through hresolve hasked _ hcount hfield _ ih => exact .through hresolve hasked hcount hfield ih

/-- A node that declared relations lead to stands at the end of the path. -/
theorem Leads.selectPath? (h : Leads schema layout name requested path target inner) :
    layout.selectPath? requested path = some inner := by
  induction h with
  | here => rfl
  | through _ hasked _ _ _ ih => rw [Layout.selectPath?, hasked, Option.bind_some, ih]

/-- What is left of a node that is reached stands at its path in the filtered tree. -/
theorem Reaches.selectPath?_node
    (h : Reaches options schema layout name requested path target inner)
    (hdistinct : layout.Distinct requested)
    (hleft : node options schema layout target inner = .bool true ∨
      layout.hasSelection (node options schema layout target inner) = true) :
    layout.selectPath? (node options schema layout name requested) path =
      some (node options schema layout target inner) := by
  induction h with
  | here => rfl
  | @through name declared model requested key next asked rest target inner hresolve hasked
      hexcluded hcount hfield hrest ih =>
      have hbelow := ih (hdistinct.of_select? hasked) hleft
      -- the relation is kept for what is left of its own node, or because the path goes on below it
      have hnext : node options schema layout next asked = .bool true ∨
          layout.hasSelection (node options schema layout next asked) = true := by
        cases hrest with
        | here => exact hleft
        | through => exact .inr (Layout.hasSelection_of_selectPath?_cons hbelow)
      have hkeeps := Keeps.relation next hexcluded hcount hfield hnext
      rw [Layout.selectPath?, select?_node_of_keeps hresolve hdistinct hasked hkeeps,
        Option.bind_some, hbelow]

/-- Without defaults, the filtered tree holds nothing at the path of a node of which nothing is
left. -/
theorem Leads.selectPath?_node_eq_none (hdefaults : options.defaults = .empty)
    (h : Leads schema layout name requested path target inner) (hpath : path ≠ [])
    (hdistinct : layout.Distinct requested)
    (hbare : node options schema layout target inner ≠ .bool true)
    (hempty : layout.hasSelection (node options schema layout target inner) = false) :
    layout.selectPath? (node options schema layout name requested) path = none := by
  induction h with
  | here => exact False.elim (hpath rfl)
  | @through name declared model requested key next asked rest target inner hresolve hasked
      hcount hfield hrest ih =>
      rw [Layout.selectPath?, Option.bind_eq_none_iff]
      intro kept hselect
      obtain ⟨found, hfound, hkeeps⟩ :=
        keeps_of_select?_node_of_no_defaults hdefaults hresolve hdistinct hselect
      obtain rfl : found = asked := Option.some.inj (hfound.symm.trans hasked)
      obtain ⟨rfl, hkept⟩ := hkeeps.of_relation hcount hfield
      cases hrest with
      | here =>
          -- the relation itself would have been pruned
          rcases hkept with rfl | hselection
          · exact False.elim (hbare rfl)
          · exact False.elim (Bool.false_ne_true (hempty.symm.trans hselection))
      | through =>
          exact ih (List.cons_ne_nil _ _) (hdistinct.of_select? hasked) hbare hempty

end Filter

namespace Projector

/-- Filtering the node at a path on its own gives what the filtered projection of the whole request
holds at that path, provided that something is left of the node. Otherwise, and without defaults,
the filtered projection holds nothing there. -/
theorem selectPath?_valueFor_eq_valueAtWith (projector : Projector) (schema : Schema)
    (name target : String) (names : List String) (inner : Json)
    (hschema : projector.options.schema = some schema) (hnames : names ≠ [])
    (hdots : ∀ segment ∈ names, '.' ∉ segment.toList)
    (hreaches : Filter.Reaches projector.options schema projector.layout name
      projector.projection names target inner) :
    let alone := projector.valueAtWith (".".intercalate names) target .emptyObject
    (alone = .bool true ∨ projector.layout.hasSelection alone = true →
      projector.layout.selectPath? (projector.valueFor name) names = some alone) ∧
    (alone ≠ .bool true → projector.layout.hasSelection alone = false →
      projector.options.defaults = .empty →
      projector.layout.selectPath? (projector.valueFor name) names = none) := by
  intro alone
  have hnode : projector.nodeAt? (".".intercalate names) = some inner := by
    rw [nodeAt?, pathNames_intercalate hnames hdots, hreaches.leads.selectPath?]
  have halone : alone =
      Filter.node projector.options schema projector.layout target inner := by
    show projector.valueAtWith _ target .emptyObject = _
    rw [valueAtWith, hnode]
    show (projector.filter target inner).merge .emptyObject = _
    rw [Json.merge_emptyObject, filter, hschema]
  rw [halone, valueFor_eq_node hschema]
  constructor
  · intro hleft
    exact hreaches.selectPath?_node projector.distinct_projection hleft
  · intro hbare hempty hdefaults
    exact hreaches.leads.selectPath?_node_eq_none hdefaults hnames projector.distinct_projection
      hbare hempty

/-- In the example something is left of the posts, but nothing of their authors. -/
theorem selectPath?_valueFor_eq_valueAtWith_blogRequest :
    blogRequest.options.schema = some blogSchema ∧ blogRequest.options.defaults = .empty ∧
      blogRequest.layout.hasSelection
        (blogRequest.valueAtWith "posts" "Article" .emptyObject) = true ∧
      blogRequest.layout.selectPath? (blogRequest.valueFor "User") ["posts"] =
        some (blogRequest.valueAtWith "posts" "Article" .emptyObject) ∧
      blogRequest.layout.selectPath? (blogRequest.valueFor "User") ["posts", "author"] = none := by
  have huser : blogSchema.resolve? "User" = some ("User", blogUser) := rfl
  have hpost : blogSchema.resolve? "Article" = some ("Post", blogPost) := rfl
  have hposts : Filter.Reaches blogRequest.options blogSchema blogRequest.layout "User"
      blogRequest.projection ["posts"] "Article" _ :=
    .through huser rfl (by decide) (by decide) rfl (.here _ _)
  have hauthor : Filter.Reaches blogRequest.options blogSchema blogRequest.layout "User"
      blogRequest.projection ["posts", "author"] "User" _ :=
    .through huser rfl (by decide) (by decide) rfl
      (.through hpost rfl (by decide) (by decide) rfl (.here _ _))
  have hleft : blogRequest.layout.hasSelection
      (blogRequest.valueAtWith "posts" "Article" .emptyObject) = true := rfl
  refine ⟨rfl, rfl, hleft, ?_, ?_⟩
  · exact (selectPath?_valueFor_eq_valueAtWith blogRequest blogSchema "User" "Article" ["posts"] _
      rfl (List.cons_ne_nil _ _) (by decide) hposts).1 (.inr hleft)
  · exact (selectPath?_valueFor_eq_valueAtWith blogRequest blogSchema "User" "User"
      ["posts", "author"] _ rfl (List.cons_ne_nil _ _) (by decide) hauthor).2
      (fun h => Json.noConfusion h) rfl rfl

end Projector

end FieldProjection
