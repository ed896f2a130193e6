import FieldProjection.Proofs.Filter.Step
import FieldProjection.Proofs.Request.Coverage

/-!
# What filtering lets through

`Granted` walks a filtered node together with the requested one and says what may stand at every
place: a default field, or else a requested field that is declared and not excluded, with a value
that its kind allows. `valueFor_granted` says that the filtered projection of a request is granted
throughout, for every schema, also a cyclic one, and for all options.
-/

namespace FieldProjection

namespace Filter

variable (options : Options) (schema : Schema) (layout : Layout)

mutual
/-- `Granted name requested granted` says that, for the model of a type name, every field of the
granted node is a default field, or one that was requested, is not excluded and is granted in
turn. -/
inductive Granted : String → Json → Json → Prop where
  | level {name declared : String} {model : Model} {requested granted : Json} :
      schema.resolve? name = some (declared, model) →
      (∀ key value, layout.select? granted key = some value →
        key ∉ (options.defaultsFor name declared (layout.selectionOf requested)).keys →
        (layout.select? requested key).isSome ∧
          key ∉ options.excludesFor name declared (layout.selectionOf requested)) →
      (∀ key asked value, layout.select? granted key = some value →
        key ∉ (options.defaultsFor name declared (layout.selectionOf requested)).keys →
        layout.select? requested key = some asked →
        GrantedField model key asked value) →
      Granted name requested granted

/-- `GrantedField model key asked value` says that the value of a field is allowed for its kind:
the count as it was asked for, a bare value for a column, and for a relation a bare value if it was
asked for so, a node of an unknown type as it was asked for, or else a granted node that selects
something. -/
inductive GrantedField : Model → String → Json → Json → Prop where
  | count (model asked) : GrantedField model countKey asked asked
  | column (model key asked field) :
      model.field? key = some field → field.isRelation = false →
      GrantedField model key asked (.bool true)
  | bare (model key target) :
      model.field? key = some ⟨.relation, target⟩ →
      GrantedField model key (.bool true) (.bool true)
  | unknown (model key target asked) :
      model.field? key = some ⟨.relation, target⟩ → schema.resolve? target = none →
      GrantedField model key asked asked
  | nested (model key target asked value) :
      model.field? key = some ⟨.relation, target⟩ →
      value.isObject = true → layout.hasSelection value = true →
      Granted target asked value →
      GrantedField model key asked value
end

variable {options : Options} {schema : Schema} {layout : Layout}

/-- A field that is kept has an allowed value, provided that the nodes of known types below it are
granted. -/
theorem Keeps.granted {model : Model} {excluded : List String} {key : String} {asked kept : Json}
    (h : Keeps options schema layout model excluded key asked kept)
    (hbelow : ∀ target, (schema.resolve? target).isSome →
      Granted options schema layout target asked (node options schema layout target asked)) :
    GrantedField options schema layout model key asked kept := by
  cases h with
  | count _ hcount =>
      subst hcount
      exact .count model asked
  | column field _ _ hfield hrelation => exact .column model key asked field hfield hrelation
  | relation target _ _ hfield hkept =>
      rcases hkept with htrue | hselection
      · obtain rfl := node_eq_true_iff.mp htrue
        rw [htrue]
        exact .bare model key target hfield
      · cases hresolve : schema.resolve? target with
        | none =>
            rw [node_of_unresolved options schema layout hresolve]
            exact .unknown model key target asked hfield hresolve
        | some found =>
            have hobject := Layout.members?_isSome_of_hasSelection hselection
            exact .nested model key target asked _ hfield hobject hselection
              (hbelow target (by rw [hresolve, Option.isSome_some]))

/-- A filtered node is granted throughout. -/
theorem node_granted {name : String} {requested : Json} (hdistinct : layout.Distinct requested)
    (hname : (schema.resolve? name).isSome) :
    Granted options schema layout name requested (node options schema layout name requested) := by
  -- the relations of a schema may lead in circles, the selections of a request do not
  induction requested using layout.selection_induction generalizing name with
  | step requested ih =>
      obtain ⟨⟨declared, model⟩, hresolve⟩ := Option.isSome_iff_exists.mp hname
      refine .level hresolve ?_ ?_
      · intro key value hvalue hdefault
        obtain ⟨asked, hasked, hkeeps⟩ :=
          keeps_of_select?_node hresolve hdistinct hdefault hvalue
        exact ⟨by rw [hasked, Option.isSome_some], hkeeps.not_excluded⟩
      · intro key asked value hvalue hdefault hasked
        obtain ⟨found, hfound, hkeeps⟩ :=
          keeps_of_select?_node hresolve hdistinct hdefault hvalue
        obtain rfl : found = asked := Option.some.inj (hfound.symm.trans hasked)
        refine hkeeps.granted fun target htarget => ?_
        exact ih key found (Layout.mem_selectionOf_of_select? hasked)
          (hdistinct.of_select? hasked) htarget

end Filter

namespace Projector

/-- No selection of the projection of a request repeats a name. -/
theorem distinct_projection (projector : Projector) :
    projector.layout.Distinct projector.projection :=
  Projection.distinct_root projector.layout projector.info.field

/-- With a schema, the projection of a request is filtered against it. -/
theorem valueFor_eq_node {projector : Projector} {schema : Schema}
    (hschema : projector.options.schema = some schema) (name : String) :
    projector.valueFor name =
      Filter.node projector.options schema projector.layout name projector.projection := by
  rw [valueFor, filter, hschema]

/-- Save for default fields, nothing reaches the filtered projection of a request that was not
requested, is not declared or is excluded. What was requested are the paths of the unfiltered
projection, and these are names of chains of requests. -/
theorem valueFor_granted (projector : Projector) (schema : Schema) (name : String)
    (hschema : projector.options.schema = some schema) (hname : (schema.resolve? name).isSome) :
    Filter.Granted projector.options schema projector.layout name projector.projection
        (projector.valueFor name) ∧
      ∀ names, (projector.layout.selectPath? projector.projection names).isSome →
        projector.info.field.Requests names := by
  rw [valueFor_eq_node hschema]
  exact ⟨Filter.node_granted projector.distinct_projection hname,
    fun _ => requests_of_selectPath?_projection⟩

/-- Users with their posts, which are looked up under the name of articles, and with images of an
unknown type. -/
def blogUser : Model where
  fields := .ofList [("id", ⟨.scalar, "Int"⟩), ("password", ⟨.scalar, "String"⟩),
    ("posts", ⟨.relation, "Article"⟩), ("images", ⟨.relation, "Image"⟩)]

/-- Posts with their authors, also known as articles. -/
def blogPost : Model where
  fields := .ofList [("title", ⟨.scalar, "String"⟩), ("author", ⟨.relation, "User"⟩)]
  documentation := some "@PrismaSelect.map([Article])"

/-- Users and posts lead to each other. -/
def blogSchema : Schema :=
  .ofList [("User", blogUser), ("Post", blogPost)]

/-- A request for a user with posts, images and a password, which is excluded. -/
def blogRequest : Projector where
  info := ⟨"User", (ResolvedField.ofName "user").select "User"
    [.ofName "id", .ofName "password",
      (ResolvedField.ofName "posts").select "Post"
        [.ofName "title",
          (ResolvedField.ofName "author").select "User" [.ofName "password", .ofName "token"]],
      (ResolvedField.ofName "images").select "Image" [.ofName "url"]]⟩
  options := {
    schema := some blogSchema
    excludes := .ofList [("User", .fixed ["password"])] }

/-- The projection of the example is granted. -/
theorem valueFor_granted_blogRequest :
    blogRequest.options.schema = some blogSchema ∧ (blogSchema.resolve? "User").isSome ∧
      Filter.Granted blogRequest.options blogSchema blogRequest.layout "User"
        blogRequest.projection (blogRequest.valueFor "User") ∧
      ∀ names, (blogRequest.layout.selectPath? blogRequest.projection names).isSome →
        blogRequest.info.field.Requests names :=
  ⟨rfl, by decide, valueFor_granted blogRequest blogSchema "User" rfl (by decide)⟩

end Projector

end FieldProjection
