import FieldProjection.Proofs.Filter.Navigation
import FieldProjection.Proofs.Options.Entry

/-!
# Exclusions of a declared model

A list of excluded fields that is set for a model under its declared name also holds where the
model is asked for under an alias, at the root and below any relation, as long as the alias has no
entry of its own: `declared_exclusion_holds`. An entry under the alias takes the place of the
declared one. So a field that it does not list is selected, whatever the declared entry says:
`alias_entry_uncovers_password`.
-/

namespace FieldProjection

namespace Filter

variable {options : Options} {schema : Schema} {layout : Layout}
variable {model : Model} {name declared field : String}

/-- A field that is excluded and no default is not in the filtered selection. -/
theorem not_mem_keys_filtered {selection : Selection}
    (hexcluded : field ∈ options.excludesFor name declared selection)
    (hdefault : field ∉ (options.defaultsFor name declared selection).keys) :
    field ∉ Entries.keys (filtered options schema layout name declared model selection) := by
  intro hmem
  rw [filtered_eq_insertAll, Entries.mem_keys_insertAll] at hmem
  rcases hmem with hseeded | hkept
  · exact hdefault hseeded
  · obtain ⟨⟨_, kept⟩, hentry, rfl⟩ := List.mem_map.mp hkept
    obtain ⟨asked, _, houtcome⟩ := Entries.mem_filterMapValues.mp hentry
    exact (outcome_value?_eq_some_iff.mp houtcome).not_excluded hexcluded

/-- A node filtered against a model does not select a field that is always excluded and never a
default. -/
theorem not_mem_keys_selectionOf_node (hresolve : schema.resolve? name = some (declared, model))
    (hexcluded : ∀ selection, field ∈ options.excludesFor name declared selection)
    (hdefaults : options.NeverDefaults field) (requested : Json) :
    field ∉ Entries.keys (layout.selectionOf (node options schema layout name requested)) := by
  cases hmembers : requested.members? with
  | none =>
      rw [node_of_members?_eq_none hmembers, Layout.selectionOf_of_members?_eq_none hmembers]
      exact List.not_mem_nil
  | some members =>
      rw [selectionOf_node hresolve (by rw [hmembers, Option.isSome_some])]
      exact not_mem_keys_filtered (hexcluded _) (hdefaults.not_mem_defaultsFor _)

end Filter

namespace Projector

/-- A field that the entry of a declared model excludes, and that no default entry selects, is in
no selection that is filtered against the model. The model may be asked for under any name whose
own entry, if there is one, lists the field as well. That is so for the filtered projection of a
request, for the node at a path before it is overridden, and for every node that filtering reaches
below these, which stands at its path in what is filtered if anything is left of it. -/
theorem declared_exclusion_holds (projector : Projector) (schema : Schema)
    (declared field : String) (excluded : List String)
    (hschema : projector.options.schema = some schema)
    (hentry : projector.options.excludes.find? declared = some (.fixed excluded))
    (hfield : field ∈ excluded) (hdefaults : projector.options.NeverDefaults field) :
    (∀ name model, schema.resolve? name = some (declared, model) →
      projector.options.ExcludesWhereSet name field →
      field ∉ Entries.keys (projector.layout.selectionOf (projector.valueFor name)) ∧
      ∀ path node override, projector.nodeAt? path = some node →
        projector.valueAtWith path name override =
          (projector.filter name node).merge override ∧
        field ∉ Entries.keys (projector.layout.selectionOf (projector.filter name node))) ∧
    (∀ start requested name path target inner model,
      projector.layout.selectPath? projector.projection start = some requested →
      Filter.Reaches projector.options schema projector.layout name requested path target inner →
      schema.resolve? target = some (declared, model) →
      projector.options.ExcludesWhereSet target field →
      field ∉ Entries.keys (projector.layout.selectionOf (projector.filter target inner)) ∧
      (projector.layout.hasSelection (projector.filter target inner) = true →
        projector.layout.selectPath? (projector.filter name requested) path =
          some (projector.filter target inner))) := by
  have hfilter (name : String) (node : Json) : projector.filter name node =
      Filter.node projector.options schema projector.layout name node := by
    rw [filter, hschema]
  have hhidden (name : String) (model : Model)
      (hresolve : schema.resolve? name = some (declared, model))
      (hown : projector.options.ExcludesWhereSet name field) (node : Json) :
      field ∉ Entries.keys (projector.layout.selectionOf (projector.filter name node)) := by
    rw [hfilter]
    exact Filter.not_mem_keys_selectionOf_node hresolve
      (fun selection => hown.mem_excludesFor hentry hfield selection) hdefaults node
  constructor
  · intro name model hresolve hown
    refine ⟨hhidden name model hresolve hown projector.projection, ?_⟩
    intro path node override hnode
    exact ⟨by rw [valueAtWith, hnode], hhidden name model hresolve hown node⟩
  · intro start requested name path target inner model hstart hreaches hresolve hown
    refine ⟨hhidden target model hresolve hown inner, ?_⟩
    intro hleft
    rw [hfilter] at hleft
    rw [hfilter, hfilter]
    exact hreaches.selectPath?_node (projector.distinct_projection.of_selectPath? hstart)
      (.inr hleft)

/-- Users with their passwords and friends, also known as accounts. -/
def accountUser : Model where
  fields := .ofList [("id", ⟨.scalar, "Int"⟩), ("password", ⟨.scalar, "String"⟩),
    ("friends", ⟨.relation, "User"⟩)]
  documentation := some "@PrismaSelect.map([Account])"

/-- A schema of users. -/
def accountSchema : Schema :=
  .ofList [("User", accountUser)]

/-- A request for an account with the passwords of its owner and of the owner's friends. Passwords
of users are excluded, and of accounts the fields of a list. -/
def accountRequest (excluded : List String) : Projector where
  info := ⟨"Account", (ResolvedField.ofName "account").select "Account"
    [.ofName "id", .ofName "password",
      (ResolvedField.ofName "friends").select "User" [.ofName "id", .ofName "password"]]⟩
  options := {
    schema := some accountSchema
    excludes := .ofList [("User", .fixed ["password"]), ("Account", .fixed excluded)] }

/-- No password is selected where the entries of users and of accounts both exclude it. -/
theorem declared_exclusion_holds_accountRequest :
    let projector := accountRequest ["email", "password"]
    projector.options.schema = some accountSchema ∧
      projector.options.excludes.find? "User" = some (.fixed ["password"]) ∧
      projector.options.NeverDefaults "password" ∧
      projector.options.ExcludesWhereSet "Account" "password" ∧
      projector.options.ExcludesWhereSet "User" "password" ∧
      "password" ∉ Entries.keys (projector.layout.selectionOf (projector.valueFor "Account")) ∧
      ∃ friends,
        "password" ∉ Entries.keys
          (projector.layout.selectionOf (projector.filter "User" friends)) ∧
        projector.layout.selectPath? (projector.valueFor "Account") ["friends"] =
          some (projector.filter "User" friends) := by
  intro projector
  have haccount : accountSchema.resolve? "Account" = some ("User", accountUser) := rfl
  have huser : accountSchema.resolve? "User" = some ("User", accountUser) := rfl
  have hdefaults : projector.options.NeverDefaults "password" :=
    fun _ hentry => False.elim (List.not_mem_nil hentry)
  have hown : projector.options.ExcludesWhereSet "Account" "password" := by
    intro spec hspec _
    obtain rfl : FieldSpec.fixed ["email", "password"] = spec := Option.some.inj hspec
    exact List.mem_cons_of_mem _ List.mem_cons_self
  have hdeclared : projector.options.ExcludesWhereSet "User" "password" := by
    intro spec hspec _
    obtain rfl : FieldSpec.fixed ["password"] = spec := Option.some.inj hspec
    exact List.mem_cons_self
  have hlayout : projector.layout = .wrapped := by decide +kernel
  have hfriends : projector.layout.select? projector.projection "friends" =
      some (Layout.wrapped.node [("id", .bool true), ("password", .bool true)]) := by
    rw [projection, hlayout]
    rfl
  have hreaches : Filter.Reaches projector.options accountSchema projector.layout "Account"
      projector.projection ["friends"] "User" _ :=
    .through haccount hfriends (by decide) (by decide) rfl (.here _ _)
  obtain ⟨hroot, hbelow⟩ := declared_exclusion_holds projector accountSchema "User" "password"
    ["password"] rfl rfl (by decide) hdefaults
  obtain ⟨hhidden, hplace⟩ := hbelow [] projector.projection "Account" ["friends"] "User" _
    accountUser rfl hreaches huser hdeclared
  exact ⟨rfl, rfl, hdefaults, hown, hdeclared, (hroot "Account" accountUser haccount hown).1, _,
    hhidden, hplace (by decide +kernel)⟩

/-- The entry of accounts takes the place of the entry of users, so the password of an account is
selected although the passwords of users are excluded. -/
theorem alias_entry_uncovers_password :
    let projector := accountRequest ["email"]
    projector.options.schema = some accountSchema ∧
      projector.options.excludes.find? "User" = some (.fixed ["password"]) ∧
      projector.options.defaults = .empty ∧
      accountSchema.resolve? "Account" = some ("User", accountUser) ∧
      "password" ∈ Entries.keys (projector.layout.selectionOf (projector.valueFor "Account")) := by
  intro projector
  exact ⟨rfl, rfl, rfl, rfl, by decide +kernel⟩

end Projector

end FieldProjection
