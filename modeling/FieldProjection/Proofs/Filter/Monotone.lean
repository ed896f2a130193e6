import FieldProjection.Proofs.Layout.Erasure

/-!
# Excluding more selects less

`Json.Within` compares two values by the paths of names that lead through their objects. When one
set of options excludes all that another one does, and both have the same bare defaults, filtering
by the first gives a value within the one that the second gives: `Filter.node_within`. A relation
that is pruned by the lenient options is pruned by the strict ones, since nothing is left below it
that the others do not leave there, and a field that only the strict ones exclude can still be there
as a default, but then it is bare.
-/

namespace FieldProjection

/-- Every path of names that leads through the objects of one value leads through those of
another. -/
def Json.Within (small large : Json) : Prop :=
  ∀ path, (small.at? path).isSome → (large.at? path).isSome

namespace Json.Within

/-- A value lies within itself. -/
theorem refl (value : Json) : Within value value :=
  fun _ h => h

/-- A value that is no object lies within any other. -/
theorem of_members?_eq_none {small : Json} (h : small.members? = none) (large : Json) :
    Within small large := by
  intro path hpath
  cases path with
  | nil => rfl
  | cons key rest => simp [at?, find?, h] at hpath

/-- An object lies within another that has each of its members with a value to lie within. -/
theorem object {small large : List (String × Json)}
    (h : ∀ key value, Entries.find? key small = some value →
      ∃ other, Entries.find? key large = some other ∧ Within value other) :
    Within (.object small) (.object large) := by
  intro path hpath
  cases path with
  | nil => rfl
  | cons key rest =>
      obtain ⟨last, hlast⟩ := Option.isSome_iff_exists.mp hpath
      obtain ⟨value, hvalue, hrest⟩ := Option.bind_eq_some_iff.mp hlast
      obtain ⟨other, hother, hwithin⟩ := h key value hvalue
      have hreached : ((Json.object large).find? key).bind (fun inner => inner.at? rest) =
          other.at? rest := by
        show (Entries.find? key large).bind _ = _
        rw [hother, Option.bind_some]
      show (((Json.object large).find? key).bind fun inner => inner.at? rest).isSome
      rw [hreached]
      exact hwithin rest (by rw [hrest, Option.isSome_some])

end Json.Within

namespace Layout

variable {layout : Layout}

/-- The names that lead from a node to the value of one of its fields. -/
def memberPath : Layout → String → List String
  | .flat, key => [key]
  | .wrapped, key => [selectKey, key]

/-- What a node selects under a name stands at the path of that member. -/
theorem select?_eq_at? (layout : Layout) (node : Json) (key : String) :
    layout.select? node key = node.at? (layout.memberPath key) := by
  cases layout with
  | flat => simp only [select?, selection?, memberPath, Json.at?, Json.find?, Option.bind_fun_some]
  | wrapped =>
      simp only [select?, selection?, memberPath, Json.at?, Json.find?, Option.bind_assoc,
        Option.bind_fun_some]

/-- A path of fields is followed as a path of names. -/
theorem selectPath?_eq_at? (layout : Layout) (node : Json) (path : List String) :
    layout.selectPath? node path = node.at? (path.flatMap layout.memberPath) := by
  induction path generalizing node with
  | nil => rfl
  | cons key rest ih =>
      rw [selectPath?, select?_eq_at?, List.flatMap_cons, Json.at?_append]
      exact congrArg _ (funext ih)

/-- A value that selects something lies only within values that do. -/
theorem hasSelection_of_within {small large : Json} (h : Json.Within small large)
    (hsmall : layout.hasSelection small = true) : layout.hasSelection large = true := by
  obtain ⟨key, value, hvalue⟩ := exists_select?_of_hasSelection hsmall
  have hlarge : (layout.select? large key).isSome := by
    rw [select?_eq_at?]
    apply h
    rw [← select?_eq_at?, hvalue, Option.isSome_some]
  obtain ⟨_, hother⟩ := Option.isSome_iff_exists.mp hlarge
  exact hasSelection_of_select? hother

/-- Replacing the selection of a node by a smaller one gives a smaller node. -/
theorem replace_within {small large : Selection} (members : List (String × Json))
    (h : ∀ key value, Entries.find? key small = some value →
      ∃ other, Entries.find? key large = some other ∧ Json.Within value other) :
    Json.Within (layout.replace small members) (layout.replace large members) := by
  cases layout with
  | flat => exact .object h
  | wrapped =>
      apply Json.Within.object
      intro key value hvalue
      rw [Entries.find?_insert] at hvalue ⊢
      by_cases hkey : selectKey = key
      · rw [if_pos hkey] at hvalue ⊢
        obtain rfl := Option.some.inj hvalue
        exact ⟨_, rfl, .object h⟩
      · rw [if_neg hkey] at hvalue ⊢
        exact ⟨value, hvalue, .refl value⟩

end Layout

namespace Filter

variable {strict lenient : Options} {schema : Schema} {layout : Layout}
variable {model : Model} {name declared key : String} {excluded fewer : List String}
variable {asked kept : Json} {selection : Selection}

/-- A field that is kept is kept also when fewer fields are excluded, provided that filtering below
it leaves no less. -/
theorem Keeps.of_fewer (h : Keeps strict schema layout model excluded key asked kept)
    (hfewer : fewer ⊆ excluded)
    (hbelow : ∀ target, Json.Within (node strict schema layout target asked)
      (node lenient schema layout target asked)) :
    ∃ other, Keeps lenient schema layout model fewer key asked other ∧
      Json.Within kept other := by
  have hallowed : key ∉ fewer := fun hkey => h.not_excluded (hfewer hkey)
  cases h with
  | count _ hcount => exact ⟨asked, .count hallowed hcount, .refl asked⟩
  | column field _ hcount hfield hrelation =>
      exact ⟨.bool true, .column field hallowed hcount hfield hrelation, .refl _⟩
  | relation target _ hcount hfield hkept =>
      have hleft : node lenient schema layout target asked = .bool true ∨
          layout.hasSelection (node lenient schema layout target asked) = true := by
        rcases hkept with htrue | hselection
        · exact .inl (node_eq_true_iff.mpr (node_eq_true_iff.mp htrue))
        · exact .inr (Layout.hasSelection_of_within (hbelow target) hselection)
      exact ⟨_, .relation target hallowed hcount hfield hleft, hbelow target⟩

/-- What the strict options leave of a selection, the lenient ones leave as well, provided that this
holds below. -/
theorem exists_find?_filtered_within (hdefaults : strict.defaults = lenient.defaults)
    (hbare : lenient.DefaultsBare)
    (hexcludes : ∀ name declared selection,
      lenient.excludesFor name declared selection ⊆ strict.excludesFor name declared selection)
    (hnodup : (Entries.keys selection).Nodup)
    (hbelow : ∀ key asked, (key, asked) ∈ selection → ∀ target,
      Json.Within (node strict schema layout target asked)
        (node lenient schema layout target asked))
    (hkept : Entries.find? key (filtered strict schema layout name declared model selection) =
      some kept) :
    ∃ other, Entries.find? key (filtered lenient schema layout name declared model selection) =
        some other ∧
      Json.Within kept other := by
  rw [find?_filtered hnodup] at hkept
  rcases Option.or_eq_some_iff.mp hkept with hrequested | ⟨_, hdefault⟩
  · obtain ⟨asked, hasked, houtcome⟩ := Option.bind_eq_some_iff.mp hrequested
    obtain ⟨other, hkeeps, hwithin⟩ := (outcome_value?_eq_some_iff.mp houtcome).of_fewer
      (hexcludes name declared selection) (hbelow key asked (Entries.mem_of_find? hasked))
    exact ⟨other, find?_filtered_of_keeps hnodup hasked hkeeps, hwithin⟩
  · rw [Options.defaultsFor, hdefaults, ← Options.defaultsFor] at hdefault
    obtain rfl : kept = .bool true :=
      hbare.eq_true name declared selection (Entries.mem_of_find? hdefault)
    -- the default is there in any case, unless the field itself is kept in its place
    have hpresent : (Entries.find? key
        (filtered lenient schema layout name declared model selection)).isSome := by
      rw [find?_filtered hnodup, hdefault, Option.isSome_or, Option.isSome_some, Bool.or_true]
    obtain ⟨other, hother⟩ := Option.isSome_iff_exists.mp hpresent
    exact ⟨other, hother, .of_members?_eq_none rfl other⟩

/-- A node filtered by the strict options lies within what the lenient ones leave of it. -/
theorem node_within (hdefaults : strict.defaults = lenient.defaults)
    (hbare : lenient.DefaultsBare)
    (hexcludes : ∀ name declared selection,
      lenient.excludesFor name declared selection ⊆ strict.excludesFor name declared selection)
    {requested : Json} (hdistinct : layout.Distinct requested) (name : String) :
    Json.Within (node strict schema layout name requested)
      (node lenient schema layout name requested) := by
  induction name, requested using level_induction schema layout with
  | other name requested hmembers =>
      rw [node_of_members?_eq_none hmembers, node_of_members?_eq_none hmembers]
      exact .refl requested
  | unknown name requested hresolve =>
      rw [node_of_unresolved _ _ _ hresolve, node_of_unresolved _ _ _ hresolve]
      exact .refl requested
  | level name declared model members hresolve ih =>
      rw [node_object _ _ _ hresolve, node_object _ _ _ hresolve]
      apply Layout.replace_within
      intro key kept hkept
      refine exists_find?_filtered_within hdefaults hbare hexcludes hdistinct.keys_nodup ?_ hkept
      intro below asked hmem target
      exact ih below asked hmem target (hdistinct.of_mem hmem)

end Filter

namespace Projector

/-- With the same bare defaults, options that exclude at least what others exclude, for every name
that a model may be asked for by and every name that it may be declared under, select nothing that
those do not select: each path of the filtered projection, of names or of fields, is a path of the
other one. -/
theorem valueFor_within (info : ResolveInfo) (strict lenient : Options)
    (hschema : strict.schema = lenient.schema) (hdefaults : strict.defaults = lenient.defaults)
    (hbare : lenient.DefaultsBare)
    (hexcludes : ∀ name declared selection,
      lenient.excludesFor name declared selection ⊆ strict.excludesFor name declared selection)
    (name : String) :
    let less : Projector := ⟨info, strict⟩
    let more : Projector := ⟨info, lenient⟩
    (∀ path, ((less.valueFor name).at? path).isSome → ((more.valueFor name).at? path).isSome) ∧
    ∀ path, (less.layout.selectPath? (less.valueFor name) path).isSome →
      (more.layout.selectPath? (more.valueFor name) path).isSome := by
  intro less more
  have hwithin : Json.Within (less.valueFor name) (more.valueFor name) := by
    show Json.Within (less.filter name less.projection) (more.filter name less.projection)
    rw [filter, filter, hschema]
    cases lenient.schema with
    | none => exact .refl less.projection
    | some schema =>
        exact Filter.node_within hdefaults hbare hexcludes less.distinct_projection name
  refine ⟨hwithin, ?_⟩
  intro path hpath
  -- the layout is told by the return type, so both have the same
  rw [Layout.selectPath?_eq_at?] at hpath ⊢
  exact hwithin _ hpath

/-- The options of the example, with identifiers and images excluded for users as well. -/
def strictOptions : Options :=
  blogOptions.withExcludes "User" (.fixed ["password", "id", "images"])

/-- The strict options exclude at least what the options of the example do. -/
theorem excludesFor_blogOptions_subset (name declared : String) (selection : Selection) :
    blogOptions.excludesFor name declared selection ⊆
      strictOptions.excludesFor name declared selection := by
  have hlenient (key : String) : blogOptions.excludes.find? key =
      if "User" = key then some (.fixed ["password"]) else none := rfl
  have hstrict (key : String) : strictOptions.excludes.find? key =
      if "User" = key then some (.fixed ["password", "id", "images"]) else none := rfl
  unfold Options.excludesFor Options.entryFor
  rw [hlenient, hlenient, hstrict, hstrict]
  by_cases hname : "User" = name
  · simp only [if_pos hname, Option.some_or, Option.map_some, Option.getD_some]
    exact List.cons_subset_cons _ (List.nil_subset _)
  · simp only [if_neg hname, Option.none_or]
    by_cases hdeclared : "User" = declared
    · simp only [if_pos hdeclared, Option.map_some, Option.getD_some]
      exact List.cons_subset_cons _ (List.nil_subset _)
    · simp only [if_neg hdeclared, Option.map_none, Option.getD_none]
      exact List.nil_subset _

/-- The strict options leave no images, but identifiers, which are default fields of users, also
below the posts. So the others leave these. -/
theorem valueFor_within_blogRequest :
    let less : Projector := ⟨blogRequest.info, strictOptions⟩
    let more : Projector := ⟨blogRequest.info, blogOptions⟩
    strictOptions.schema = blogOptions.schema ∧ strictOptions.defaults = blogOptions.defaults ∧
      blogOptions.DefaultsBare ∧
      (∀ name declared selection, blogOptions.excludesFor name declared selection ⊆
        strictOptions.excludesFor name declared selection) ∧
      (less.layout.selectPath? (less.valueFor "User") ["images"]).isSome = false ∧
      (less.layout.selectPath? (less.valueFor "User") ["posts", "author", "id"]).isSome ∧
      (more.layout.selectPath? (more.valueFor "User") ["posts", "author", "id"]).isSome := by
  intro less more
  have hleft :
      (less.layout.selectPath? (less.valueFor "User") ["posts", "author", "id"]).isSome := by
    decide +kernel
  obtain ⟨_, hfields⟩ := valueFor_within blogRequest.info strictOptions blogOptions rfl rfl
    blogOptions_defaultsBare excludesFor_blogOptions_subset "User"
  exact ⟨rfl, rfl, blogOptions_defaultsBare, excludesFor_blogOptions_subset, by decide +kernel,
    hleft, hfields _ hleft⟩

end Projector

end FieldProjection
