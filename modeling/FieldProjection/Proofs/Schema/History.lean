import FieldProjection.Proofs.Schema.AliasList
import FieldProjection.Proofs.Schema.Resolution
import Mathlib.Data.List.Induction

/-!
# Schemas over a history

A schema is built in steps, which store models or start again with the models of a list. `history`
keeps what was stored since the last list, in order, and it determines the schema: the names stand
in the order in which they were first stored, each with the model that was stored last. What a name
stands for then depends on the order of names and on the model of each, as `Resolves` says. All of
this is said of every run in `run_resolves`, with what follows for names that stood for a model
before: a new model takes none of them, and one that is stored again stays where it is.
-/

namespace FieldProjection

/-- The comment of a model lists a name in its first closed annotation. -/
def Model.Lists (model : Model) (name : String) : Prop :=
  ∃ documentation front list rest, model.documentation = some documentation ∧
    AliasList.FirstClosed documentation.toList front list rest ∧ name ∈ AliasList.names ⟨list⟩

/-- A name is an alias of a model just when the comment of the model lists it. -/
theorem Model.isMappedTo_iff {model : Model} {name : String} :
    model.isMappedTo name = true ↔ model.Lists name := by
  rw [isMappedTo, Option.any_eq_true, aliases?]
  constructor
  · rintro ⟨aliases, hfound, hmem⟩
    obtain ⟨documentation, hdocumentation, hparse⟩ := Option.bind_eq_some_iff.mp hfound
    obtain ⟨front, rest, hfirst⟩ := AliasList.exists_firstClosed_of_find? hparse
    exact ⟨documentation, front, aliases.text, rest, hdocumentation, hfirst,
      List.contains_iff_mem.mp hmem⟩
  · rintro ⟨documentation, front, list, rest, hdocumentation, hfirst, hmem⟩
    refine ⟨⟨list⟩, ?_, List.contains_iff_mem.mpr hmem⟩
    rw [hdocumentation, Option.bind_some]
    exact hfirst.find?_eq_some

namespace Schema

/-! ## Steps -/

/-- A change of a stored model. -/
inductive Revision where
  | field (name : String) (declared : Field)
  | documentation (text : String)

/-- A model with a change. -/
def Revision.apply (model : Model) : Revision → Model
  | .field name declared => model.withField name declared
  | .documentation text => model.withDocumentation text

/-- A step in the construction of a schema. -/
inductive Step where
  /-- Stores a model under a name. -/
  | insert (name : String) (model : Model)
  /-- Stores a model under a name and answers with the one that was stored there. -/
  | exchange (name : String) (model : Model)
  /-- Starts again with the models of a list. -/
  | ofList (models : List (String × Model))
  /-- Stores again, with a change, the model that is stored under a name, or an empty one. -/
  | revise (name : String) (revision : Revision)

/-- A schema after a step. -/
def apply (schema : Schema) : Step → Schema
  | .insert name model => schema.insert name model
  | .exchange name model => (schema.exchange name model).2
  | .ofList models => .ofList models
  | .revise name revision => schema.insert name (revision.apply ((schema.find? name).getD {}))

/-- The model that was stored last under a name. -/
def lastStored? (stored : Entries Model) (name : String) : Option Model :=
  Entries.find? name stored.reverse

/-- What was stored since the last list, after a step. -/
def Step.record (stored : Entries Model) : Step → Entries Model
  | .insert name model => stored ++ [(name, model)]
  | .exchange name model => stored ++ [(name, model)]
  | .ofList models => models
  | .revise name revision =>
    stored ++ [(name, revision.apply ((lastStored? stored name).getD {}))]

/-- The schema after steps from the one without models. -/
def run (steps : List Step) : Schema :=
  steps.foldl apply .empty

/-- What was stored since the last list, after steps. -/
def history (steps : List Step) : Entries Model :=
  steps.foldl Step.record []

/-- The model of a name is the one that was stored last. -/
theorem find?_ofList (stored : Entries Model) (name : String) :
    (ofList stored).find? name = lastStored? stored name :=
  Entries.find?_ofList name stored

/-- The names stand in the order in which they were first stored. -/
theorem names_ofList (stored : Entries Model) :
    (ofList stored).names = (Entries.keys stored).eraseDups :=
  Entries.keys_ofList stored

/-- A model that is stored comes last in the history. -/
theorem insert_ofList (stored : Entries Model) (name : String) (model : Model) :
    (ofList stored).insert name model = ofList (stored ++ [(name, model)]) :=
  congrArg Schema.mk (OrderedMap.ofList_concat stored (name, model)).symm

/-- A step leads from the schema of a history to that of the history with the step. -/
theorem apply_ofList (stored : Entries Model) (step : Step) :
    (ofList stored).apply step = ofList (step.record stored) := by
  cases step with
  | insert name model | exchange name model => exact insert_ofList stored name model
  | ofList models => rfl
  | revise name revision =>
      rw [apply, Step.record, find?_ofList]
      exact insert_ofList stored name _

/-- A run leads to the schema of its history. -/
theorem run_eq_ofList (steps : List Step) : run steps = ofList (history steps) := by
  induction steps using List.reverseRecOn with
  | nil => rfl
  | append_singleton front step ih =>
      rw [run, history, List.foldl_concat, List.foldl_concat, ← run, ← history, ih, apply_ofList]

/-- A run with one more step. -/
theorem run_concat (steps : List Step) (step : Step) :
    run (steps ++ [step]) = (run steps).apply step :=
  List.foldl_concat ..

/-! ## Names -/

/-- What a name stands for, given the names of the models in order and the model of each. -/
inductive Resolves (names : List String) (model? : String → Option Model) (name : String) :
    Option (String × Model) → Prop where
  /-- A declared name stands for its own model. -/
  | declared {model : Model} : name ≠ "" → model? name = some model →
      Resolves names model? name (some (name, model))
  /-- Any other name stands for the first model that lists it. -/
  | listed {front back : List String} {declared : String} {model : Model} : name ≠ "" →
      model? name = none → names = front ++ declared :: back → model? declared = some model →
      model.Lists name →
      (∀ earlier ∈ front, ∀ other, model? earlier = some other → ¬other.Lists name) →
      Resolves names model? name (some (declared, model))
  /-- A name that no model lists stands for nothing. -/
  | unlisted : name ≠ "" → model? name = none →
      (∀ declared ∈ names, ∀ model, model? declared = some model → ¬model.Lists name) →
      Resolves names model? name none
  /-- The empty name stands for nothing. -/
  | empty : name = "" → Resolves names model? name none

variable {schema : Schema} {model : Model} {name declared : String} {front back : List String}

/-- A name that is not declared stands for the first model whose comment maps it. -/
theorem resolve?_of_find?_eq_none (hname : name ≠ "") (h : schema.find? name = none) :
    schema.resolve? name =
      List.find? (fun entry => entry.2.isMappedTo name) schema.models.entries := by
  rw [resolve?, if_neg hname, h]

/-- The entries of a schema are cut where its names are. -/
theorem exists_entries_of_names (h : schema.names = front ++ declared :: back) :
    ∃ before model after, schema.models.entries = before ++ (declared, model) :: after ∧
      Entries.keys before = front := by
  obtain ⟨before, rest, hentries, hbefore, hrest⟩ := List.map_eq_append_iff.mp h
  obtain ⟨⟨_, model⟩, after, rfl, rfl, -⟩ := List.map_eq_cons_iff.mp hrest
  exact ⟨before, model, after, hentries, hbefore⟩

/-- The model of an entry is found under its name. -/
theorem find?_of_mem_entries (h : (declared, model) ∈ schema.models.entries) :
    schema.find? declared = some model :=
  Entries.find?_of_mem schema.models.nodup h

/-- In some of the entries no model lists a name just when none is found there by its name. -/
theorem forall_not_lists_iff {before after : Entries Model}
    (hentries : schema.models.entries = before ++ after) :
    (∀ earlier ∈ Entries.keys before, ∀ other, schema.find? earlier = some other →
      ¬other.Lists name) ↔ ∀ entry ∈ before, ¬entry.2.Lists name := by
  have hfind : ∀ entry ∈ before, schema.find? entry.1 = some entry.2 := by
    intro entry hmem
    exact find?_of_mem_entries (hentries ▸ List.mem_append_left after hmem)
  constructor
  · intro h entry hmem
    exact h entry.1 (Entries.mem_keys_of_mem hmem) entry.2 (hfind entry hmem)
  · intro h earlier hearlier other hother
    obtain ⟨entry, hmem, rfl⟩ := List.mem_map.mp hearlier
    rw [hfind entry hmem] at hother
    exact Option.some.inj hother ▸ h entry hmem

/-- A name is resolved to what it stands for. -/
theorem resolves_resolve? (schema : Schema) (name : String) :
    Resolves schema.names schema.find? name (schema.resolve? name) := by
  by_cases hname : name = ""
  · subst hname
    exact .empty rfl
  · cases hfind : schema.find? name with
    | some model =>
        rw [resolve?_of_find? hname hfind]
        exact .declared hname hfind
    | none =>
        rw [resolve?_of_find?_eq_none hname hfind]
        cases hfirst :
            List.find? (fun entry => entry.2.isMappedTo name) schema.models.entries with
        | none =>
            refine .unlisted hname hfind ?_
            refine (forall_not_lists_iff (List.append_nil _).symm).mpr fun entry hmem => ?_
            rw [← Model.isMappedTo_iff]
            exact List.find?_eq_none.mp hfirst entry hmem
        | some found =>
            obtain ⟨hmapped, before, after, hentries, hbefore⟩ :=
              List.find?_eq_some_iff_append.mp hfirst
            have hnames : schema.names = Entries.keys before ++ found.1 :: Entries.keys after := by
              rw [names, OrderedMap.keys, hentries, Entries.keys, List.map_append]
              rfl
            refine .listed hname hfind hnames ?_ (Model.isMappedTo_iff.mp hmapped) ?_
            · exact find?_of_mem_entries (hentries ▸ List.mem_append_right _ List.mem_cons_self)
            · refine (forall_not_lists_iff hentries).mpr fun entry hmem => ?_
              rw [← Model.isMappedTo_iff]
              simpa using hbefore entry hmem

/-- A name stands for one thing only. -/
theorem Resolves.eq_resolve? {found : Option (String × Model)}
    (h : Resolves schema.names schema.find? name found) : schema.resolve? name = found := by
  cases h with
  | declared hname hfind => exact resolve?_of_find? hname hfind
  | @listed front back declared model hname hfind hnames hmodel hlists hfront =>
      obtain ⟨before, held, after, hentries, rfl⟩ := exists_entries_of_names hnames
      have hheld : schema.find? declared = some held :=
        find?_of_mem_entries (hentries ▸ List.mem_append_right _ List.mem_cons_self)
      obtain rfl : held = model := Option.some.inj (hheld.symm.trans hmodel)
      rw [resolve?_of_find?_eq_none hname hfind, List.find?_eq_some_iff_append]
      refine ⟨Model.isMappedTo_iff.mpr hlists, before, after, hentries, fun entry hmem => ?_⟩
      have hnot := (forall_not_lists_iff hentries).mp hfront entry hmem
      simpa [← Model.isMappedTo_iff] using hnot
  | unlisted hname hfind hnone =>
      rw [resolve?_of_find?_eq_none hname hfind, List.find?_eq_none]
      intro entry hmem
      rw [Model.isMappedTo_iff]
      exact (forall_not_lists_iff (List.append_nil _).symm).mp hnone entry hmem
  | empty hname => rw [hname, resolve?_empty_name]

/-! ## Stored models -/

/-- A name that stands for a model stands for it also after a new one was stored under another
name. -/
theorem resolve?_insert_of_new {added : String} {found : String × Model}
    (hnew : schema.find? added = none) (hname : name ≠ added)
    (h : schema.resolve? name = some found) (model : Model) :
    (schema.insert added model).resolve? name = some found := by
  have hfind : (schema.insert added model).find? name = schema.find? name := by
    rw [find?, insert, OrderedMap.find?_insert, if_neg (Ne.symm hname), ← find?]
  have hentries : (schema.insert added model).models.entries =
      schema.models.entries ++ [(added, model)] :=
    Entries.insert_of_not_mem (Entries.find?_eq_none_iff.mp hnew) model
  have hnonempty : name ≠ "" := by
    rintro rfl
    exact Option.some_ne_none _ h.symm
  cases hdeclared : schema.find? name with
  | some held =>
      rw [resolve?_of_find? hnonempty hdeclared] at h
      rw [resolve?_of_find? hnonempty (hfind.trans hdeclared), h]
  | none =>
      rw [resolve?_of_find?_eq_none hnonempty hdeclared] at h
      rw [resolve?_of_find?_eq_none hnonempty (hfind.trans hdeclared), hentries,
        List.find?_append, h, Option.some_or]

/-- `KeepsPlace before after declared` says that a model has the same place among those that list a
name after a change as before: no model behind it takes precedence, and each one in front does. -/
structure KeepsPlace (before after : Schema) (declared : String) : Prop where
  names : after.names = before.names
  first {front back : List String} {name : String} {model : Model} :
    before.names = front ++ declared :: back → after.find? declared = some model → name ≠ "" →
    before.find? name = none → model.Lists name →
    (∀ earlier ∈ front, ∀ other, before.find? earlier = some other → ¬other.Lists name) →
    after.resolve? name = some (declared, model)
  later {front back : List String} {name earlier : String} {other : Model} :
    before.names = front ++ declared :: back → name ≠ "" → before.find? name = none →
    earlier ∈ front → before.find? earlier = some other → other.Lists name →
    after.resolve? name = before.resolve? name

/-- A model that is stored again under its name keeps its place. -/
theorem keepsPlace_insert {held : Model} (hheld : schema.find? declared = some held)
    (model : Model) : KeepsPlace schema (schema.insert declared model) declared := by
  have hfind (name : String) : (schema.insert declared model).find? name =
      if declared = name then some model else schema.find? name :=
    OrderedMap.find?_insert ..
  have hother {name : String} (h : schema.find? name = none) :
      (schema.insert declared model).find? name = none := by
    have hne : declared ≠ name := by
      rintro rfl
      exact Option.some_ne_none _ (hheld.symm.trans h)
    rw [hfind, if_neg hne, h]
  have hnames : (schema.insert declared model).names = schema.names := by
    have hmem : declared ∈ Entries.keys schema.models.entries :=
      Entries.isSome_find?_iff.mp (Option.isSome_of_eq_some hheld)
    exact (Entries.keys_insert declared model schema.models.entries).trans (if_pos hmem)
  refine ⟨hnames, ?_, ?_⟩
  · intro front back name found hsplit hfound hname hnone hlists hfront
    refine Resolves.eq_resolve?
      (.listed hname (hother hnone) (hnames.trans hsplit) hfound hlists ?_)
    intro earlier hearlier other hmodel
    have hne : declared ≠ earlier := by
      rintro rfl
      have hnodup : (front ++ declared :: back).Nodup := hsplit ▸ schema.models.nodup
      exact (List.nodup_append.mp hnodup).2.2 _ hearlier _ List.mem_cons_self rfl
    rw [hfind, if_neg hne] at hmodel
    exact hfront earlier hearlier other hmodel
  · intro front back name earlier other hsplit hname hnone hearlier hmodel hlists
    obtain ⟨before, held, after, hentries, rfl⟩ := exists_entries_of_names hsplit
    have hnotMem : declared ∉ Entries.keys before := by
      intro hmem
      have hnodup : (Entries.keys before ++ declared :: back).Nodup := hsplit ▸ schema.models.nodup
      exact (List.nodup_append.mp hnodup).2.2 _ hmem _ List.mem_cons_self rfl
    have hstored : (schema.insert declared model).models.entries =
        before ++ (declared, model) :: after := by
      rw [insert, OrderedMap.entries_insert, hentries, Entries.insert_append_cons hnotMem]
    -- the search ends in front of the model, where nothing has changed
    have hsome : (List.find? (fun entry => entry.2.isMappedTo name) before).isSome := by
      rw [Option.isSome_iff_ne_none, ne_eq, List.find?_eq_none]
      intro hall
      refine (forall_not_lists_iff hentries).mpr (fun entry hmem => ?_) _ hearlier _ hmodel hlists
      rw [← Model.isMappedTo_iff]
      exact hall entry hmem
    rw [resolve?_of_find?_eq_none hname hnone, resolve?_of_find?_eq_none hname (hother hnone),
      hentries, hstored, List.find?_append, List.find?_append, Option.or_of_isSome hsome,
      Option.or_of_isSome hsome]

/-! ## Runs -/

/-- After any run the names stand in the order in which they were first stored since the last list,
each with the model that was stored last, with which an exchange answers. A name stands for its own
model, or else for the first that lists it. A name that stands for a model does so also after a new
one was stored under another name, and a model that is stored again with another comment keeps its
place among those that list a name. -/
theorem run_resolves (steps : List Step) :
    (run steps).names = (Entries.keys (history steps)).eraseDups ∧ (run steps).names.Nodup ∧
    (∀ name, (run steps).find? name = lastStored? (history steps) name) ∧
    (∀ name model, (run steps).exchange name model =
      (lastStored? (history steps) name, run (steps ++ [.exchange name model]))) ∧
    (∀ name found, (run steps).resolve? name = found ↔
      Resolves (Entries.keys (history steps)).eraseDups (lastStored? (history steps)) name found) ∧
    (∀ added model name found, lastStored? (history steps) added = none → name ≠ added →
      (run steps).resolve? name = some found →
      (run (steps ++ [.insert added model])).resolve? name = some found) ∧
    ∀ declared text, lastStored? (history steps) declared ≠ none →
      KeepsPlace (run steps) (run (steps ++ [.revise declared (.documentation text)]))
        declared := by
  have hfind : (run steps).find? = lastStored? (history steps) := by
    rw [run_eq_ofList]
    exact funext (find?_ofList _)
  have hnames : (run steps).names = (Entries.keys (history steps)).eraseDups := by
    rw [run_eq_ofList]
    exact names_ofList _
  refine ⟨hnames, (run steps).models.nodup, fun name => congrFun hfind name, ?_, ?_, ?_, ?_⟩
  · intro name model
    rw [exchange, run_concat, ← hfind]
    rfl
  · intro name found
    rw [← hnames, ← hfind]
    constructor
    · rintro rfl
      exact resolves_resolve? _ _
    · exact Resolves.eq_resolve?
  · intro added model name found hnew hname h
    rw [← hfind] at hnew
    rw [run_concat]
    exact resolve?_insert_of_new hnew hname h model
  · intro declared text hdeclared
    rw [← hfind] at hdeclared
    obtain ⟨held, hheld⟩ := Option.ne_none_iff_exists'.mp hdeclared
    rw [run_concat]
    exact keepsPlace_insert hheld _

/-- Two models that list one name, the second also another one. -/
def taggedSteps : List Step :=
  [.insert "User" ⟨.empty, some "@PrismaSelect.map([Account])"⟩,
    .exchange "Member" ⟨.empty, some "@PrismaSelect.map([Account, Person])"⟩]

/-- The first model keeps the name of both when a third one lists it, too, and takes precedence for
the other name when its comment is changed to list that name. -/
theorem run_resolves_taggedSteps :
    (run taggedSteps).names = ["User", "Member"] ∧
    (∃ found, (run taggedSteps).resolve? "Account" = some ("User", found) ∧
      (run (taggedSteps ++
        [.insert "Guest" ⟨.empty, some "@PrismaSelect.map([Account])"⟩])).resolve? "Account" =
          some ("User", found)) ∧
    ∃ found, (run (taggedSteps ++
      [.revise "User" (.documentation "@PrismaSelect.map([Person])")])).resolve? "Person" =
        some ("User", found) := by
  obtain ⟨hnames, -, -, -, -, hnew, hrevised⟩ := run_resolves taggedSteps
  have horder : (run taggedSteps).names = ["User", "Member"] := hnames.trans (by decide +kernel)
  have hplace := hrevised "User" "@PrismaSelect.map([Person])" (by simp [taggedSteps, history,
    Step.record, lastStored?, Entries.find?])
  refine ⟨horder, ?_, ?_⟩
  · have hfirst : ((run taggedSteps).resolve? "Account").map Prod.fst = some "User" := by
      decide +kernel
    obtain ⟨⟨declared, found⟩, hfound, rfl⟩ := Option.map_eq_some_iff.mp hfirst
    exact ⟨found, hfound, hnew "Guest" _ "Account" _ rfl (by decide) hfound⟩
  · refine ⟨_, hplace.first (horder.trans (List.nil_append _).symm) rfl (by decide) rfl ?_ ?_⟩
    · exact Model.isMappedTo_iff.mp (by decide +kernel)
    · intro earlier hearlier
      exact False.elim (List.not_mem_nil hearlier)

end Schema

end FieldProjection
