import FieldProjection.Datamodel.Generate
import FieldProjection.Proofs.Entries.Insertion
import FieldProjection.Proofs.Loops

/-!
# Declarations and schemas

Declarations without repeated names and schemas are the same thing: `generate` makes a schema of the
declarations, and `declarations` reads them back off it, in both directions without loss. Any other
declarations are refused because of the first model that repeats a name, as `Refused` says. Both are
put together in `generate_bijective`. Each of the two loops of `generate` is followed along the part
of its list that was taken in so far.
-/

namespace FieldProjection

/-! ## Reading declarations back -/

/-- A declared field as an entry of a model. -/
def FieldDeclaration.entry (field : FieldDeclaration) : String × Field :=
  (field.name, ⟨field.kind, field.type⟩)

/-- The fields of a model as they are declared. -/
def Model.declarations (model : Model) : List FieldDeclaration :=
  model.fields.entries.map fun entry => ⟨entry.1, entry.2.kind, entry.2.type⟩

/-- A declared model as an entry of a schema. Of fields with one name the last would count. -/
def ModelDeclaration.entry (model : ModelDeclaration) : String × Model :=
  (model.name, ⟨.ofList (model.fields.map FieldDeclaration.entry), model.documentation⟩)

/-- The models of a schema as they are declared. -/
def Schema.declarations (schema : Schema) : List ModelDeclaration :=
  schema.models.entries.map fun entry => ⟨entry.1, entry.2.declarations, entry.2.documentation⟩

/-- No name of a declared field is repeated. -/
def FieldDeclaration.Distinct (fields : List FieldDeclaration) : Prop :=
  (fields.map FieldDeclaration.name).Nodup

/-- No two declared models have the same name, and no two fields of a model. -/
structure ModelDeclaration.Distinct (models : List ModelDeclaration) : Prop where
  names : (models.map ModelDeclaration.name).Nodup
  fields : ∀ model ∈ models, FieldDeclaration.Distinct model.fields

/-- The names of the entries of declared fields. -/
theorem FieldDeclaration.keys_map_entry (fields : List FieldDeclaration) :
    Entries.keys (fields.map entry) = fields.map name := by
  rw [Entries.keys, List.map_map]
  rfl

/-- The names of the entries of declared models. -/
theorem ModelDeclaration.keys_map_entry (models : List ModelDeclaration) :
    Entries.keys (models.map entry) = models.map name := by
  rw [Entries.keys, List.map_map]
  rfl

/-- One more field repeats nothing if it has a new name. -/
theorem FieldDeclaration.distinct_concat_iff {front : List FieldDeclaration}
    {field : FieldDeclaration} :
    Distinct (front ++ [field]) ↔ Distinct front ∧ field.name ∉ front.map name := by
  rw [Distinct, List.map_append, List.map_singleton, ← List.concat_eq_append,
    List.nodup_concat, and_comm]
  rfl

/-- One more model repeats nothing if it has neither a field twice nor the name of another model. -/
theorem ModelDeclaration.distinct_concat_iff {front : List ModelDeclaration}
    {model : ModelDeclaration} :
    Distinct (front ++ [model]) ↔
      Distinct front ∧ FieldDeclaration.Distinct model.fields ∧ model.name ∉ front.map name := by
  have hnames : ((front ++ [model]).map name).Nodup ↔
      (front.map name).Nodup ∧ model.name ∉ front.map name := by
    rw [List.map_append, List.map_singleton, ← List.concat_eq_append, List.nodup_concat, and_comm]
  constructor
  · rintro ⟨hmodels, hfields⟩
    rw [List.forall_mem_append, List.forall_mem_singleton] at hfields
    obtain ⟨hfront, hnew⟩ := hnames.mp hmodels
    exact ⟨⟨hfront, hfields.1⟩, hfields.2, hnew⟩
  · rintro ⟨hfront, hmodel, hnew⟩
    refine ⟨hnames.mpr ⟨hfront.names, hnew⟩, ?_⟩
    rw [List.forall_mem_append, List.forall_mem_singleton]
    exact ⟨hfront.fields, hmodel⟩

/-- Declared fields without repeated names are read back off their model. -/
theorem Model.declarations_entry {model : ModelDeclaration}
    (h : FieldDeclaration.Distinct model.fields) : model.entry.2.declarations = model.fields := by
  have hentries : (OrderedMap.ofList (model.fields.map FieldDeclaration.entry)).entries = _ :=
    OrderedMap.entries_ofList (FieldDeclaration.keys_map_entry model.fields ▸ h)
  rw [declarations, ModelDeclaration.entry, hentries, List.map_map]
  exact List.map_id _

/-- The fields that are read off a model make its map of fields. -/
theorem Model.ofList_declarations (model : Model) :
    OrderedMap.ofList (model.declarations.map FieldDeclaration.entry) = model.fields := by
  have hentries : model.declarations.map FieldDeclaration.entry = model.fields.entries := by
    rw [declarations, List.map_map]
    exact List.map_id _
  rw [hentries, OrderedMap.ofList_entries]

namespace Schema

/-- Declared models without repeated names are read back off their schema. -/
theorem declarations_ofList {models : List ModelDeclaration}
    (h : ModelDeclaration.Distinct models) :
    (ofList (models.map ModelDeclaration.entry)).declarations = models := by
  have hentries := OrderedMap.entries_ofList ((ModelDeclaration.keys_map_entry _).symm ▸ h.names)
  have hmodel : ∀ model ∈ models,
      (⟨model.name, model.entry.2.declarations, model.documentation⟩ : ModelDeclaration) =
        model := by
    intro model hmem
    rw [Model.declarations_entry (h.fields model hmem)]
  rw [declarations, ofList, hentries, List.map_map]
  exact (List.map_congr_left hmodel).trans (List.map_id _)

/-- The models that are read off a schema make the schema. -/
theorem ofList_declarations (schema : Schema) :
    ofList (schema.declarations.map ModelDeclaration.entry) = schema := by
  have hentry : ∀ entry ∈ schema.models.entries,
      (entry.1, (⟨OrderedMap.ofList (entry.2.declarations.map FieldDeclaration.entry),
        entry.2.documentation⟩ : Model)) = entry := by
    intro entry _
    rw [Model.ofList_declarations]
  have hentries : schema.declarations.map ModelDeclaration.entry = schema.models.entries := by
    rw [declarations, List.map_map]
    exact (List.map_congr_left hentry).trans (List.map_id _)
  rw [hentries, ofList, OrderedMap.ofList_entries]

/-- What is read off a schema repeats no name. -/
theorem distinct_declarations (schema : Schema) :
    ModelDeclaration.Distinct schema.declarations where
  names := by
    rw [declarations, List.map_map]
    exact schema.models.nodup
  fields := by
    intro model hmem
    obtain ⟨entry, _, rfl⟩ := List.mem_map.mp hmem
    show (entry.2.declarations.map FieldDeclaration.name).Nodup
    rw [Model.declarations, List.map_map]
    exact entry.2.fields.nodup

/-! ## The two loops -/

/-- Behind some fields the next one is taken in, unless it has the name of one of these. -/
theorem addField_ofList (model : String) (fields : List FieldDeclaration)
    (field : FieldDeclaration) :
    addField model (.ofList (fields.map FieldDeclaration.entry)) field =
      if field.name ∈ fields.map FieldDeclaration.name then
        .error (.repeatedField model field.name)
      else .ok (.ofList ((fields ++ [field]).map FieldDeclaration.entry)) := by
  simp only [addField, OrderedMap.isSome_find?_ofList_iff, FieldDeclaration.keys_map_entry,
    List.map_append, List.map_singleton, OrderedMap.ofList_concat]
  rfl

/-- Behind some models the next one is taken in with its fields, unless one of these is repeated or
it has the name of one of the models. -/
theorem addModel_ofList (models : List ModelDeclaration) (model : ModelDeclaration) :
    addModel (ofList (models.map ModelDeclaration.entry)) model =
      (model.fields.foldlM (addField model.name) .empty).bind fun fields =>
        if model.name ∈ models.map ModelDeclaration.name then .error (.repeatedModel model.name)
        else .ok ((ofList (models.map ModelDeclaration.entry)).insert model.name
          ⟨fields, model.documentation⟩) := by
  have hfind : ((ofList (models.map ModelDeclaration.entry)).find? model.name).isSome ↔
      model.name ∈ models.map ModelDeclaration.name := by
    rw [← ModelDeclaration.keys_map_entry]
    exact OrderedMap.isSome_find?_ofList_iff
  simp only [addModel, hfind]
  rfl

/-- Fields without repeated names are taken in. -/
theorem foldlM_addField {fields : List FieldDeclaration} (h : FieldDeclaration.Distinct fields)
    (model : String) :
    fields.foldlM (addField model) .empty =
      .ok (.ofList (fields.map FieldDeclaration.entry)) := by
  refine Loop.foldlM_eq_ok (fun fields => OrderedMap.ofList (fields.map FieldDeclaration.entry))
    (fun front field hdistinct => ?_) h
  obtain ⟨hfront, hnew⟩ := FieldDeclaration.distinct_concat_iff.mp hdistinct
  exact ⟨hfront, by rw [addField_ofList, if_neg hnew]⟩

/-- Models without repeated names are taken in. -/
theorem foldlM_addModel {models : List ModelDeclaration} (h : ModelDeclaration.Distinct models) :
    models.foldlM addModel .empty = .ok (ofList (models.map ModelDeclaration.entry)) := by
  refine Loop.foldlM_eq_ok (fun models => ofList (models.map ModelDeclaration.entry))
    (fun front model hdistinct => ?_) h
  obtain ⟨hfront, hfields, hnew⟩ := ModelDeclaration.distinct_concat_iff.mp hdistinct
  refine ⟨hfront, ?_⟩
  rw [addModel_ofList, foldlM_addField hfields, Except.bind, if_neg hnew, List.map_append]
  exact congrArg (fun models => Except.ok (Schema.mk models))
    (OrderedMap.ofList_concat _ model.entry).symm

end Schema

/-! ## Refused declarations -/

/-- Why declarations are refused: the first model that repeats one of its own fields or the name of
a model in front of it, and of these faults the first repeated field. -/
inductive Datamodel.Refused (models : List ModelDeclaration) : Error → Prop where
  | repeatedField {front back : List ModelDeclaration} {model : ModelDeclaration}
      {before after : List FieldDeclaration} {field : FieldDeclaration} :
      models = front ++ model :: back → ModelDeclaration.Distinct front →
      model.fields = before ++ field :: after → FieldDeclaration.Distinct before →
      field.name ∈ before.map FieldDeclaration.name →
      Refused models (.invalidSchema ("model `" ++ model.name ++ "` declares field `" ++
        field.name ++ "` more than once"))
  | repeatedModel {front back : List ModelDeclaration} {model : ModelDeclaration} :
      models = front ++ model :: back → ModelDeclaration.Distinct front →
      FieldDeclaration.Distinct model.fields → model.name ∈ front.map ModelDeclaration.name →
      Refused models (.invalidSchema ("model `" ++ model.name ++ "` is declared more than once"))

/-- Fields that repeat a name have a first one that repeats it. -/
theorem FieldDeclaration.exists_first_repeated {fields : List FieldDeclaration}
    (h : ¬Distinct fields) : ∃ before field after, fields = before ++ field :: after ∧
      Distinct before ∧ field.name ∈ before.map name := by
  have hnil : Distinct [] := List.nodup_nil
  obtain ⟨before, field, after, hsplit, hbefore, hfield⟩ := Loop.exists_first_failure hnil h
  rw [distinct_concat_iff, not_and, not_not] at hfield
  exact ⟨before, field, after, hsplit, hbefore, hfield hbefore⟩

namespace Datamodel

variable {models : List ModelDeclaration} {error : Error}

/-- Declarations that repeat a name are refused. -/
theorem exists_refused (h : ¬ModelDeclaration.Distinct models) :
    ∃ error, Refused models error := by
  have hnil : ModelDeclaration.Distinct [] := ⟨List.nodup_nil, List.forall_mem_nil _⟩
  obtain ⟨front, model, back, hsplit, hfront, hmodel⟩ := Loop.exists_first_failure hnil h
  rw [ModelDeclaration.distinct_concat_iff, not_and, not_and, not_not] at hmodel
  by_cases hfields : FieldDeclaration.Distinct model.fields
  · exact ⟨_, .repeatedModel hsplit hfront hfields (hmodel hfront hfields)⟩
  · obtain ⟨before, field, after, hcut, hbefore, hfield⟩ :=
      FieldDeclaration.exists_first_repeated hfields
    exact ⟨_, .repeatedField hsplit hfront hcut hbefore hfield⟩

/-- Declarations that are refused make no schema, for the reason given. -/
theorem Refused.generate_eq (h : Refused models error) :
    (Schema.generate models).mapError SchemaFault.error = .error error := by
  cases h with
  | @repeatedField front back model before after field hsplit hfront hcut hbefore hfield =>
      have hfields : model.fields.foldlM (Schema.addField model.name) .empty =
          .error (.repeatedField model.name field.name) := by
        rw [hcut]
        refine Loop.foldlM_eq_error (Schema.foldlM_addField hbefore model.name) ?_
        rw [Schema.addField_ofList, if_pos hfield]
      have hfault : Schema.generate models = .error (.repeatedField model.name field.name) := by
        rw [Schema.generate, hsplit]
        refine Loop.foldlM_eq_error (Schema.foldlM_addModel hfront) ?_
        rw [Schema.addModel_ofList, hfields, Except.bind]
      rw [hfault]
      rfl
  | @repeatedModel front back model hsplit hfront hfields hname =>
      have hfault : Schema.generate models = .error (.repeatedModel model.name) := by
        rw [Schema.generate, hsplit]
        refine Loop.foldlM_eq_error (Schema.foldlM_addModel hfront) ?_
        rw [Schema.addModel_ofList, Schema.foldlM_addField hfields, Except.bind, if_pos hname]
      rw [hfault]
      rfl

/-- Declarations that are refused are reported as an invalid schema. -/
theorem Refused.isInvalidSchema (h : Refused models error) : error.isInvalidSchema = true := by
  cases h <;> rfl

end Datamodel

namespace Schema

/-- Declarations make a schema just when they repeat no name. The schema is then the one off which
they are read back, and every schema is made of what is read back off it. All other declarations are
refused because of the first model that repeats a name. -/
theorem generate_bijective (models : List ModelDeclaration) :
    ((∃ schema, generate models = .ok schema) ↔ ModelDeclaration.Distinct models) ∧
    (∀ schema, generate models = .ok schema ↔ schema.declarations = models) ∧
    ∀ error, (generate models).mapError SchemaFault.error = .error error ↔
      error.isInvalidSchema = true ∧ Datamodel.Refused models error := by
  have hdistinct : ∀ {schema}, generate models = .ok schema → ModelDeclaration.Distinct models := by
    intro schema hschema
    by_contra hrepeated
    obtain ⟨error, hrefused⟩ := Datamodel.exists_refused hrepeated
    have herror := hrefused.generate_eq
    rw [hschema] at herror
    cases herror
  refine ⟨⟨fun ⟨_, hschema⟩ => hdistinct hschema, fun h => ⟨_, foldlM_addModel h⟩⟩, ?_, ?_⟩
  · intro schema
    constructor
    · intro hschema
      have hmade := foldlM_addModel (hdistinct hschema)
      obtain rfl := Except.ok.inj (hschema.symm.trans hmade)
      exact declarations_ofList (hdistinct hschema)
    · rintro rfl
      refine (foldlM_addModel schema.distinct_declarations).trans ?_
      rw [ofList_declarations]
  · intro error
    constructor
    · intro herror
      have hrepeated : ¬ModelDeclaration.Distinct models := by
        intro h
        rw [generate, foldlM_addModel h] at herror
        cases herror
      obtain ⟨reason, hrefused⟩ := Datamodel.exists_refused hrepeated
      obtain rfl := Except.error.inj (hrefused.generate_eq.symm.trans herror)
      exact ⟨hrefused.isInvalidSchema, hrefused⟩
    · rintro ⟨-, hrefused⟩
      exact hrefused.generate_eq

/-- A model with both faults is refused because of its field, whatever follows it. -/
example : generate [⟨"Post", [], none⟩, ⟨"Post", [⟨"id", .scalar, "Int"⟩, ⟨"id", .scalar, "Int"⟩],
    none⟩, ⟨"Tag", [⟨"x", .scalar, "Int"⟩, ⟨"x", .scalar, "Int"⟩], none⟩] =
      .error (.repeatedField "Post" "id") := rfl

end Schema

end FieldProjection
