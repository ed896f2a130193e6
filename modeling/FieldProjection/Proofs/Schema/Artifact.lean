import FieldProjection.Proofs.Emission.Plan
import FieldProjection.Proofs.Json.Reads

/-!
# The generated file of a schema

A schema is read back from the file that is generated for it, whatever characters its names, types
and comments have: `Schema.generated_file_read_back`. Each part of a schema has a lemma that its
shape reads what it is written as, and a bound on how deeply that is nested.
-/

namespace FieldProjection

open Json (Shape depthMembers_le_iff)
open Json.Shape (Reads)

/-! ## Reading each part -/

/-- A kind is read by its spelling. -/
theorem FieldKind.reads (kind : FieldKind) : FieldKind.shape.Reads kind.toJson kind :=
  .variant kind.find?_variants

/-- A field is read. -/
theorem Field.reads (field : Field) : Field.shape.Reads field.toJson field := by
  have hnames : ["kind", "type"].Nodup := by decide
  have hkind := field.kind.reads.map fun kind (parts : Parts) => { parts with kind := some kind }
  have htype := (Reads.text field.type).map fun type (parts : Parts) =>
    { parts with type := some type }
  exact .record "Field" hnames (.cons rfl rfl hkind (.cons rfl rfl htype (.nil _))) rfl

/-- A model is read, with its comment if it has one. -/
theorem Model.reads (model : Model) : Model.shape.Reads model.toJson model := by
  obtain ⟨fields, documentation⟩ := model
  have hfields := (Reads.orderedMap fields fun entry _ => entry.2.reads).map
    fun fields (parts : Parts) => { parts with fields := some fields }
  cases documentation with
  | none =>
      have hnames : ["fields"].Nodup := by decide
      exact .record "Model" hnames (.cons rfl rfl hfields (.nil _)) rfl
  | some text =>
      have hnames : ["fields", "documentation"].Nodup := by decide
      have htext := (Reads.text text).optional.map fun text (parts : Parts) =>
        { parts with documentation := some text }
      exact .record "Model" hnames (.cons rfl rfl hfields (.cons rfl rfl htext (.nil _))) rfl

/-- A schema is read. -/
theorem Schema.reads (schema : Schema) : Schema.shape.Reads schema.toJson schema :=
  (Reads.orderedMap schema.models fun entry _ => entry.2.reads).map Schema.mk

/-! ## Nesting -/

/-- An object is one level deeper than a bound on its values. -/
theorem Json.depth_mapValues_le {α : Type} {toJson : α → Json} {bound : Nat}
    (h : ∀ value, (toJson value).depth ≤ bound) (entries : Entries α) :
    (Json.object (Entries.mapValues toJson entries)).depth ≤ bound + 1 := by
  rw [Json.depth]
  refine Nat.succ_le_succ (depthMembers_le_iff.mpr fun member hmem => ?_)
  obtain ⟨entry, _, rfl⟩ := List.mem_map.mp hmem
  exact h entry.2

/-- A field is one level deep. -/
theorem Field.depth_toJson_le (field : Field) : field.toJson.depth ≤ 1 := Nat.le_refl 1

/-- A model is at most three levels deep: the model, its list of fields, and each field. -/
theorem Model.depth_toJson_le (model : Model) : model.toJson.depth ≤ 3 := by
  have hfields := Json.depth_mapValues_le Field.depth_toJson_le model.fields.entries
  have hmembers : Json.depthMembers (documentationMembers model.documentation) ≤ 2 := by
    cases model.documentation with
    | none => exact Nat.zero_le _
    | some text => exact Nat.zero_le _
  exact Nat.succ_le_succ (Nat.max_le.mpr ⟨hfields, hmembers⟩)

/-- A schema is at most four levels deep. -/
theorem Schema.depth_toJson_le (schema : Schema) : schema.toJson.depth ≤ 4 :=
  Json.depth_mapValues_le Model.depth_toJson_le schema.models.entries

/-! ## The file -/

namespace Schema

variable {models : List ModelDeclaration} {schema : Schema}

/-- Files are planned for declarations that make a schema if there is a directory and all names of
models are identifiers. -/
theorem exists_plan_iff (hgenerate : generate models = .ok schema) (directory : Option String) :
    (∃ emission, Emission.plan directory models = .ok emission) ↔
      ¬(directory = none ∨ directory = some "") ∧
        ∀ name ∈ schema.names, (Source.identifier? name).isSome := by
  simp only [Emission.plan_eq_ok_iff, Emission.exists_accepted_iff, hgenerate, Except.ok.injEq,
    exists_eq_left']

/-- The files that are planned for declarations hold the schema of the declarations. -/
theorem mem_contents_of_plan (hgenerate : generate models = .ok schema)
    {directory : Option String} {emission : Emission}
    (h : Emission.plan directory models = .ok emission) :
    (emission.generated.json, schema.toJson.prettyText ++ "\n") ∈ emission.contents := by
  obtain ⟨-, -, found, hfound, -, hjson, -⟩ := Emission.plan_eq_ok_iff.mp h
  obtain rfl := Except.ok.inj (hfound.symm.trans hgenerate)
  rw [← hjson]
  exact List.mem_cons_self

/-- The file of a schema that declarations make is read back as this schema, straight off its text
and by way of the value that the text holds. It is the file that is planned for the declarations,
for every directory if all names of models are identifiers. -/
theorem generated_file_read_back (hgenerate : generate models = .ok schema) :
    shape.ofText (schema.toJson.prettyText ++ "\n") = .ok schema ∧
      Json.ofText (schema.toJson.prettyText ++ "\n") = .ok schema.toJson ∧
      shape.ofValue schema.toJson = .ok schema ∧
      (∀ directory, (∃ emission, Emission.plan directory models = .ok emission) ↔
        ¬(directory = none ∨ directory = some "") ∧
          ∀ name ∈ schema.names, (Source.identifier? name).isSome) ∧
      ∀ directory emission, Emission.plan directory models = .ok emission →
        (emission.generated.json, schema.toJson.prettyText ++ "\n") ∈ emission.contents := by
  have hdepth : schema.toJson.depth ≤ Json.Reader.nestingLimit :=
    Nat.le_trans schema.depth_toJson_le (by decide)
  exact ⟨schema.reads.ofText hdepth, schema.reads.worded.ofText_prettyText, schema.reads.ofValue,
    exists_plan_iff hgenerate, fun _ _ => mem_contents_of_plan hgenerate⟩

/-- Declarations with quotes, backslashes, control characters, lines, letters beyond ASCII and
empty texts. -/
def unusualModels : List ModelDeclaration :=
  [⟨"Z\"1\"\n\\", [⟨"\x01\t", .scalar, "Größe\r"⟩, ⟨"日本", .relation, ""⟩], some ""⟩,
   ⟨"", [⟨"kind", .enumeration, "\x7f/\x00"⟩], none⟩]

/-- The schema of the declarations. -/
def unusualSchema : Schema :=
  ofList [
    ("Z\"1\"\n\\", ⟨.ofList [("\x01\t", ⟨.scalar, "Größe\r"⟩), ("日本", ⟨.relation, ""⟩)], some ""⟩),
    ("", ⟨.ofList [("kind", ⟨.enumeration, "\x7f/\x00"⟩)], none⟩)]

/-- The same with names of models that are identifiers. -/
def namedModels : List ModelDeclaration :=
  [⟨"Größe", [⟨"\x01\t", .scalar, "\"\\"⟩, ⟨"日本", .relation, ""⟩], some "Z\"1\"\n\\"⟩,
   ⟨"日本", [⟨"kind", .enumeration, "\x7f/\x00"⟩], none⟩]

/-- The schema of these declarations. -/
def namedSchema : Schema :=
  ofList [
    ("Größe", ⟨.ofList [("\x01\t", ⟨.scalar, "\"\\"⟩), ("日本", ⟨.relation, ""⟩)],
      some "Z\"1\"\n\\"⟩),
    ("日本", ⟨.ofList [("kind", ⟨.enumeration, "\x7f/\x00"⟩)], none⟩)]

/-- The schema of declarations with unusual names is read back, and files are planned if the models
have identifiers for names. -/
theorem generated_file_read_back_unusualModels :
    generate unusualModels = .ok unusualSchema ∧
      shape.ofText (unusualSchema.toJson.prettyText ++ "\n") = .ok unusualSchema ∧
      Json.ofText (unusualSchema.toJson.prettyText ++ "\n") = .ok unusualSchema.toJson ∧
      shape.ofValue unusualSchema.toJson = .ok unusualSchema ∧
      generate namedModels = .ok namedSchema ∧
      shape.ofText (namedSchema.toJson.prettyText ++ "\n") = .ok namedSchema ∧
      ∃ emission, Emission.plan (some "out") namedModels = .ok emission ∧
        ("out/schema.json", namedSchema.toJson.prettyText ++ "\n") ∈ emission.contents := by
  have hunusual : generate unusualModels = .ok unusualSchema := rfl
  have hnamed : generate namedModels = .ok namedSchema := rfl
  obtain ⟨htext, hvalue, hschema, -⟩ := generated_file_read_back hunusual
  obtain ⟨hnamedText, -, -, hexists, hmem⟩ := generated_file_read_back hnamed
  obtain ⟨emission, hplan⟩ := (hexists (some "out")).mpr ⟨by decide, by decide +kernel⟩
  have hdirectory := (Emission.plan_eq_ok_iff.mp hplan).directory
  have hcontents := hmem _ emission hplan
  rw [Emission.generated, ← Option.some.inj hdirectory] at hcontents
  exact ⟨hunusual, htext, hvalue, hschema, hnamed, hnamedText, emission, hplan, hcontents⟩

end Schema

end FieldProjection
