import FieldProjection.Emission
import FieldProjection.Proofs.Source.Variants

/-!
# Rejected and accepted datamodels

`Rejected` lists why no files are generated, each reason only where the ones before it do not apply:
there is no directory, the declarations make no schema, a model has a name that is no identifier.
`Accepted` says what is generated otherwise. Every datamodel is the one or the other
(`rejected_or_accepted`), and a plan tells which (`plan_eq_ok_iff`).
-/

namespace FieldProjection.Emission

/-- Why the files of a datamodel are not generated, whatever the files that there are. -/
inductive Rejected (directory : Option String) (models : List ModelDeclaration) : Error → Prop where
  /-- There is no directory, or its path is empty. -/
  | noDirectory : directory = none ∨ directory = some "" →
      Rejected directory models missingDirectory
  /-- The declarations make no schema. -/
  | noSchema {fault : SchemaFault} :
      ¬(directory = none ∨ directory = some "") → Schema.generate models = .error fault →
      Rejected directory models (.invalidSchema fault.message)
  /-- The name of a model spells no identifier, and it is the first one. -/
  | noSource {schema : Schema} {front rest : List String} {name : String} :
      ¬(directory = none ∨ directory = some "") → Schema.generate models = .ok schema →
      schema.names = front ++ name :: rest →
      (∀ earlier ∈ front, (Source.identifier? earlier).isSome) → Source.identifier? name = none →
      Rejected directory models
        (.invalidSchema ("model name `" ++ name ++ "` cannot be used as a Rust identifier"))

/-- The emission of a datamodel that is accepted: the directory that is asked for, and the files of
the schema that the declarations make. -/
structure Accepted (directory : Option String) (models : List ModelDeclaration)
    (emission : Emission) : Prop where
  directory : directory = some emission.directory
  nonempty : emission.directory ≠ ""
  contents : ∃ schema, Schema.generate models = .ok schema ∧ emission.modelCount = schema.size ∧
    emission.json = schema.toJson.prettyText ++ "\n" ∧
    Source.schemaFile schema = .ok emission.source

variable {directory : Option String} {models : List ModelDeclaration} {error : Error}
variable {emission : Emission}

/-- A directory that is there has a path that is not empty. -/
theorem exists_directory (h : ¬(directory = none ∨ directory = some "")) :
    ∃ path, directory = some path ∧ path ≠ "" := by
  cases directory with
  | none => exact False.elim (h (.inl rfl))
  | some path => exact ⟨path, rfl, fun hempty => h (.inr (congrArg some hempty))⟩

/-- With a directory, a plan comes down to the schema and its source. -/
theorem plan_some {path : String} (h : path ≠ "") (models : List ModelDeclaration) :
    plan (some path) models = (do
      let schema ← (Schema.generate models).mapError SchemaFault.error
      let source ← (Source.schemaFile schema).mapError SchemaFault.error
      return ⟨path, schema.size, schema.toJson.prettyText ++ "\n", source⟩) := by
  unfold plan
  split
  · next hnone => cases hnone
  · next hempty => exact False.elim (h (Option.some.inj hempty))
  · next found _ hfound =>
      obtain rfl := Option.some.inj hfound
      rfl

/-- With a directory and a schema, a plan comes down to the source. -/
theorem plan_of_generate {path : String} {schema : Schema} (h : path ≠ "")
    (hgenerate : Schema.generate models = .ok schema) :
    plan (some path) models =
      ((Source.schemaFile schema).mapError SchemaFault.error).map fun source =>
        ⟨path, schema.size, schema.toJson.prettyText ++ "\n", source⟩ := by
  rw [plan_some h, hgenerate]
  show (do
    let source ← (Source.schemaFile schema).mapError SchemaFault.error
    return _) = _
  cases Source.schemaFile schema <;> rfl

/-- A rejected datamodel has no plan. -/
theorem Rejected.plan_eq (h : Rejected directory models error) :
    plan directory models = .error error := by
  cases h with
  | noDirectory hdirectory =>
      rcases hdirectory with rfl | rfl <;> rfl
  | noSchema hdirectory hgenerate =>
      obtain ⟨path, rfl, hpath⟩ := exists_directory hdirectory
      rw [plan_some hpath, hgenerate]
      rfl
  | noSource hdirectory hgenerate hnames hfront hname =>
      obtain ⟨path, rfl, hpath⟩ := exists_directory hdirectory
      rw [plan_of_generate hpath hgenerate, Source.schemaFile_eq_error hnames hfront hname]
      rfl

/-- A rejected datamodel is a matter of configuration exactly if there is no directory. -/
theorem Rejected.isConfiguration_iff (h : Rejected directory models error) :
    error.isConfiguration ↔ directory = none ∨ directory = some "" := by
  cases h with
  | noDirectory hdirectory => exact iff_of_true rfl hdirectory
  | noSchema hdirectory => exact iff_of_false Bool.false_ne_true hdirectory
  | noSource hdirectory => exact iff_of_false Bool.false_ne_true hdirectory

/-- The plan of an accepted datamodel is its emission. -/
theorem Accepted.plan_eq (h : Accepted directory models emission) :
    plan directory models = .ok emission := by
  obtain ⟨rfl, hpath, schema, hgenerate, hcount, hjson, hsource⟩ := h
  rw [plan_of_generate hpath hgenerate, hsource, ← hcount, ← hjson]
  rfl

/-- What has a plan is accepted. -/
theorem plan_eq_ok_iff :
    plan directory models = .ok emission ↔ Accepted directory models emission := by
  refine ⟨fun h => ?_, Accepted.plan_eq⟩
  by_cases hdirectory : directory = none ∨ directory = some ""
  · cases (Rejected.noDirectory hdirectory).plan_eq.symm.trans h
  · obtain ⟨path, rfl, hpath⟩ := exists_directory hdirectory
    rw [plan_some hpath] at h
    obtain ⟨schema, hgenerate, hrest⟩ := Loop.bind_eq_ok_iff.mp h
    obtain ⟨source, hsource, hemission⟩ := Loop.bind_eq_ok_iff.mp hrest
    obtain rfl := Except.ok.inj hemission
    exact ⟨rfl, hpath, schema, Loop.mapError_eq_ok_iff.mp hgenerate, rfl, rfl,
      Loop.mapError_eq_ok_iff.mp hsource⟩

/-- A datamodel is accepted if there is a directory, the declarations make a schema, and all names
of models are identifiers. -/
theorem exists_accepted_iff :
    (∃ emission, Accepted directory models emission) ↔
      ¬(directory = none ∨ directory = some "") ∧ ∃ schema, Schema.generate models = .ok schema ∧
        ∀ name ∈ schema.names, (Source.identifier? name).isSome := by
  constructor
  · rintro ⟨emission, rfl, hpath, schema, hgenerate, -, -, hsource⟩
    refine ⟨by simpa using hpath, schema, hgenerate, ?_⟩
    exact Source.exists_schemaFile_eq_ok_iff.mp ⟨_, hsource⟩
  · rintro ⟨hdirectory, schema, hgenerate, hnames⟩
    obtain ⟨path, rfl, hpath⟩ := exists_directory hdirectory
    obtain ⟨source, hsource⟩ := Source.exists_schemaFile_eq_ok_iff.mpr hnames
    exact ⟨⟨path, schema.size, schema.toJson.prettyText ++ "\n", source⟩, rfl, hpath, schema,
      hgenerate, rfl, rfl, hsource⟩

/-- Every datamodel is rejected or accepted. -/
theorem rejected_or_accepted (directory : Option String) (models : List ModelDeclaration) :
    (∃ error, Rejected directory models error) ∨
      ∃ emission, Accepted directory models emission := by
  by_cases hdirectory : directory = none ∨ directory = some ""
  · exact .inl ⟨_, .noDirectory hdirectory⟩
  · cases hgenerate : Schema.generate models with
    | error fault => exact .inl ⟨_, .noSchema hdirectory hgenerate⟩
    | ok schema =>
        rcases Source.all_or_first_unusable schema.names with
          hall | ⟨front, name, rest, hsplit, hfront, hname⟩
        · exact .inr (exists_accepted_iff.mpr ⟨hdirectory, schema, hgenerate, hall⟩)
        · exact .inl ⟨_, .noSource hdirectory hgenerate hsplit hfront hname⟩

end FieldProjection.Emission
