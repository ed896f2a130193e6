import FieldProjection.Proofs.Source.File

/-!
# Evaluating the source of a schema

The function in the source of a schema is evaluated: the constructors start empty, each call of a
chain is applied to what was built so far, and string literals stand for what they are read as. The
result is the schema that the source was rendered from: `schemaFile_evaluates`. A model or field
that is stored under a name again would replace the one before, so a chain of calls gives back a
map because no name is repeated in it.
-/

namespace FieldProjection

namespace OrderedMap

/-- Inserting the entries of a map one by one gives the map. -/
theorem foldl_insert {α : Type} (map : OrderedMap α) :
    map.entries.foldl (fun built entry => built.insert entry.1 entry.2) empty = map := by
  have hentries : ∀ (added : Entries α) (start : OrderedMap α),
      (added.foldl (fun built entry => built.insert entry.1 entry.2) start).entries =
        Entries.insertAll start.entries added := by
    intro added
    induction added with
    | nil => intro start; rfl
    | cons entry rest ih => intro start; exact ih (start.insert entry.1 entry.2)
  exact ext ((hentries map.entries empty).trans (congrArg entries map.ofList_entries))

end OrderedMap

namespace Source

/-! ## Expressions -/

/-- The text of a string literal. -/
def textOf? : List Token → Option String
  | [.literal written] => unquote? written
  | _ => none

/-- Two arguments, which a comma separates. -/
def arguments? : List Token → Option (List Token × List Token)
  | [] => none
  | .plain "," :: rest => some ([], rest)
  | token :: rest => (arguments? rest).map fun (first, second) => (token :: first, second)

/-- The arguments of a constructor of a type, and what follows them. -/
def construction? (type : String) : List Token → Option (List Token × List Token)
  | .plain found :: .plain "::" :: .plain "new" :: .group .parenthesis arguments :: rest =>
    if found = type then some (arguments, rest) else none
  | _ => none

/-- The methods that are called one after the other, with their arguments. -/
def calls? : List Token → Option (List (String × List Token))
  | [] => some []
  | .plain "." :: .plain method :: .group .parenthesis arguments :: rest =>
    (calls? rest).map ((method, arguments) :: ·)
  | _ => none

/-- The kinds by the names of their constructors. -/
def kindNames : Entries FieldKind :=
  [("Scalar", .scalar), ("Enum", .enumeration), ("Relation", .relation)]

/-- The kind that an expression stands for. -/
def kindOf? : List Token → Option FieldKind
  | [.plain "FieldKind", .plain "::", .plain name] => kindNames.find? name
  | _ => none

/-- The field that an expression stands for. -/
def fieldOf? (tokens : List Token) : Option Field := do
  let (arguments, []) ← construction? "Field" tokens | none
  let (kind, type) ← arguments? arguments
  return ⟨← kindOf? kind, ← textOf? type⟩

/-- A model with a method called on it. -/
def callModel? (model : Model) : String × List Token → Option Model
  | ("with_field", arguments) => do
    let (name, field) ← arguments? arguments
    return model.withField (← textOf? name) (← fieldOf? field)
  | ("with_documentation", arguments) => return model.withDocumentation (← textOf? arguments)
  | _ => none

/-- The model that an expression stands for. -/
def modelOf? (tokens : List Token) : Option Model := do
  let ([], chain) ← construction? "Model" tokens | none
  (← calls? chain).foldlM callModel? {}

/-- A schema with a method called on it. -/
def callSchema? (schema : Schema) : String × List Token → Option Schema
  | ("with_model", arguments) => do
    let (name, model) ← arguments? arguments
    return schema.insert (← textOf? name) (← modelOf? model)
  | _ => none

/-- The schema that an expression stands for. -/
def schemaOf? (tokens : List Token) : Option Schema := do
  let ([], chain) ← construction? "Schema" tokens | none
  (← calls? chain).foldlM callSchema? .empty

/-! ## Functions -/

/-- The body of a function without parameters, if its declaration is at the front. -/
def bodyAt? (name result : String) : List Token → Option (List Token)
  | .plain "fn" :: .plain found :: .group .parenthesis [] :: .plain "->" :: .plain type ::
      .group .brace body :: _ => if found = name ∧ type = result then some body else none
  | _ => none

/-- The body of the first function of a name without parameters and with a type of results. -/
def body? (name result : String) : List Token → Option (List Token)
  | [] => none
  | token :: rest => (bodyAt? name result (token :: rest)).or (body? name result rest)

/-- The schema that the function in source text builds. -/
def evaluate? (source : String) : Option Schema := do
  let tokens ← Token.ofText? source
  schemaOf? (← body? "schema" "Schema" tokens)

/-! ## Parts of the expressions -/

/-- A literal stands for its text. -/
theorem textOf?_text (content : String) : textOf? [text content] = some content :=
  unquote?_literal content

/-- A kind is read from its expression. -/
theorem kindOf?_kindExpression (kind : FieldKind) : kindOf? (kindExpression kind) = some kind := by
  cases kind <;> rfl

/-- Behind a name and a comma comes the other argument. -/
theorem arguments?_named (name : String) (argument : List Token) :
    arguments? ([text name, .plain ","] ++ argument) = some ([text name], argument) := rfl

/-- A field is read from its expression. -/
theorem fieldOf?_fieldExpression (field : Field) :
    fieldOf? (fieldExpression field) = some field := by
  obtain ⟨kind, type⟩ := field
  have harguments : arguments? (kindExpression kind ++ [.plain ",", text type]) =
      some (kindExpression kind, [text type]) := by
    cases kind <;> rfl
  have hnew : construction? "Field" (fieldExpression ⟨kind, type⟩) =
      some (kindExpression kind ++ [.plain ",", text type], []) := rfl
  simp only [fieldOf?, hnew, harguments, kindOf?_kindExpression, textOf?_text,
    Option.bind_eq_bind, Option.bind_some, Option.pure_def]

/-! ## Chains of calls -/

/-- A call in front of other calls. -/
theorem calls?_call (method : String) (arguments rest : List Token) :
    calls? (call method arguments ++ rest) =
      (calls? rest).map ((method, arguments) :: ·) := rfl

/-- A call for each entry in front of other calls. -/
theorem calls?_flatMap {α : Type} (method : String) (arguments : α → List Token)
    (entries : List α) (rest : List Token) :
    calls? ((entries.flatMap fun entry => call method (arguments entry)) ++ rest) =
      (calls? rest).map ((entries.map fun entry => (method, arguments entry)) ++ ·) := by
  induction entries with
  | nil => exact Option.map_id'.symm
  | cons entry others ih =>
      rw [List.flatMap_cons, List.append_assoc, calls?_call, ih, Option.map_map]
      rfl

/-- Calls that succeed one after the other build what a fold over the entries builds. -/
theorem foldlM_map {α β γ : Type} {step : β → γ → Option β} {next : β → α → β} {made : α → γ}
    (h : ∀ built entry, step built (made entry) = some (next built entry)) (entries : List α)
    (start : β) : (entries.map made).foldlM step start = some (entries.foldl next start) := by
  induction entries generalizing start with
  | nil => rfl
  | cons entry others ih =>
      rw [List.map_cons, List.foldlM_cons, h]
      exact ih (next start entry)

/-- Storing a field is read from its call. -/
theorem callModel?_withField (model : Model) (entry : String × Field) :
    callModel? model
        ("with_field", [text entry.1, .plain ","] ++ fieldExpression entry.2) =
      some (model.withField entry.1 entry.2) := by
  simp only [callModel?, arguments?_named, textOf?_text, fieldOf?_fieldExpression,
    Option.bind_eq_bind, Option.bind_some, Option.pure_def]

/-- Storing its fields one by one builds a model. -/
theorem foldl_withField (fields : OrderedMap Field) :
    fields.entries.foldl (fun model entry => model.withField entry.1 entry.2) {} =
      (⟨fields, none⟩ : Model) := by
  have hhom : fields.entries.foldl (fun model entry => model.withField entry.1 entry.2) {} =
      (⟨fields.entries.foldl (fun built entry => built.insert entry.1 entry.2) .empty, none⟩ :
        Model) := List.foldl_hom (fun fields => Model.mk fields none) fun _ _ => rfl
  rw [hhom, fields.foldl_insert]

/-- Storing its models one by one builds a schema. -/
theorem foldl_insert_schema (schema : Schema) :
    schema.models.entries.foldl (fun built entry => built.insert entry.1 entry.2) .empty =
      schema := by
  have hhom : schema.models.entries.foldl (fun built entry => built.insert entry.1 entry.2)
      Schema.empty =
        ⟨schema.models.entries.foldl (fun built entry => built.insert entry.1 entry.2) .empty⟩ :=
    List.foldl_hom Schema.mk fun _ _ => rfl
  rw [hhom, schema.models.foldl_insert]

/-- A model is read from its expression. -/
theorem modelOf?_modelExpression (model : Model) :
    modelOf? (modelExpression model) = some model := by
  obtain ⟨fields, documentation⟩ := model
  let fieldCalls := fields.entries.map fun entry =>
    ("with_field", [text entry.1, .plain ","] ++ fieldExpression entry.2)
  have hfields : fieldCalls.foldlM callModel? {} = some ⟨fields, none⟩ := by
    rw [foldlM_map callModel?_withField, foldl_withField]
  have hcalls : ∀ rest, calls? ((fields.entries.flatMap fun entry =>
      call "with_field" ([text entry.1, .plain ","] ++ fieldExpression entry.2)) ++ rest) =
        (calls? rest).map (fieldCalls ++ ·) := calls?_flatMap "with_field" _ fields.entries
  cases documentation with
  | none =>
      have hnew : modelOf? (modelExpression ⟨fields, none⟩) =
          (calls? ((fields.entries.flatMap fun entry =>
            call "with_field" ([text entry.1, .plain ","] ++ fieldExpression entry.2)) ++ [])).bind
              fun calls => calls.foldlM callModel? {} := rfl
      rw [hnew, hcalls]
      show (fieldCalls ++ []).foldlM callModel? {} = _
      rw [List.append_nil, hfields]
  | some content =>
      have hnew : modelOf? (modelExpression ⟨fields, some content⟩) =
          (calls? ((fields.entries.flatMap fun entry =>
            call "with_field" ([text entry.1, .plain ","] ++ fieldExpression entry.2)) ++
              call "with_documentation" [text content])).bind
                fun calls => calls.foldlM callModel? {} := rfl
      rw [hnew, hcalls]
      show (fieldCalls ++ [("with_documentation", [text content])]).foldlM callModel? {} = _
      simp only [List.foldlM_append, hfields, List.foldlM_cons, List.foldlM_nil, callModel?,
        textOf?_text, Option.bind_eq_bind, Option.bind_some, Option.pure_def]
      rfl

/-- Storing a model is read from its call. -/
theorem callSchema?_insert (schema : Schema) (entry : String × Model) :
    callSchema? schema
        ("with_model", [text entry.1, .plain ","] ++ modelExpression entry.2) =
      some (schema.insert entry.1 entry.2) := by
  simp only [callSchema?, arguments?_named, textOf?_text, modelOf?_modelExpression,
    Option.bind_eq_bind, Option.bind_some, Option.pure_def]

/-- A schema is read from its expression. -/
theorem schemaOf?_schemaExpression (schema : Schema) :
    schemaOf? (schemaExpression schema) = some schema := by
  have hcalls := calls?_flatMap "with_model"
    (fun entry : String × Model => [text entry.1, .plain ","] ++ modelExpression entry.2)
    schema.models.entries []
  rw [List.append_nil] at hcalls
  have hnew : schemaOf? (schemaExpression schema) =
      (calls? (schema.models.entries.flatMap fun entry =>
        call "with_model" ([text entry.1, .plain ","] ++ modelExpression entry.2))).bind
          fun calls => calls.foldlM callSchema? .empty := rfl
  rw [hnew, hcalls, calls?, Option.map_some, List.append_nil, Option.bind_some,
    foldlM_map callSchema?_insert, foldl_insert_schema]

/-! ## The file -/

/-- The body of the function that builds a schema is found in front of other declarations. -/
theorem body?_schemaFunction (schema : Schema) (rest : List Token) :
    body? "schema" "Schema" (schemaFunction schema ++ rest) = some (schemaExpression schema) := rfl

/-- The function in the source of a schema builds the schema, so no other schema has the same
source. -/
theorem schemaFile_evaluates {schema : Schema} {source : String}
    (h : schemaFile schema = .ok source) :
    evaluate? source = some schema ∧ ∀ other, schemaFile other = .ok source → other = schema := by
  have hevaluate : ∀ {schema}, schemaFile schema = .ok source →
      evaluate? source = some schema := by
    intro schema h
    obtain ⟨found, -, htokens⟩ := ofText?_schemaFile h
    simp only [evaluate?, htokens, body?_schemaFunction, Option.bind_eq_bind, Option.bind_some]
    exact schemaOf?_schemaExpression schema
  refine ⟨hevaluate h, fun other hother => ?_⟩
  exact Option.some.inj ((hevaluate hother).symm.trans (hevaluate h))

/-- A schema with a quote, NUL in front of a digit, a backslash, an empty comment, and a name that
needs the mark of identifiers. -/
def unusualNames : Schema :=
  .ofList [
    ("Post", ⟨.ofList [("ti\"tle", ⟨.scalar, "\x001"⟩), ("", ⟨.relation, "\\"⟩)], some ""⟩),
    (" r#enum ", ⟨.empty, none⟩)]

/-- The function in the source of the schema builds the schema. -/
theorem schemaFile_evaluates_unusualNames :
    ∃ source, schemaFile unusualNames = .ok source ∧ evaluate? source = some unusualNames ∧
      ∀ other, schemaFile other = .ok source → other = unusualNames := by
  have hpost : identifier? "Post" = some "Post" := by decide +kernel
  have hmarked : identifier? " r#enum " = some "r#enum" := by decide +kernel
  have hmodels : unusualNames.models.entries =
      [("Post", ⟨.ofList [("ti\"tle", ⟨.scalar, "\x001"⟩), ("", ⟨.relation, "\\"⟩)], some ""⟩),
        (" r#enum ", ⟨.empty, none⟩)] := rfl
  have hvariants : variants unusualNames =
      .ok [⟨"Post", "Post", some ""⟩, ⟨"r#enum", " r#enum ", none⟩] := by
    rw [variants, hmodels]
    simp only [List.mapM_cons, List.mapM_nil, variant, hpost, hmarked]
    rfl
  have hsource : schemaFile unusualNames =
      .ok (file (schemaFunction unusualNames ++ enumeration
        [⟨"Post", "Post", some ""⟩, ⟨"r#enum", " r#enum ", none⟩])) := by
    rw [schemaFile, hvariants]
    rfl
  exact ⟨_, hsource, schemaFile_evaluates hsource⟩

end Source

end FieldProjection
