import FieldProjection.Proofs.Source.File
import Mathlib.Data.List.Nodup
import Mathlib.Data.Option.Basic

/-!
# Reading the enumeration of the models

The enumeration in the source of a schema is read again: the variants that are declared, those in
the list of all variants, and the text of each. The i-th variant is the identifier that the i-th
name spells, which may stand in the name with white space or comments around it. So the variants
are the names exactly if every name is an identifier as it is spelled, and two names that spell one
identifier make two variants of it: `schemaFile_enumerates`.
-/

namespace FieldProjection.Source

/-! ## Reading an enumeration -/

/-- What is found at the first place of a list of tokens where something is. -/
def firstAt? {α : Type} (at? : List Token → Option α) : List Token → Option α
  | [] => none
  | token :: rest => (at? (token :: rest)).or (firstAt? at? rest)

/-- What the declaration of the enumeration encloses, if it is at the front. -/
def declarationAt? : List Token → Option (List Token)
  | .plain "enum" :: .plain "ModelName" :: .group .brace content :: _ => some content
  | _ => none

/-- What belongs to the enumeration, if that is at the front. -/
def membersAt? : List Token → Option (List Token)
  | .plain "impl" :: .plain "ModelName" :: .group .brace content :: _ => some content
  | _ => none

/-- The items of the list of all variants, if it is at the front. -/
def listAt? : List Token → Option (List Token)
  | .plain "const" :: .plain "ALL" :: .plain ":" :: .plain "&" :: .plain "'static" ::
      .group .bracket [.plain "ModelName"] :: .plain "=" :: .plain "&" ::
      .group .bracket content :: _ => some content
  | _ => none

/-- The cases of the function that gives the text of a variant, if it is at the front. -/
def textsAt? : List Token → Option (List Token)
  | .plain "fn" :: .plain "as_str" :: .group .parenthesis [.plain "&", .plain "self"] ::
      .plain "->" :: .plain "&" :: .plain "'static" :: .plain "str" ::
      .group .brace [.plain "match", .plain "*", .plain "self", .group .brace content] :: _ =>
    some content
  | _ => none

/-- The variants of a declaration. Attributes are passed over. -/
def variantsOf? : List Token → Option (List String)
  | [] => some []
  | .plain identifier :: .plain "," :: rest => (variantsOf? rest).map (identifier :: ·)
  | .plain "#" :: .group .bracket _ :: rest => variantsOf? rest
  | _ => none

/-- The variants of a list of full names. -/
def pathsOf? : List Token → Option (List String)
  | [] => some []
  | [.plain "ModelName", .plain "::", .plain identifier] => some [identifier]
  | .plain "ModelName" :: .plain "::" :: .plain identifier :: .plain "," :: rest =>
    (pathsOf? rest).map (identifier :: ·)
  | _ => none

/-- The variants and texts of the cases of a match. -/
def casesOf? : List Token → Option (Entries String)
  | [] => some []
  | .plain "ModelName" :: .plain "::" :: .plain identifier :: .plain "=>" :: .literal written ::
      .plain "," :: rest => do
    let text ← unquote? written
    (casesOf? rest).map ((identifier, text) :: ·)
  | _ => none

/-- An enumeration: the variants that are declared, the list of all, and the cases of the function
that gives their texts. -/
structure Enumeration where
  variants : List String
  all : List String
  texts : Entries String

namespace Enumeration

/-- The enumeration among tokens. -/
def ofTokens? (tokens : List Token) : Option Enumeration := do
  let declaration ← firstAt? declarationAt? tokens
  let members ← firstAt? membersAt? tokens
  let list ← firstAt? listAt? members
  let cases ← firstAt? textsAt? members
  return ⟨← variantsOf? declaration, ← pathsOf? list, ← casesOf? cases⟩

/-- The enumeration in source text. -/
def ofText? (source : String) : Option Enumeration :=
  (Token.ofText? source).bind ofTokens?

/-- The text of a variant: that of the first case which the variant matches. -/
def asText? (enumeration : Enumeration) (variant : String) : Option String :=
  enumeration.texts.find? variant

/-- The enumeration names the models of a schema: the variants, in the declaration and in the list
of all, are the names in their order, each has its name as its text, and none is there twice. -/
structure NamesModels (enumeration : Enumeration) (schema : Schema) : Prop where
  variants : enumeration.variants = schema.names
  all : enumeration.all = schema.names
  texts : ∀ name ∈ schema.names, enumeration.asText? name = some name
  distinct : enumeration.variants.Nodup

end Enumeration

/-! ## Parts of the enumeration -/

/-- The variants are read from their declarations. -/
theorem variantsOf?_flatMap (variants : List Variant) :
    variantsOf? (variants.flatMap variantDeclaration) = some (variants.map Variant.identifier) := by
  induction variants with
  | nil => rfl
  | cons variant rest ih =>
      have hfirst : variantsOf? (variantDeclaration variant ++ rest.flatMap variantDeclaration) =
          (variantsOf? (rest.flatMap variantDeclaration)).map (variant.identifier :: ·) := by
        unfold variantDeclaration
        cases variant.documentation <;> rfl
      rw [List.flatMap_cons, hfirst, ih]
      rfl

/-- The variants are read from the list of all. -/
theorem pathsOf?_variantList (variants : List Variant) :
    pathsOf? (variantList variants) = some (variants.map Variant.identifier) := by
  unfold variantList
  induction variants with
  | nil => rfl
  | cons variant rest ih =>
      cases rest with
      | nil => rfl
      | cons next more =>
          have hfirst : ∀ behind, pathsOf? (variantPath variant ++ [.plain ","] ++ behind) =
              (pathsOf? behind).map (variant.identifier :: ·) := fun _ => rfl
          rw [List.map_cons, List.map_cons, List.intercalate_cons_cons, ← List.map_cons, hfirst, ih]
          rfl

/-- The texts are read from the cases of the variants. -/
theorem casesOf?_flatMap (variants : List Variant) :
    casesOf? (variants.flatMap variantCase) =
      some (variants.map fun variant => (variant.identifier, variant.name)) := by
  induction variants with
  | nil => rfl
  | cons variant rest ih =>
      have hfirst : ∀ behind, casesOf? (variantCase variant ++ behind) =
          (unquote? (literal variant.name)).bind fun text =>
            (casesOf? behind).map ((variant.identifier, text) :: ·) := fun _ => rfl
      rw [List.flatMap_cons, hfirst, unquote?_literal, Option.bind_some, ih]
      rfl

/-- The enumeration of variants is read behind the function that builds the schema. -/
theorem ofTokens?_enumeration (schema : Schema) (variants : List Variant) :
    Enumeration.ofTokens? (schemaFunction schema ++ enumeration variants) =
      some ⟨variants.map Variant.identifier, variants.map Variant.identifier,
        variants.map fun variant => (variant.identifier, variant.name)⟩ := by
  have hparts : Enumeration.ofTokens? (schemaFunction schema ++ enumeration variants) = (do
      return ⟨← variantsOf? (variants.flatMap variantDeclaration),
        ← pathsOf? (variantList variants), ← casesOf? (variants.flatMap variantCase)⟩) := rfl
  rw [hparts, variantsOf?_flatMap, pathsOf?_variantList, casesOf?_flatMap]
  rfl

/-- The enumeration in the source of a schema is that of its variants. -/
theorem ofText?_enumeration {schema : Schema} {source : String}
    (h : schemaFile schema = .ok source) :
    ∃ found, variants schema = .ok found ∧ Enumeration.ofText? source =
      some ⟨found.map Variant.identifier, found.map Variant.identifier,
        found.map fun variant => (variant.identifier, variant.name)⟩ := by
  obtain ⟨found, hfound, htokens⟩ := ofText?_schemaFile h
  refine ⟨found, hfound, ?_⟩
  rw [Enumeration.ofText?, htokens, Option.bind_some, ofTokens?_enumeration]

/-! ## The names of the models -/

/-- Lists whose items agree in what is made of them agree in the lists of that. -/
theorem map_eq_map_of_forall₂ {α β γ : Type} {left : α → γ} {right : β → γ} {first : List α}
    {second : List β} (h : List.Forall₂ (fun item other => left item = right other) first second) :
    first.map left = second.map right := by
  induction h with
  | nil => rfl
  | cons hfirst _ ih => rw [List.map_cons, List.map_cons, hfirst, ih]

section

variable {schema : Schema} {found : List Variant}

/-- The variants are the identifiers that the names spell, one for each. -/
theorem map_identifier?_names (h : variants schema = .ok found) :
    schema.names.map identifier? = (found.map Variant.identifier).map some := by
  rw [List.map_map]
  exact map_eq_map_of_forall₂ ((forall₂_of_variants h).imp fun _ _ hname => hname.1)

/-- The variants stand for the names. -/
theorem map_name_variants (h : variants schema = .ok found) :
    found.map Variant.name = schema.names := by
  rw [← List.map_id schema.names]
  exact (map_eq_map_of_forall₂ ((forall₂_of_variants h).imp fun _ _ hname => hname.2.symm)).symm

/-- The variants are the names exactly if the names are identifiers. -/
theorem map_identifier_eq_names_iff (h : variants schema = .ok found) :
    found.map Variant.identifier = schema.names ↔ ∀ name ∈ schema.names, IsIdentifier name := by
  have hspelled : (found.map Variant.identifier).map some = schema.names.map some ↔
      found.map Variant.identifier = schema.names :=
    (List.map_injective_iff.mpr (Option.some_injective String)).eq_iff
  rw [← hspelled, ← map_identifier?_names h, List.map_inj_left]
  exact forall₂_congr fun _ _ => identifier?_eq_self_iff

/-- Of texts that are their own values, each one that is there is found. -/
theorem find?_zip_self {names : List String} {name : String} (hmem : name ∈ names) :
    Entries.find? name (names.zip names) = some name := by
  induction names with
  | nil => cases hmem
  | cons first rest ih =>
      rw [List.zip_cons_cons, Entries.find?]
      split
      · next heq => exact congrArg some heq
      · next hne => exact ih ((List.mem_cons.mp hmem).resolve_left (Ne.symm hne))

end

/-- The enumeration in the source of a schema has one variant for each name, in order: the
identifier that the name spells, which stands in the name. It names the models, and its variants
are distinct for that reason, exactly if every name is an identifier as it is spelled. -/
theorem schemaFile_enumerates {schema : Schema} {source : String}
    (h : schemaFile schema = .ok source) :
    ∃ enumeration, Enumeration.ofText? source = some enumeration ∧
      enumeration.variants.length = schema.size ∧
      List.Forall₂ (fun name variant => identifier? name = some variant ∧ IsIdentifier variant ∧
        variant.toList <:+: name.toList) schema.names enumeration.variants ∧
      enumeration.all = enumeration.variants ∧
      enumeration.texts = enumeration.variants.zip schema.names ∧
      (enumeration.variants.Nodup ↔ (schema.names.map identifier?).Nodup) ∧
      (enumeration.NamesModels schema ↔ ∀ name ∈ schema.names, IsIdentifier name) := by
  obtain ⟨found, hfound, henumeration⟩ := ofText?_enumeration h
  have hvariants := forall₂_of_variants hfound
  have htexts : (found.map fun variant => (variant.identifier, variant.name)) =
      (found.map Variant.identifier).zip schema.names := by
    rw [← map_name_variants hfound, List.zip_map']
  refine ⟨_, henumeration, ?_, ?_, rfl, htexts, ?_, ?_⟩
  · rw [List.length_map, ← hvariants.length_eq]
    exact List.length_map _
  · refine List.forall₂_map_right_iff.mpr (hvariants.imp fun name variant hname => ?_)
    exact ⟨hname.1, isIdentifier_of_identifier? hname.1⟩
  · rw [map_identifier?_names hfound, List.nodup_map_iff (Option.some_injective String)]
  · refine ⟨fun hnames => (map_identifier_eq_names_iff hfound).mp hnames.variants, fun hnames => ?_⟩
    have heq := (map_identifier_eq_names_iff hfound).mpr hnames
    refine ⟨heq, heq, fun name hmem => ?_, heq ▸ schema.models.nodup⟩
    rw [Enumeration.asText?, htexts, heq]
    exact find?_zip_self hmem

/-- A schema in which a model is named by a word, and one by a reserved word with its mark. -/
def markedNames : Schema :=
  .ofList [("User", ⟨.empty, some "Accounts."⟩), ("r#type", ⟨.empty, none⟩)]

/-- The enumeration of the schema names its models. -/
theorem schemaFile_enumerates_markedNames :
    ∃ source enumeration, schemaFile markedNames = .ok source ∧
      Enumeration.ofText? source = some enumeration ∧ enumeration.NamesModels markedNames := by
  have hnames : ∀ name ∈ markedNames.names, IsIdentifier name := by decide +kernel
  obtain ⟨source, hsource⟩ := exists_schemaFile_eq_ok fun name hmem =>
    Option.isSome_of_eq_some (identifier?_eq_self_iff.mpr (hnames name hmem))
  obtain ⟨enumeration, hread, -, -, -, -, -, hnamed⟩ := schemaFile_enumerates hsource
  exact ⟨source, enumeration, hsource, hread, hnamed.mpr hnames⟩

/-- A schema in which two names spell one identifier, the second with a blank in front of it. -/
def paddedNames : Schema :=
  .ofList [("User", ⟨.empty, none⟩), (" User", ⟨.empty, none⟩)]

/-- The schema has source, in which the enumeration has one variant twice. -/
theorem paddedNames_variants_clash :
    ∃ source enumeration, schemaFile paddedNames = .ok source ∧
      Enumeration.ofText? source = some enumeration ∧ enumeration.variants = ["User", "User"] ∧
      ¬enumeration.NamesModels paddedNames := by
  have hspelled : paddedNames.names.map identifier? = ["User", "User"].map some := by
    decide +kernel
  have hsome : ∀ name ∈ paddedNames.names, (identifier? name).isSome := by decide +kernel
  obtain ⟨source, hsource⟩ := exists_schemaFile_eq_ok hsome
  obtain ⟨found, hfound, hread⟩ := ofText?_enumeration hsource
  have hvariants : found.map Variant.identifier = ["User", "User"] :=
    List.map_injective_iff.mpr (Option.some_injective String)
      ((map_identifier?_names hfound).symm.trans hspelled)
  refine ⟨source, _, hsource, hread, hvariants, fun hnames => ?_⟩
  have htwice : ¬["User", "User"].Nodup := by decide
  exact htwice (hvariants ▸ hnames.distinct)

end FieldProjection.Source
