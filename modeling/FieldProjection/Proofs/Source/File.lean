import FieldProjection.Proofs.Source.Identifier
import FieldProjection.Proofs.Source.Variants

/-!
# The tokens of a schema file

The tokens that the source of a schema is rendered from are read from it again:
`ofText?_schemaFile`. Fixed phrases are words between blanks, string literals read as they are
written, and identifiers are words.
-/

namespace FieldProjection.Source

/-! ## Tokens of a file -/

/-- Tokens that are all read. -/
def AllRead (tokens : List Token) : Prop := ∀ token ∈ tokens, token.Reads

namespace AllRead

variable {first second tokens : List Token}

theorem nil : AllRead [] := fun _ hmem => False.elim (List.not_mem_nil hmem)

theorem cons {token : Token} (htoken : token.Reads) (h : AllRead tokens) :
    AllRead (token :: tokens) :=
  List.forall_mem_cons.mpr ⟨htoken, h⟩

theorem append (hfirst : AllRead first) (hsecond : AllRead second) : AllRead (first ++ second) :=
  List.forall_mem_append.mpr ⟨hfirst, hsecond⟩

theorem flatMap {α : Type} {items : List α} {part : α → List Token}
    (h : ∀ item ∈ items, AllRead (part item)) : AllRead (items.flatMap part) := by
  intro token hmem
  obtain ⟨item, hitem, htoken⟩ := List.mem_flatMap.mp hmem
  exact h item hitem token htoken

theorem singleton {token : Token} (h : token.Reads) : AllRead [token] := cons h nil

/-- A group is read if what it encloses is. -/
theorem group (delimiter : Delimiter) (h : AllRead tokens) :
    AllRead [Token.group delimiter tokens] :=
  singleton (.group delimiter h)

/-- The words of a phrase are read, if no mark in it ends a word. -/
theorem phrase {text : String}
    (h : ((Text.split ' ' text.toList).all fun part => isWord (String.ofList part)) = true) :
    AllRead (Token.phrase text) := by
  intro token hmem
  obtain ⟨part, hpart, rfl⟩ := List.mem_map.mp hmem
  exact .plain (List.all_eq_true.mp h part hpart)

end AllRead

/-! ## The declarations of a schema -/

/-- A documentation attribute is read if its content is. -/
theorem allRead_documentation {content : Token} (h : content.Reads) :
    AllRead (documentation content) := by
  have hhash : isWord "#" = true := by decide
  have hname : AllRead (Token.phrase "doc =") := .phrase (by decide +kernel)
  exact .cons (.plain hhash) (.group .bracket (hname.append (.singleton h)))

/-- A call is read if its arguments are. -/
theorem allRead_call {method : String} {arguments : List Token} (hmethod : isWord method = true)
    (h : AllRead arguments) : AllRead (call method arguments) := by
  have hdot : isWord "." = true := by decide
  exact .cons (.plain hdot) (.cons (.plain hmethod) (.group .parenthesis h))

theorem isWord_comma : isWord "," = true := by decide

/-- The expression of a field is read. -/
theorem allRead_fieldExpression (field : Field) : AllRead (fieldExpression field) := by
  have hkind : AllRead (kindExpression field.kind) := by
    cases field.kind <;> exact .phrase (by decide +kernel)
  have htype : AllRead [.plain ",", text field.type] :=
    .cons (.plain isWord_comma) (.singleton (.literal field.type))
  have hnew : AllRead (Token.phrase "Field :: new") := .phrase (by decide +kernel)
  exact hnew.append (.group .parenthesis (hkind.append htype))

/-- A name with what belongs to it is read if that is. -/
theorem allRead_named (name : String) {argument : List Token} (h : AllRead argument) :
    AllRead ([text name, .plain ","] ++ argument) :=
  .append (.cons (.literal name) (.singleton (.plain isWord_comma))) h

/-- The expression of a model is read. -/
theorem allRead_modelExpression (model : Model) : AllRead (modelExpression model) := by
  have hfields : AllRead (model.fields.entries.flatMap fun entry =>
      call "with_field" ([text entry.1, .plain ","] ++ fieldExpression entry.2)) :=
    .flatMap fun entry _ => allRead_call (by decide)
      (allRead_named entry.1 (allRead_fieldExpression entry.2))
  have hnew : AllRead (Token.phrase "Model :: new") := .phrase (by decide +kernel)
  refine .append ((hnew.append (.group .parenthesis .nil)).append hfields) ?_
  cases model.documentation with
  | none => exact .nil
  | some content => exact allRead_call (by decide) (.singleton (.literal content))

/-- The expression of a schema is read. -/
theorem allRead_schemaExpression (schema : Schema) : AllRead (schemaExpression schema) := by
  have hnew : AllRead (Token.phrase "Schema :: new") := .phrase (by decide +kernel)
  exact (hnew.append (.group .parenthesis .nil)).append (.flatMap fun entry _ =>
    allRead_call (by decide) (allRead_named entry.1 (allRead_modelExpression entry.2)))

/-- The function that builds a schema is read. -/
theorem allRead_schemaFunction (schema : Schema) : AllRead (schemaFunction schema) := by
  have hquote : '"' ∉ " Schema description of the datamodel.".toList := by decide
  have hspelling : "r\"" ++ " Schema description of the datamodel." ++ "\"" =
      "r\" Schema description of the datamodel.\"" := by decide
  have hcomment : (Token.literal "r\" Schema description of the datamodel.\"").Reads :=
    hspelling ▸ .rawLiteral hquote
  have huse : AllRead (Token.phrase "use prisma_select :: schema ::") := .phrase (by decide +kernel)
  have himport : AllRead (Token.phrase "Field , FieldKind , Model") := .phrase (by decide +kernel)
  have hschema : AllRead (Token.phrase "; use prisma_select :: Schema ;") :=
    .phrase (by decide +kernel)
  have hname : AllRead (Token.phrase "pub fn schema") := .phrase (by decide +kernel)
  have hresult : AllRead (Token.phrase "-> Schema") := .phrase (by decide +kernel)
  exact ((((((huse.append (.group .brace himport)).append hschema).append
    (allRead_documentation hcomment)).append hname).append (.group .parenthesis .nil)).append
      hresult).append (.group .brace (allRead_schemaExpression schema))

/-! ## The enumeration of the models -/

/-- The identifiers of variants are words. -/
theorem isWord_of_mapM_variant {entries : Entries Model} {found : List Variant}
    (h : (entries.mapM fun entry => variant entry.1 entry.2) = .ok found) {variant : Variant}
    (hmem : variant ∈ found) : isWord variant.identifier = true := by
  obtain ⟨entry, -, hvariant⟩ := Loop.exists_of_mapM_eq_ok h hmem
  exact (isIdentifier_of_identifier? (of_variant_eq_ok hvariant).1).1.isWord

section

variable {variant : Variant}

/-- The full name of a variant is read. -/
theorem allRead_variantPath (h : isWord variant.identifier = true) :
    AllRead (variantPath variant) := by
  have htype : AllRead (Token.phrase "ModelName ::") := .phrase (by decide +kernel)
  exact htype.append (.singleton (.plain h))

/-- The declaration of a variant is read. -/
theorem allRead_variantDeclaration (h : isWord variant.identifier = true) :
    AllRead (variantDeclaration variant) := by
  refine .append ?_ (.cons (.plain h) (.singleton (.plain isWord_comma)))
  cases variant.documentation with
  | none => exact .nil
  | some content => exact allRead_documentation (.literal content)

/-- The case of a variant is read. -/
theorem allRead_variantCase (h : isWord variant.identifier = true) :
    AllRead (variantCase variant) := by
  have harrow : isWord "=>" = true := by decide
  exact (allRead_variantPath h).append (.cons (.plain harrow)
    (.cons (.literal variant.name) (.singleton (.plain isWord_comma))))

end

/-- The list of variants is read if their identifiers are words. -/
theorem allRead_variantList {variants : List Variant}
    (h : ∀ variant ∈ variants, isWord variant.identifier = true) :
    AllRead (variantList variants) := by
  unfold variantList
  induction variants with
  | nil => exact .nil
  | cons variant rest ih =>
      rw [List.forall_mem_cons] at h
      cases rest with
      | nil =>
          simpa using allRead_variantPath h.1
      | cons next more =>
          rw [List.map_cons, List.map_cons, List.intercalate_cons_cons, ← List.map_cons]
          have hfirst := (allRead_variantPath h.1).append (.singleton (.plain isWord_comma))
          exact hfirst.append (ih h.2)

/-- The enumeration of variants is read if their identifiers are words. -/
theorem allRead_enumeration {variants : List Variant}
    (h : ∀ variant ∈ variants, isWord variant.identifier = true) :
    AllRead (enumeration variants) := by
  have hquote : '"' ∉ " Models declared in the datamodel.".toList := by decide
  have hspelling : "r\"" ++ " Models declared in the datamodel." ++ "\"" =
      "r\" Models declared in the datamodel.\"" := by decide
  have hcomment : (Token.literal "r\" Models declared in the datamodel.\"").Reads :=
    hspelling ▸ .rawLiteral hquote
  have hderive : AllRead (.plain "derive" ::
      [Token.parens (Token.phrase "Debug , Clone , Copy , PartialEq , Eq , Hash")]) :=
    .cons (.plain (by decide)) (.group .parenthesis (.phrase (by decide +kernel)))
  have hdeclarations : AllRead (variants.flatMap variantDeclaration) :=
    .flatMap fun variant hmem => allRead_variantDeclaration (h variant hmem)
  have hcases : AllRead (variants.flatMap variantCase) :=
    .flatMap fun variant hmem => allRead_variantCase (h variant hmem)
  have hattribute : AllRead [.plain "#", Token.brackets (.plain "derive" ::
      [Token.parens (Token.phrase "Debug , Clone , Copy , PartialEq , Eq , Hash")])] :=
    .cons (.plain (by decide)) (.group .bracket hderive)
  have hself : AllRead (Token.phrase "& self") := .phrase (by decide +kernel)
  have hmatch : AllRead (Token.phrase "match * self" ++
      [Token.braces (variants.flatMap variantCase)]) :=
    .append (.phrase (by decide +kernel)) (.group .brace hcases)
  have hwrite : AllRead (Token.phrase "f . write_str" ++
      [Token.parens (Token.phrase "self . as_str" ++ [Token.parens []])]) :=
    .append (.phrase (by decide +kernel)) (.group .parenthesis
      (.append (.phrase (by decide +kernel)) (.group .parenthesis .nil)))
  have hnames : AllRead (Token.phrase "pub const ALL : & 'static" ++
      ([Token.brackets (Token.phrase "ModelName")] ++ (Token.phrase "= &" ++
        ([Token.brackets (variantList variants)] ++ (Token.phrase "; pub fn as_str" ++
          ([Token.parens (Token.phrase "& self")] ++ (Token.phrase "-> & 'static str" ++
            [Token.braces (Token.phrase "match * self" ++
              [Token.braces (variants.flatMap variantCase)])]))))))) :=
    .append (.phrase (by decide +kernel)) <|
      .append (.group .bracket (.phrase (by decide +kernel))) <|
      .append (.phrase (by decide +kernel)) <|
      .append (.group .bracket (allRead_variantList h)) <|
      .append (.phrase (by decide +kernel)) <| .append (.group .parenthesis hself) <|
      .append (.phrase (by decide +kernel)) (.group .brace hmatch)
  have hprinting : AllRead (Token.phrase "fn fmt" ++
      ([Token.parens (Token.phrase "& self , f : & mut std :: fmt :: Formatter < '_ >")] ++
        (Token.phrase "-> std :: fmt :: Result" ++
          [Token.braces (Token.phrase "f . write_str" ++
            [Token.parens (Token.phrase "self . as_str" ++ [Token.parens []])])]))) :=
    .append (.phrase (by decide +kernel)) <|
      .append (.group .parenthesis (.phrase (by decide +kernel))) <|
      .append (.phrase (by decide +kernel)) (.group .brace hwrite)
  simp only [enumeration, List.append_assoc]
  exact .append (allRead_documentation hcomment) <| .append hattribute <|
    .append (.phrase (by decide +kernel)) <| .append (.group .brace hdeclarations) <|
    .append (.phrase (by decide +kernel)) <| .append (.group .brace hnames) <|
    .append (.phrase (by decide +kernel)) (.group .brace hprinting)

/-! ## The file -/

/-- The tokens that the source of a schema is rendered from are read from it. -/
theorem ofText?_schemaFile {schema : Schema} {source : String}
    (h : schemaFile schema = .ok source) :
    ∃ found, variants schema = .ok found ∧
      Token.ofText? source = some (schemaFunction schema ++ enumeration found) := by
  cases hvariants : variants schema with
  | error fault =>
      rw [schemaFile, hvariants] at h
      cases h
  | ok found =>
      rw [schemaFile, hvariants] at h
      obtain rfl := Except.ok.inj h
      exact ⟨found, rfl, Token.ofText?_file ((allRead_schemaFunction schema).append
        (allRead_enumeration fun _ => isWord_of_mapM_variant hvariants))⟩

end FieldProjection.Source
