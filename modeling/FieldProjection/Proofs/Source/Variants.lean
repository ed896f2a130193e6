import FieldProjection.Proofs.Loops
import FieldProjection.Source.Schema

/-!
# The variants of the models

A schema has source exactly if the name of every model spells an identifier; the first name that
does not is reported. The variants then stand in the order of the models, one for each.
-/

namespace FieldProjection.Source

/-- The variant of a model has the identifier that the name spells. -/
theorem of_variant_eq_ok {name : String} {model : Model} {found : Variant}
    (h : variant name model = .ok found) :
    identifier? name = some found.identifier ∧ found.name = name := by
  rw [variant] at h
  split at h
  · cases h
  · next hidentifier =>
      obtain rfl := Except.ok.inj h
      exact ⟨hidentifier, rfl⟩

variable {entries : Entries Model}

/-- Every model has a variant if every name spells an identifier. -/
theorem exists_mapM_variant_eq_ok (h : ∀ name ∈ Entries.keys entries, (identifier? name).isSome) :
    ∃ variants, (entries.mapM fun entry => variant entry.1 entry.2) = .ok variants := by
  induction entries with
  | nil => exact ⟨[], rfl⟩
  | cons entry rest ih =>
      rw [Entries.keys_cons, List.forall_mem_cons] at h
      obtain ⟨identifier, hidentifier⟩ := Option.isSome_iff_exists.mp h.1
      obtain ⟨variants, hvariants⟩ := ih h.2
      refine ⟨⟨identifier, entry.1, entry.2.documentation⟩ :: variants, ?_⟩
      rw [List.mapM_cons, hvariants, variant, hidentifier]
      rfl

/-- The first name that spells no identifier is reported. -/
theorem mapM_variant_eq_error {front rest : List String} {name : String}
    (hnames : Entries.keys entries = front ++ name :: rest)
    (hfront : ∀ earlier ∈ front, (identifier? earlier).isSome) (hname : identifier? name = none) :
    (entries.mapM fun entry => variant entry.1 entry.2) = .error (.unusableName name) := by
  induction front generalizing entries with
  | nil =>
      cases entries with
      | nil => cases hnames
      | cons entry more =>
          obtain ⟨rfl, -⟩ := List.cons.inj hnames
          rw [List.mapM_cons, variant, hname]
          rfl
  | cons first front ih =>
      cases entries with
      | nil => cases hnames
      | cons entry more =>
          obtain ⟨rfl, hmore⟩ := List.cons.inj hnames
          rw [List.forall_mem_cons] at hfront
          obtain ⟨identifier, hidentifier⟩ := Option.isSome_iff_exists.mp hfront.1
          rw [List.mapM_cons, ih hmore hfront.2, variant, hidentifier]
          rfl

variable {schema : Schema}

/-- A schema has source if the names of its models spell identifiers. -/
theorem exists_schemaFile_eq_ok (h : ∀ name ∈ schema.names, (identifier? name).isSome) :
    ∃ source, schemaFile schema = .ok source := by
  obtain ⟨variants, hvariants⟩ := exists_mapM_variant_eq_ok h
  refine ⟨file (schemaFunction schema ++ enumeration variants), ?_⟩
  rw [schemaFile, Source.variants, hvariants]
  rfl

/-- A schema has no source because of the first name that spells no identifier. -/
theorem schemaFile_eq_error {front rest : List String} {name : String}
    (hnames : schema.names = front ++ name :: rest)
    (hfront : ∀ earlier ∈ front, (identifier? earlier).isSome) (hname : identifier? name = none) :
    schemaFile schema = .error (.unusableName name) := by
  rw [schemaFile, variants, mapM_variant_eq_error hnames hfront hname]
  rfl

/-- The variants stand in the order of the names, each with the identifier that its name spells. -/
theorem forall₂_of_variants {found : List Variant} (h : variants schema = .ok found) :
    List.Forall₂ (fun name variant => identifier? name = some variant.identifier ∧
      variant.name = name) schema.names found :=
  List.forall₂_map_left_iff.mpr
    ((Loop.mapM_eq_ok_iff.mp h).imp fun _ _ => of_variant_eq_ok)

/-- Either all names spell identifiers, or there is a first one that does not. -/
theorem all_or_first_unusable (names : List String) :
    (∀ name ∈ names, (identifier? name).isSome) ∨
      ∃ front name rest, names = front ++ name :: rest ∧
        (∀ earlier ∈ front, (identifier? earlier).isSome) ∧ identifier? name = none := by
  cases hfirst : names.find? fun name => (identifier? name).isNone with
  | none =>
      refine .inl fun name hname => ?_
      simpa [Option.isSome_iff_ne_none] using List.find?_eq_none.mp hfirst name hname
  | some name =>
      obtain ⟨hname, front, rest, hsplit, hfront⟩ := List.find?_eq_some_iff_append.mp hfirst
      refine .inr ⟨front, name, rest, hsplit, fun earlier hmem => ?_,
        Option.isNone_iff_eq_none.mp hname⟩
      simpa using hfront earlier hmem

/-- A schema has source exactly if the names of its models spell identifiers. -/
theorem exists_schemaFile_eq_ok_iff :
    (∃ source, schemaFile schema = .ok source) ↔
      ∀ name ∈ schema.names, (identifier? name).isSome := by
  refine ⟨?_, exists_schemaFile_eq_ok⟩
  rintro ⟨source, hsource⟩
  rcases all_or_first_unusable schema.names with hall | ⟨front, name, rest, hsplit, hfront, hname⟩
  · exact hall
  · cases (schemaFile_eq_error hsplit hfront hname).symm.trans hsource

end FieldProjection.Source
