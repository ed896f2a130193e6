import FieldProjection.Datamodel.Document
import FieldProjection.Proofs.Json.Record

/-!
# What a value declares

Declarations are decoded from values by look-up: `ofJson?` says for a field, a model and a list of
models which values declare it and as what, without the order of members and without names that
mean nothing. The shapes read values without repeated names in just this way.
-/

namespace FieldProjection

open Json (Shape)
open Json.Shape (parts? length_of_parts? distinct_of_parts? fillParts fillParts_nil fillParts_none
  fillParts_map toOption_bind toOption_mapM toOption_ofJson_record)

/-! ## Parts -/

namespace Json

/-- The text of a string. -/
def text? : Json → Option String
  | .string text => some text
  | _ => none

/-- The items of a list, decoded one by one. -/
def listOf? {α : Type} (item? : Json → Option α) : Json → Option (List α)
  | .array items => items.mapM item?
  | _ => none

@[simp] theorem toOption_ofJson_text (value : Json) :
    (Shape.text.ofJson value).toOption = value.text? := by
  cases value <;> rfl

/-- A list is read as its items are, which have no repeated names if it has none. -/
theorem toOption_ofJson_list {α : Type} {shape : Shape α} {item? : Json → Option α}
    (hitem : ∀ {item : Json}, item.Distinct → (shape.ofJson item).toOption = item? item)
    {value : Json} (hvalue : value.Distinct) :
    (shape.list.ofJson value).toOption = value.listOf? item? := by
  cases value with
  | array items =>
      show (items.mapM shape.ofJson).toOption = items.mapM item?
      rw [toOption_mapM]
      have hitems : ∀ item ∈ items, item.Distinct := fun item hmem => hvalue.of_mem_items hmem
      clear hvalue
      induction items with
      | nil => rfl
      | cons item rest ih =>
          rw [List.forall_mem_cons] at hitems
          rw [List.mapM_cons, List.mapM_cons, hitem hitems.1, ih hitems.2]
  | _ => rfl

end Json

/-! ## Declarations -/

namespace FieldKind

/-- The kind that a value names: a spelling, or an object with null under a spelling and nothing
else. -/
def ofJson? : Json → Option FieldKind
  | .string name => Entries.find? name variants
  | .object [(name, .null)] => Entries.find? name variants
  | _ => none

/-- The variant of a name. -/
theorem toOption_lookUp {α : Type} (variants : Entries α) (name : String) :
    (Shape.lookUp variants name).toOption = variants.find? name := by
  unfold Shape.lookUp
  split <;> simp [*, Except.toOption]

/-- A kind is read from its name. -/
@[simp] theorem toOption_ofJson (value : Json) :
    (shape.ofJson value).toOption = ofJson? value := by
  cases value with
  | string name => exact toOption_lookUp variants name
  | object members =>
      match members with
      | [] => rfl
      | [(name, content)] =>
          cases content with
          | null =>
              show (Shape.lookUp variants name >>= Except.ok).toOption = _
              rw [toOption_bind, toOption_lookUp]
              exact Option.bind_fun_some _
          | _ =>
              refine (toOption_bind (Shape.lookUp variants name) _).trans ?_
              cases Shape.lookUp variants name <;> rfl
      | (name, content) :: second :: rest => cases content <;> rfl
  | _ => rfl

end FieldKind

namespace FieldDeclaration

/-- The field that a value declares. -/
def ofJson? (value : Json) : Option FieldDeclaration := do
  let [some name, some kind, some type] ← parts? ["name", "kind", "type"] value | none
  return ⟨← name.text?, ← FieldKind.ofJson? kind, ← type.text?⟩

/-- A field is finished when it has all its parts. -/
@[simp] theorem Parts.toOption_finish (parts : Parts) :
    parts.finish.toOption = do return ⟨← parts.name, ← parts.kind, ← parts.type⟩ := by
  obtain ⟨name, kind, type⟩ := parts
  cases name <;> cases kind <;> cases type <;> rfl

/-- A field is read by its parts. -/
theorem toOption_ofJson {value : Json} (hvalue : value.Distinct) :
    (shape.ofJson value).toOption = ofJson? value := by
  refine (toOption_ofJson_record ⟨?independent, ?blank, ?missed⟩ "FieldInput" hvalue).trans ?parts
  case independent =>
    exact Shape.Slot.pairwise_independent
      (.of_map (by decide) (fun _ _ => rfl) (fun _ _ => rfl) (fun _ _ _ => rfl))
      (.of_map (by decide) (fun _ _ => rfl) (fun _ _ => rfl) (fun _ _ _ => rfl))
      (.of_map (by decide) (fun _ _ => rfl) (fun _ _ => rfl) (fun _ _ _ => rfl))
  case blank => simp
  case missed => simp +contextual [Option.isSome_eq_false_iff]
  case parts =>
    show ((parts? ["name", "kind", "type"] value).bind _).bind _ = _
    rw [ofJson?]
    cases hparts : parts? ["name", "kind", "type"] value with
    | none => rfl
    | some parts =>
      have hlength := length_of_parts? hparts
      match parts with
      | [name, kind, type] =>
        cases name <;> cases kind <;> cases type <;> simp [Option.bind_assoc]

end FieldDeclaration

namespace ModelDeclaration

/-- The comment that a part of a model holds, which may be absent or null. -/
def comment? : Option Json → Option (Option String)
  | none => some none
  | some .null => some none
  | some part => part.text?.map some

@[simp] theorem comment?_none : comment? none = some none := rfl

/-- The model that a value declares. -/
def ofJson? (value : Json) : Option ModelDeclaration := do
  let [some name, some fields, documentation] ← parts? ["name", "fields", "documentation"] value
    | none
  return ⟨← name.text?, ← fields.listOf? FieldDeclaration.ofJson?, ← comment? documentation⟩

/-- A comment is read from its part. -/
@[simp] theorem toOption_ofJson_comment (part : Json) :
    (Shape.text.optional.ofJson part).toOption = comment? (some part) := by
  cases part <;> rfl

/-- The fields are read from their part. -/
theorem toOption_ofJson_fields {part : Json} (hpart : part.Distinct) :
    (FieldDeclaration.shape.list.ofJson part).toOption =
      part.listOf? FieldDeclaration.ofJson? :=
  Json.toOption_ofJson_list FieldDeclaration.toOption_ofJson hpart

/-- A model is finished when it has a name and fields. -/
@[simp] theorem Parts.toOption_finish (parts : Parts) :
    parts.finish.toOption =
      do return ⟨← parts.name, ← parts.fields, parts.documentation.getD none⟩ := by
  obtain ⟨name, fields, documentation⟩ := parts
  cases name <;> cases fields <;> rfl

/-- A model is read by its parts. -/
theorem toOption_ofJson {value : Json} (hvalue : value.Distinct) :
    (shape.ofJson value).toOption = ofJson? value := by
  refine (toOption_ofJson_record ⟨?independent, ?blank, ?missed⟩ "ModelInput" hvalue).trans ?parts
  case independent =>
    exact Shape.Slot.pairwise_independent
      (.of_map (by decide) (fun _ _ => rfl) (fun _ _ => rfl) (fun _ _ _ => rfl))
      (.of_map (by decide) (fun _ _ => rfl) (fun _ _ => rfl) (fun _ _ _ => rfl))
      (.of_map (by decide) (fun _ _ => rfl) (fun _ _ => rfl) (fun _ _ _ => rfl))
  case blank => simp
  case missed => simp +contextual [Option.isSome_eq_false_iff]
  case parts =>
    show ((parts? ["name", "fields", "documentation"] value).bind _).bind _ = _
    rw [ofJson?]
    cases hparts : parts? ["name", "fields", "documentation"] value with
    | none => rfl
    | some parts =>
      have hlength := length_of_parts? hparts
      match parts with
      | [name, fields, documentation] =>
        have hfields : ∀ part, fields = some part → part.Distinct := fun part hpart =>
          distinct_of_parts? hvalue hparts (hpart ▸ by simp)
        cases fields with
        | none => cases name <;> cases documentation <;> simp [Option.bind_assoc]
        | some part =>
          have hlist := toOption_ofJson_fields (hfields part rfl)
          cases name <;> cases documentation <;> simp [Option.bind_assoc, hlist]

end ModelDeclaration

namespace Datamodel

/-! ## Documents -/

/-- The models that a value lists. -/
def list? : Json → Option (List ModelDeclaration) := Json.listOf? ModelDeclaration.ofJson?

/-- What an object holds under a name, or a list as its only item. -/
def under? (key : String) (part? : Json → Option (List ModelDeclaration)) :
    Json → Option (List ModelDeclaration)
  | .object members => (Entries.find? key members).bind part?
  | .array [item] => part? item
  | _ => none

/-- The models that a value lists under the name `models`, or as its only item. -/
def wrapped? : Json → Option (List ModelDeclaration) := under? "models" list?

/-- A list of models is read by its items. -/
theorem ofList?_eq {document : Json} (h : document.Distinct) : ofList? document = list? document :=
  Json.toOption_ofJson_list ModelDeclaration.toOption_ofJson h

/-- The only part is required. -/
theorem toOption_onlyPart (key : String) (part : Option (List ModelDeclaration)) :
    (onlyPart key part).toOption = part := by
  cases part <;> rfl

section

variable {shape : Shape (List ModelDeclaration)} {part? : Json → Option (List ModelDeclaration)}

/-- A record of one part is read by this part. -/
theorem toOption_ofJson_onlyPart
    (hshape : ∀ {value : Json}, value.Distinct → (shape.ofJson value).toOption = part? value)
    (name key : String) {value : Json} (hvalue : value.Distinct) :
    ((Shape.record name [⟨key, true, (·.isSome), shape.map fun models _ => some models⟩] none
        (onlyPart key)).ofJson value).toOption = under? key part? value := by
  refine (toOption_ofJson_record ⟨?independent, ?blank, ?missed⟩ name hvalue).trans ?parts
  case independent => exact List.pairwise_singleton _ _
  case blank => simp
  case missed => simp +contextual [toOption_onlyPart, Option.isSome_eq_false_iff]
  case parts =>
    have hpart : ∀ {part : Json}, part.Distinct →
        (fillParts [⟨key, true, (·.isSome), shape.map fun models _ => some models⟩]
          [some part] none).bind (fun models => (onlyPart key models).toOption) = part? part := by
      intro part hpart
      rw [fillParts_map, hshape hpart]
      cases part? part <;> rfl
    cases value with
    | object members =>
        show (fillParts _ [Entries.find? key members] none).bind _ = _
        cases hfind : Entries.find? key members with
        | none => simp [under?, hfind, fillParts_none, fillParts_nil, toOption_onlyPart]
        | some part => simpa [under?, hfind] using hpart (hvalue.of_find? hfind)
    | array items =>
        match items with
        | [] => rfl
        | [item] => exact hpart (hvalue.of_mem_items List.mem_cons_self)
        | first :: second :: rest => rfl
    | _ => rfl

end

/-- A list under the name `models` is read by look-up. -/
theorem ofWrapped?_eq {document : Json} (h : document.Distinct) :
    ofWrapped? document = wrapped? document :=
  toOption_ofJson_onlyPart ofList?_eq "ModelList" "models" h

/-- A document with the name `datamodel` is read by look-up. -/
theorem ofNested?_eq {document : Json} (h : document.Distinct) :
    ofNested? document = (document.find? "datamodel").bind wrapped? := by
  cases document with
  | object members => exact toOption_ofJson_onlyPart ofWrapped?_eq "Document" "datamodel" h
  | _ => rfl

end Datamodel

end FieldProjection
