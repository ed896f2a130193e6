import FieldProjection.Json.Writer
import FieldProjection.Proofs.Datamodel.Decoding
import FieldProjection.Proofs.Json.Written

/-!
# The layouts of a document

A text is parsed as the first of three layouts that fits the value that it holds, and is refused if
none does: `parse_layouts`. No value fits both of the first two. A list of models is found in each
of the layouts, whatever further names its objects have.
-/

namespace FieldProjection

open Json.Shape (parts? itemParts? length_of_itemParts?)

/-! ## Written declarations -/

/-- A value that is written for a field, with any further names in its object. -/
inductive FieldDeclaration.Written (field : FieldDeclaration) : Json → Prop where
  | object {members : Entries Json} :
      members.filter (fun member => member.1 ∈ ["name", "kind", "type"]) =
        [("name", .string field.name), ("kind", field.kind.toJson), ("type", .string field.type)] →
      Written field (.object members)

/-- A value that is written for a model, with any further names in its object and in those of its
fields. -/
inductive ModelDeclaration.Written (model : ModelDeclaration) : Json → Prop where
  | object {members : Entries Json} {fields : List Json} :
      List.Forall₂ FieldDeclaration.Written model.fields fields →
      members.filter (fun member => member.1 ∈ ["name", "fields", "documentation"]) =
        ("name", .string model.name) :: ("fields", .array fields) ::
          Model.documentationMembers model.documentation →
      Written model (.object members)

namespace Datamodel

/-- A list that is written for models. -/
inductive Listed (models : List ModelDeclaration) : Json → Prop where
  | array {items : List Json} :
      List.Forall₂ ModelDeclaration.Written models items → Listed models (.array items)

/-- An object with a list that is written for models, and with any further names. -/
inductive Wrapped (models : List ModelDeclaration) : Json → Prop where
  | object {members : Entries Json} {list : Json} :
      Listed models list →
      members.filter (fun member => member.1 ∈ ["models"]) = [("models", list)] →
      Wrapped models (.object members)

/-- An object that holds such an object in turn, and has any further names but `models`. -/
inductive Nested (models : List ModelDeclaration) : Json → Prop where
  | object {members : Entries Json} {wrapper : Json} :
      Wrapped models wrapper →
      members.filter (fun member => member.1 ∈ ["models", "datamodel"]) =
        [("datamodel", wrapper)] →
      Nested models (.object members)

end Datamodel

/-- What an object holds under a name shows in its members of some names. -/
theorem Entries.find?_eq_of_filter {names : List String} {members known : Entries Json}
    (h : members.filter (fun member => member.1 ∈ names) = known) (key : String)
    (hkey : key ∈ names) : Entries.find? key members = Entries.find? key known := by
  rw [← h, Entries.find?_filter hkey]

/-- Values that are written for a list are decoded one by one. -/
theorem Json.mapM_of_forall₂ {α : Type} {written : α → Json → Prop} {values : List α}
    {items : List Json} (hitems : List.Forall₂ written values items) {decode : Json → Option α}
    (h : ∀ value item, written value item → decode item = some value) :
    items.mapM decode = some values := by
  induction hitems with
  | nil => rfl
  | cons hfirst _ ih =>
      rw [List.mapM_cons, h _ _ hfirst, ih]
      rfl

/-- A field is decoded from what is written for it. -/
theorem FieldDeclaration.Written.ofJson? {field : FieldDeclaration} {value : Json}
    (h : field.Written value) : FieldDeclaration.ofJson? value = some field := by
  cases h with
  | @object members hknown =>
      have hname := Entries.find?_eq_of_filter hknown "name" (by decide)
      have hkind := Entries.find?_eq_of_filter hknown "kind" (by decide)
      have htype := Entries.find?_eq_of_filter hknown "type" (by decide)
      have hspelling : FieldKind.ofJson? field.kind.toJson = some field.kind :=
        field.kind.find?_variants
      have hparts : parts? ["name", "kind", "type"] (.object members) =
          some [some (.string field.name), some field.kind.toJson, some (.string field.type)] := by
        rw [parts?, List.map_cons, hname, List.map_cons, hkind, List.map_cons, htype]
        rfl
      rw [FieldDeclaration.ofJson?, hparts]
      show (FieldKind.ofJson? field.kind.toJson).bind (fun kind =>
        some (FieldDeclaration.mk field.name kind field.type)) = _
      rw [hspelling]
      rfl

/-- A model is decoded from what is written for it. -/
theorem ModelDeclaration.Written.ofJson? {model : ModelDeclaration} {value : Json}
    (h : model.Written value) : ModelDeclaration.ofJson? value = some model := by
  cases h with
  | @object members fields hfields hknown =>
      have hname := Entries.find?_eq_of_filter hknown "name" (by decide)
      have hlist := Entries.find?_eq_of_filter hknown "fields" (by decide)
      have hcomment := Entries.find?_eq_of_filter hknown "documentation" (by decide)
      have hdecoded : fields.mapM FieldDeclaration.ofJson? = some model.fields :=
        Json.mapM_of_forall₂ hfields fun _ _ => FieldDeclaration.Written.ofJson?
      have hdocumentation : comment? (Entries.find? "documentation" members) =
          some model.documentation := by
        rw [hcomment]
        cases model.documentation <;> rfl
      have hparts : parts? ["name", "fields", "documentation"] (.object members) =
          some [some (.string model.name), some (.array fields),
            Entries.find? "documentation" members] := by
        rw [parts?, List.map_cons, hname, List.map_cons, hlist, List.map_cons]
        rfl
      rw [ModelDeclaration.ofJson?, hparts]
      show (fields.mapM FieldDeclaration.ofJson?).bind (fun fields =>
        (comment? (Entries.find? "documentation" members)).bind fun documentation =>
          some (ModelDeclaration.mk model.name fields documentation)) = _
      rw [hdecoded, hdocumentation]
      rfl

namespace Datamodel

/-! ## Documents -/

section

variable {models : List ModelDeclaration} {document : Json}

/-- Models are decoded from a list that is written for them. -/
theorem Listed.list? (h : Listed models document) : list? document = some models := by
  cases h with
  | array hitems => exact Json.mapM_of_forall₂ hitems fun _ _ => ModelDeclaration.Written.ofJson?

/-- Models are decoded from an object with a list that is written for them. -/
theorem Wrapped.wrapped? (h : Wrapped models document) : wrapped? document = some models := by
  cases h with
  | @object members list hlist hknown =>
      have hmodels := Entries.find?_eq_of_filter hknown "models" (by decide)
      show (Entries.find? "models" members).bind Datamodel.list? = some models
      rw [hmodels]
      exact hlist.list?

/-- A list whose first item is no string declares no model. -/
theorem ofJson?_array_eq_none {first : Json} (h : first.text? = none) (rest : List Json) :
    ModelDeclaration.ofJson? (.array (first :: rest)) = none := by
  have hparts : parts? ["name", "fields", "documentation"] (.array (first :: rest)) =
      (itemParts? 2 rest).map (some first :: ·) := rfl
  rw [ModelDeclaration.ofJson?, hparts]
  cases hrest : itemParts? 2 rest with
  | none => rfl
  | some parts =>
      obtain ⟨fields, documentation, rfl⟩ := List.length_eq_two.mp (length_of_itemParts? hrest)
      cases fields with
      | none => rfl
      | some fields =>
          show first.text?.bind _ = none
          rw [h]
          rfl

/-- No value is both a list of models and one that holds such a list. -/
theorem not_list?_and_wrapped? (document : Json) :
    ¬((list? document).isSome ∧ (wrapped? document).isSome) := by
  rintro ⟨hlist, hwrapped⟩
  cases document with
  | array items =>
      match items with
      | [] => cases hwrapped
      | [item] =>
          -- the only item would be a model, which starts with its name, and a list of models
          cases item with
          | array parts =>
              match parts with
              | [] => cases hlist
              | first :: rest =>
                  cases hname : first.text? with
                  | none =>
                      change ([Json.array (first :: rest)].mapM ModelDeclaration.ofJson?).isSome
                        at hlist
                      rw [List.mapM_cons, ofJson?_array_eq_none hname] at hlist
                      cases hlist
                  | some name =>
                      have hnone : ModelDeclaration.ofJson? first = none := by
                        cases first with
                        | string _ => rfl
                        | _ => cases hname
                      change ((first :: rest).mapM ModelDeclaration.ofJson?).isSome at hwrapped
                      rw [List.mapM_cons, hnone] at hwrapped
                      cases hwrapped
          | _ => cases hwrapped
      | first :: second :: rest => cases hwrapped
  | _ => cases hlist

/-- The models of a document are those of the first layout that fits. -/
theorem ofJson?_eq (h : document.Distinct) :
    ofJson? document = ((list? document).or (wrapped? document)).or
      ((document.find? "datamodel").bind wrapped?) := by
  rw [ofJson?, ofList?_eq h, ofWrapped?_eq h, ofNested?_eq h]

/-- A document that models are written to in one of the layouts is decoded as these models. -/
theorem ofJson?_of_written (hdistinct : document.Distinct)
    (h : Listed models document ∨ Wrapped models document ∨ Nested models document) :
    ofJson? document = some models := by
  rw [ofJson?_eq hdistinct]
  rcases h with hlisted | hwrapped | hnested
  · rw [hlisted.list?]
    rfl
  · have hmodels := hwrapped.wrapped?
    cases hwrapped with
    | object _ _ =>
        rw [hmodels]
        rfl
  · cases hnested with
    | @object members wrapper hwrapper hknown =>
        have hmodels := Entries.find?_eq_of_filter hknown "models" (by decide)
        have hdatamodel := Entries.find?_eq_of_filter hknown "datamodel" (by decide)
        show ((Entries.find? "models" members).bind list?).or
          ((Entries.find? "datamodel" members).bind wrapped?) = some models
        rw [hmodels, hdatamodel]
        exact hwrapper.wrapped?

end

/-! ## Texts -/

/-- A fault of a document is reported as one of the datamodel. -/
theorem DocumentFault.display_error (fault : DocumentFault) :
    fault.error.display = "invalid datamodel: " ++ fault.message := by
  show ": ".intercalate ["invalid datamodel", fault.message] = _
  simp

/-- A text that holds a value is parsed as the first layout that fits the value, if one does. -/
theorem parse_eq {text : String} {document : Json}
    (h : Json.Reader.whole (Json.Reader.value Json.Reader.nestingLimit) text = .ok document) :
    parse text =
      match ofJson? document with
      | some models => .ok models
      | none => .error .unknownLayout := by
  cases hvalue : Json.Reader.value Json.Reader.nestingLimit text.toList with
  | error stop =>
      simp only [Json.Reader.whole, hvalue] at h
      cases h
  | ok reading =>
      obtain ⟨found, rest⟩ := reading
      simp only [Json.Reader.whole, hvalue] at h
      cases hfinish : Json.Reader.finish rest with
      | error stop =>
          change Except.mapError _ (Json.Reader.finish rest >>= fun _ => .ok found) = _ at h
          rw [hfinish] at h
          cases h
      | ok _ =>
          change Except.mapError _ (Json.Reader.finish rest >>= fun _ => .ok found) = _ at h
          rw [hfinish] at h
          obtain rfl : found = document := Except.ok.inj h
          simp only [parse, hvalue, hfinish]
          cases ofJson? found <;> rfl

/-- A text that holds a value without repeated names is parsed as the first of the three layouts
that fits, and is refused if none does. The first two never fit both, and models that are written in
one of the layouts, with any further names, are parsed as these models. -/
theorem parse_layouts {text : String} {document : Json}
    (hread : Json.Reader.whole (Json.Reader.value Json.Reader.nestingLimit) text = .ok document)
    (hdistinct : document.Distinct) :
    (parse text =
      match ((list? document).or (wrapped? document)).or
        ((document.find? "datamodel").bind wrapped?) with
      | some models => .ok models
      | none => .error .unknownLayout) ∧
    (∃ reason, DocumentFault.unknownLayout.error.display = "invalid datamodel: " ++ reason) ∧
    ¬((list? document).isSome ∧ (wrapped? document).isSome) ∧
    ∀ models, Listed models document ∨ Wrapped models document ∨ Nested models document →
      parse text = .ok models := by
  have hparse := parse_eq hread
  refine ⟨?_, ⟨_, DocumentFault.unknownLayout.display_error⟩, not_list?_and_wrapped? document,
    fun models hwritten => ?_⟩
  · rw [hparse, ofJson?_eq hdistinct]
  · rw [hparse, ofJson?_of_written hdistinct hwritten]

/-- A document with a model under two names, and with further names in each of its objects. -/
def annotated : Json :=
  .object [
    ("datamodel", .object [
      ("enums", .array []),
      ("models", .array [.object [
        ("name", .string "Tag"), ("dbName", .null),
        ("fields", .array [.object [
          ("name", .string "id"), ("kind", .string "scalar"), ("isId", .bool true),
          ("type", .string "Int")]]),
        ("documentation", .string "")]])]),
    ("schema", .object [("models", .null)])]

set_option maxRecDepth 2048 in
/-- The text of the document is parsed as its model. -/
theorem parse_layouts_annotated :
    Json.Reader.whole (Json.Reader.value Json.Reader.nestingLimit) annotated.text =
        .ok annotated ∧
      annotated.Distinct ∧
      parse annotated.text =
        .ok [⟨"Tag", [⟨"id", .scalar, "Int"⟩], some ""⟩] := by
  have hread : Json.Reader.whole (Json.Reader.value Json.Reader.nestingLimit)
      annotated.text = .ok annotated := by
    have hvalue : Json.Reader.value Json.Reader.nestingLimit annotated.text.toList =
        .ok (annotated, []) := by
      rw [Json.text, String.toList_ofList]
      rfl
    exact Json.Reader.whole_eq hvalue rfl
  have hdistinct : annotated.Distinct := by
    simp [annotated, Json.Distinct.object_iff, Json.Distinct.array_iff, Json.Distinct.null,
      Json.Distinct.bool, Json.Distinct.string]
  obtain ⟨-, -, -, hwritten⟩ := parse_layouts hread hdistinct
  have hfield : FieldDeclaration.Written ⟨"id", .scalar, "Int"⟩ (.object [
      ("name", .string "id"), ("kind", .string "scalar"), ("isId", .bool true),
      ("type", .string "Int")]) := .object rfl
  refine ⟨hread, hdistinct, hwritten _ (.inr (.inr (.object (.object (.array (.cons
    (.object (.cons hfield .nil) rfl) .nil)) rfl) rfl)))⟩

end Datamodel

end FieldProjection
