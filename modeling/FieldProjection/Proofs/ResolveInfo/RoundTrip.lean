import FieldProjection.Proofs.Json.Reads
import FieldProjection.Proofs.ResolveInfo.Distinct
import Mathlib.Logic.Relation

/-!
# Resolver information by way of JSON

Resolver information is read back from the value that it is written as, with the order of all names.
The value may be edited before: at any field of the tree, what is empty may be left out and names
that a field does not have may be added (`Edit`), and what is read stays the same. Both are put
together in `ofJson_round_trip`. How deep the value is nested does not matter for either, because
the shapes of different depths agree.
-/

namespace FieldProjection

open Json (Shape depth_lt_of_mem)
open Json.Shape (Slot AgreeBelow ReadsAs ofJson_entries ofJson_map ofRecordMember_eq_ok)

namespace ResolvedField

/-! ## The shape of a field -/

/-- The parts of a field in JSON, with the shape of the fields below it. -/
def slots (child : Shape ResolvedField) : List (Slot Parts) :=
  [⟨"name", true, (·.name.isSome),
    Shape.text.map fun name parts => { parts with name := some name }⟩,
   ⟨"alias", false, (·.label.isSome),
    Shape.text.map fun label parts => { parts with label := some label }⟩,
   ⟨"args", false, (·.arguments.isSome),
    Shape.any.entries.map fun arguments parts => { parts with arguments := some arguments }⟩,
   ⟨"fieldsByTypeName", false, (·.groups.isSome),
    child.entries.entries.map fun groups parts => { parts with groups := some groups }⟩]

/-- A field is a record of its parts. -/
theorem shape_succ (levels : Nat) :
    shape (levels + 1) =
      Shape.record "ResolvedField" (slots (shape levels)) {} Parts.finish := rfl

/-- No part of a field touches another. -/
theorem slots_independent (child : Shape ResolvedField) :
    (slots child).Pairwise Slot.Independent := by
  simp only [slots, List.pairwise_cons, List.forall_mem_cons, List.not_mem_nil, false_imp_iff,
    implies_true, and_true, List.Pairwise.nil]
  refine ⟨⟨?_, ?_, ?_⟩, ⟨?_, ?_⟩, ?_⟩ <;>
    exact .of_map (by decide) (fun _ _ => rfl) (fun _ _ => rfl) (fun _ _ _ => rfl)

/-- The parts agree as deep as the fields below, which are three levels deeper. -/
theorem agreeBelow_slots {depth : Nat} {first second : Shape ResolvedField}
    (h : first.AgreeBelow depth second) :
    List.Forall₂ (Slot.AgreeBelow depth) (slots first) (slots second) := by
  have hgroups := h.entries.entries.mono (Nat.le_add_right depth 2)
  exact .cons (.refl depth _) (.cons (.refl depth _) (.cons (.refl depth _)
    (.cons ⟨rfl, rfl, rfl, hgroups.map _⟩ .nil)))

/-- Shapes of different depths read a value alike that is less deep than both. -/
theorem agreeBelow_shape {depth first second : Nat} (hfirst : depth ≤ first)
    (hsecond : depth ≤ second) : (shape first).AgreeBelow depth (shape second) := by
  induction depth generalizing first second with
  | zero => exact fun value hvalue => False.elim (Nat.not_lt_zero _ hvalue)
  | succ depth ih =>
      obtain ⟨first, rfl⟩ := Nat.exists_eq_add_one_of_ne_zero (Nat.ne_zero_of_lt hfirst)
      obtain ⟨second, rfl⟩ := Nat.exists_eq_add_one_of_ne_zero (Nat.ne_zero_of_lt hsecond)
      have hchild := ih (Nat.le_of_succ_le_succ hfirst) (Nat.le_of_succ_le_succ hsecond)
      exact .record "ResolvedField" (agreeBelow_slots hchild) {} Parts.finish

/-! ## Reading what is written -/

/-- The fields of a group are written one by one. -/
theorem selectedToJson_eq (selected : List (String × ResolvedField)) :
    selectedToJson selected = Entries.mapValues toJson selected := by
  induction selected with
  | nil => rfl
  | cons entry rest ih => rw [selectedToJson, ih, Entries.mapValues_cons]

/-- The groups of a field are written one by one. -/
theorem groupsToJson_eq (groups : List (String × List (String × ResolvedField))) :
    groupsToJson groups =
      Entries.mapValues (fun selected => .object (Entries.mapValues toJson selected)) groups := by
  induction groups with
  | nil => rfl
  | cons group rest ih => rw [groupsToJson, ih, selectedToJson_eq, Entries.mapValues_cons]

/-- A field is written as an object of its parts. -/
theorem toJson_eq (field : ResolvedField) :
    field.toJson = .object
      [("name", .string field.name), ("alias", .string field.label),
       ("args", .object field.arguments),
       ("fieldsByTypeName", .object (Entries.mapValues
         (fun selected => .object (Entries.mapValues toJson selected)) field.groups))] := by
  obtain ⟨name, label, arguments, groups⟩ := field
  rw [toJson, groupsToJson_eq]

/-- The form of an entry is less deep than that of all entries. -/
theorem depth_lt_mapValues {α : Type} (toJson : α → Json) {entries : Entries α}
    {entry : String × α} (hmem : entry ∈ entries) :
    (toJson entry.2).depth < (Json.object (Entries.mapValues toJson entries)).depth :=
  depth_lt_of_mem (List.mem_map.mpr ⟨entry, hmem, rfl⟩)

/-- A selected field is written less deep than the field that it is selected of. -/
theorem depth_toJson_lt {field : ResolvedField} {group : String × List (String × ResolvedField)}
    (hgroup : group ∈ field.groups) {child : String × ResolvedField} (hchild : child ∈ group.2) :
    child.2.toJson.depth < field.toJson.depth := by
  have hselected := depth_lt_mapValues toJson hchild
  have hgroups := depth_lt_mapValues
    (fun selected => .object (Entries.mapValues toJson selected)) hgroup
  rw [toJson_eq field]
  exact Nat.lt_trans hselected (Nat.lt_trans hgroups (depth_lt_of_mem (List.mem_of_getLast? rfl)))

/-- A field that repeats nothing is read from the value that it is written as. -/
theorem ofJson_shape_toJson {field : ResolvedField} (h : field.Distinct) {levels : Nat}
    (hdepth : field.toJson.depth < levels) : (shape levels).ofJson field.toJson = .ok field := by
  induction h generalizing levels with
  | @intro field harguments htypes hkeys _ ih =>
      obtain ⟨levels, rfl⟩ := Nat.exists_eq_add_one_of_ne_zero (Nat.ne_zero_of_lt hdepth)
      have hread : Shape.any.entries.ofJson (.object field.arguments) = .ok field.arguments := by
        have hself : Entries.mapValues id field.arguments = field.arguments := List.map_id _
        have hany : ∀ entry ∈ field.arguments, Shape.any.ofJson (id entry.2) = .ok entry.2 :=
          fun _ _ => rfl
        rw [← hself, ofJson_entries harguments hany, hself]
      have hgroups : (shape levels).entries.entries.ofJson (.object (Entries.mapValues
          (fun selected => .object (Entries.mapValues toJson selected)) field.groups)) =
            .ok field.groups := by
        refine ofJson_entries htypes fun group hgroup => ?_
        refine ofJson_entries (hkeys group hgroup) fun child hchild => ?_
        have hless := depth_toJson_lt hgroup hchild
        exact ih group hgroup child hchild (Nat.lt_of_lt_of_le hless (Nat.le_of_lt_succ hdepth))
      obtain ⟨name, label, arguments, groups⟩ := field
      rw [toJson_eq, shape_succ]
      -- the members fill the slots one after the other
      refine Loop.bind_eq_ok_iff.mpr ⟨⟨some name, some label, some arguments, some groups⟩, ?_, rfl⟩
      exact Loop.bind_eq_ok_iff.mpr ⟨_, ofRecordMember_eq_ok rfl rfl (ofJson_map _ rfl),
        Loop.bind_eq_ok_iff.mpr ⟨_, ofRecordMember_eq_ok rfl rfl (ofJson_map _ rfl),
        Loop.bind_eq_ok_iff.mpr ⟨_, ofRecordMember_eq_ok rfl rfl (ofJson_map _ hread),
        Loop.bind_eq_ok_iff.mpr ⟨_, ofRecordMember_eq_ok rfl rfl (ofJson_map _ hgroups), rfl⟩⟩⟩⟩

/-! ## Editing a field -/

/-- The parts of a field that need not be written, as they are written when they are empty. -/
def emptyParts : Entries Json :=
  [("alias", .string ""), ("args", .object []), ("fieldsByTypeName", .object [])]

/-- One change of the value of a field, at some field of its tree, that does not change what the
value says. -/
inductive Edit : Json → Json → Prop where
  /-- A part that is empty is left out. -/
  | leaveOut (front back : List (String × Json)) {part : String × Json}
      (hpart : part ∈ emptyParts) :
      Edit (.object (front ++ part :: back)) (.object (front ++ back))
  /-- A name is added that a field does not have. -/
  | addUnknown (front back : List (String × Json)) {key : String} (value : Json)
      (hkey : key ∉ ["name", "alias", "args", "fieldsByTypeName"]) :
      Edit (.object (front ++ back)) (.object (front ++ (key, value) :: back))
  /-- A selected field is edited. -/
  | selected (front back before after first last : List (String × Json)) (type key : String)
      {value other : Json} (h : Edit value other) :
      Edit
        (.object (front ++ ("fieldsByTypeName", .object (before ++
          (type, .object (first ++ (key, value) :: last)) :: after)) :: back))
        (.object (front ++ ("fieldsByTypeName", .object (before ++
          (type, .object (first ++ (key, other) :: last)) :: after)) :: back))

/-- A part that is left out is taken to be empty. -/
theorem readsAs_leaveOut (child : Shape ResolvedField) {part : String × Json}
    (hpart : part ∈ emptyParts) (front back : List (String × Json)) :
    (Shape.record "ResolvedField" (slots child) {} Parts.finish).ReadsAs
      (.object (front ++ part :: back)) (.object (front ++ back)) := by
  simp only [emptyParts, List.mem_cons, List.not_mem_nil, or_false] at hpart
  rcases hpart with rfl | rfl | rfl
  · refine .record_default (slots_independent child) rfl (ofJson_map _ rfl) (fun _ => rfl) ?_
    rintro ⟨name, _ | label, arguments, groups⟩ hempty
    · rfl
    · cases hempty
  · refine .record_default (slots_independent child) rfl (ofJson_map _ rfl) (fun _ => rfl) ?_
    rintro ⟨name, label, _ | arguments, groups⟩ hempty
    · rfl
    · cases hempty
  · refine .record_default (slots_independent child) rfl (ofJson_map _ rfl) (fun _ => rfl) ?_
    rintro ⟨name, label, arguments, _ | groups⟩ hempty
    · rfl
    · cases hempty

/-- A field is read alike from a value that was edited. -/
theorem Edit.readsAs {levels : Nat} {value other : Json} (h : Edit value other) :
    (shape levels).ReadsAs value other := by
  induction levels generalizing value other with
  | zero => exact fun _ hmeant => nomatch hmeant
  | succ levels ih =>
      rw [shape_succ]
      cases h with
      | leaveOut front back hpart => exact readsAs_leaveOut (shape levels) hpart front back
      | addUnknown front back value hkey =>
          exact fun meant hmeant => (ReadsAs.record_unknown (Shape.slot?_eq_none hkey)).trans hmeant
      | selected front back before after first last type key h =>
          exact .record_member rfl ((ih h).entries.entries.map _)

end ResolvedField

namespace ResolveInfo

/-! ## Editing resolver information -/

/-- One change of the value of resolver information that does not change what the value says. -/
inductive Edit : Json → Json → Prop where
  /-- A name is added that resolver information does not have. -/
  | addUnknown (front back : List (String × Json)) {key : String} (value : Json)
      (hkey : key ∉ ["returnType", "field"]) :
      Edit (.object (front ++ back)) (.object (front ++ (key, value) :: back))
  /-- The field is edited. -/
  | field (front back : List (String × Json)) {value other : Json}
      (h : ResolvedField.Edit value other) :
      Edit (.object (front ++ ("field", value) :: back))
        (.object (front ++ ("field", other) :: back))

/-- Resolver information is read alike from a value that was edited. -/
theorem Edit.readsAs {value other : Json} (h : Edit value other) (levels : Nat) :
    (shape levels).ReadsAs value other := by
  cases h with
  | addUnknown front back value hkey =>
      exact fun meant hmeant => (ReadsAs.record_unknown (Shape.slot?_eq_none hkey)).trans hmeant
  | field front back h => exact .record_member rfl (h.readsAs.map _)

/-- Resolver information is read alike from a value that was edited several times. -/
theorem readsAs_of_edits {value edited : Json} (h : Relation.ReflTransGen Edit value edited)
    (levels : Nat) : (shape levels).ReadsAs value edited := by
  induction h with
  | refl => exact fun _ hmeant => hmeant
  | tail _ hlast ih => exact fun meant hmeant => hlast.readsAs levels meant (ih meant hmeant)

/-- The parts of resolver information in JSON, with the shape of the field. -/
def slots (field : Shape ResolvedField) : List (Slot Parts) :=
  [⟨"returnType", true, (·.returnType.isSome),
    Shape.text.map fun type parts => { parts with returnType := some type }⟩,
   ⟨"field", true, (·.field.isSome),
    field.map fun field parts => { parts with field := some field }⟩]

/-- A shape that looks as deep as a value reads all of it. -/
theorem ofJson_eq_shape {value : Json} {levels : Nat} (h : value.depth ≤ levels) :
    ofJson value = (shape levels).ofJson value := by
  have hfield := ResolvedField.agreeBelow_shape (Nat.le_refl value.depth) h
  have hslots : List.Forall₂ (Slot.AgreeBelow value.depth)
      (slots (ResolvedField.shape value.depth)) (slots (ResolvedField.shape levels)) :=
    .cons (.refl value.depth _) (.cons ⟨rfl, rfl, rfl, hfield.map _⟩ .nil)
  exact AgreeBelow.record "ResolveInfo" hslots {} Parts.finish value (Nat.lt_succ_self _)

/-- Resolver information that repeats nothing is read from the value that it is written as. -/
theorem ofJson_toJson {info : ResolveInfo} (h : info.field.Distinct) :
    ofJson info.toJson = .ok info := by
  obtain ⟨returnType, field⟩ := info
  have hdepth : field.toJson.depth < (toJson ⟨returnType, field⟩).depth :=
    depth_lt_of_mem (List.mem_of_getLast? rfl)
  have hfield := ResolvedField.ofJson_shape_toJson h hdepth
  refine Loop.bind_eq_ok_iff.mpr ⟨⟨some returnType, some field⟩, ?_, rfl⟩
  exact Loop.bind_eq_ok_iff.mpr ⟨_, ofRecordMember_eq_ok rfl rfl (ofJson_map _ rfl),
    Loop.bind_eq_ok_iff.mpr ⟨_, ofRecordMember_eq_ok rfl rfl (ofJson_map _ hfield), rfl⟩⟩

/-- Resolver information in which no map repeats a name is read from the value that it is written
as, and any that is read is of this kind. What is read from a value does not change with edits of
the value, whether they leave out what is empty or add unknown names, and at whatever fields. -/
theorem ofJson_round_trip :
    (∀ info : ResolveInfo, info.field.Distinct → ofJson info.toJson = .ok info) ∧
      (∀ value info, ofJson value = .ok info → info.field.Distinct) ∧
      ∀ value edited info, ofJson value = .ok info →
        Relation.ReflTransGen Edit value edited → ofJson edited = .ok info := by
  refine ⟨fun _ => ofJson_toJson, fun _ _ => distinct_of_ofJson, ?_⟩
  intro value edited info hvalue hedits
  have hlevels : value.depth ≤ max value.depth edited.depth := Nat.le_max_left _ _
  rw [ofJson_eq_shape hlevels] at hvalue
  rw [ofJson_eq_shape (Nat.le_max_right value.depth edited.depth)]
  exact readsAs_of_edits hedits _ info hvalue

/-- A request in which the key of the root is empty, one argument is an object, one selected field
has another key, and one selects nothing of a type. -/
def aliasedRequest : ResolveInfo :=
  ⟨"[User!]!", (((ResolvedField.ofName "user").withLabel "").withArgument "where"
    (.object [("id", .null)])).select "User"
      [(ResolvedField.ofName "email").withLabel "mail",
       (ResolvedField.ofName "posts").select "Post" []]⟩

/-- The value of the request without the key of the root, and with a name that is unknown in one of
the selected fields. -/
def editedRequest : Json :=
  .object [
    ("returnType", .string "[User!]!"),
    ("field", .object [
      ("name", .string "user"),
      ("args", .object [("where", .object [("id", .null)])]),
      ("fieldsByTypeName", .object [
        ("User", .object [
          ("mail", .object [
            ("name", .string "email"), ("alias", .string "mail"), ("args", .object []),
            ("fieldsByTypeName", .object []), ("line", .string "3")]),
          ("posts", .object [
            ("name", .string "posts"), ("alias", .string "posts"), ("args", .object []),
            ("fieldsByTypeName", .object [("Post", .object [])])])])])])]

/-- The request is read from its value, before and after the edits. -/
theorem ofJson_round_trip_aliasedRequest :
    ofJson aliasedRequest.toJson = .ok aliasedRequest ∧
      ofJson editedRequest = .ok aliasedRequest := by
  have hemail := (ResolvedField.distinct_ofName "email").withLabel "mail"
  have hposts := (ResolvedField.distinct_ofName "posts").select "Post" (List.forall_mem_nil _)
  have hroot := ((ResolvedField.distinct_ofName "user").withLabel "").withArgument "where"
    (.object [("id", .null)])
  have hdistinct : aliasedRequest.field.Distinct := hroot.select "User"
    (List.forall_mem_cons.mpr ⟨hemail, List.forall_mem_singleton.mpr hposts⟩)
  obtain ⟨hwritten, -, hedited⟩ := ofJson_round_trip
  have hread := hwritten aliasedRequest hdistinct
  refine ⟨hread, hedited _ _ _ hread (.tail (.single (.field [_] [] (.leaveOut [_] [_, _]
    (List.mem_cons_self)))) ?_)⟩
  exact .field [_] [] (.selected [_, _] [] [] [] [] [_] "User" "mail"
    (.addUnknown [_, _, _, _] [] (.string "3") (by decide)))

end ResolveInfo

end FieldProjection
