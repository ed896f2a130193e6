import FieldProjection.Projection.FilterLog
import FieldProjection.Proofs.Filter.Step

/-!
# What filtering reports about a field

`Reported` says which record filtering logs about a requested field itself: none if the field is
kept, and otherwise one that gives the reason why it is not. The records of a level are those of its
fields, one after the other, each after the records from below the field (`records_eq_flatMap`).
-/

namespace FieldProjection

namespace Filter

/-! ## The record of one field -/

/-- What is reported about a field of a model itself, for its outcome. -/
def Outcome.report? (declared key : String) : Outcome → Option Event
  | .kept _ => none
  | .excluded => some (.excluded declared key)
  | .undeclared => some (.undeclared declared key)
  | .pruned => some (.pruned declared key)

variable (options : Options) (schema : Schema) (layout : Layout)

/-- What is logged when a node is filtered. -/
def records (name : String) (value : Json) : List LogRecord :=
  (events options schema layout name value).map Event.record

/-- What is logged about a requested field of a model itself. -/
def ownRecord? (declared : String) (model : Model) (excluded : List String)
    (field : String × Json) : Option LogRecord :=
  ((outcome options schema layout model excluded field.1 field.2).report? declared field.1).map
    Event.record

/-- `Reported declared model excluded key asked record` says what is logged about a requested field
itself: nothing if it is kept, and otherwise that it is excluded, or else not declared, or else a
relation of which nothing is left. -/
inductive Reported (declared : String) (model : Model) (excluded : List String) (key : String)
    (asked : Json) : Option LogRecord → Prop where
  | kept (value : Json) :
      Keeps options schema layout model excluded key asked value →
      Reported declared model excluded key asked none
  | excluded :
      key ∈ excluded →
      Reported declared model excluded key asked
        (some ⟨.trace, "excluding `" ++ declared ++ "." ++ key ++ "`"⟩)
  | undeclared :
      key ∉ excluded → key ≠ countKey → model.field? key = none →
      Reported declared model excluded key asked
        (some ⟨.trace, "dropping `" ++ key ++ "`; not declared on `" ++ declared ++ "`"⟩)
  | pruned (target : String) :
      key ∉ excluded → key ≠ countKey → model.field? key = some ⟨.relation, target⟩ →
      node options schema layout target asked ≠ .bool true →
      layout.hasSelection (node options schema layout target asked) = false →
      Reported declared model excluded key asked
        (some ⟨.trace, "pruning empty relation `" ++ declared ++ "." ++ key ++ "`"⟩)

/-- The type of the node that filtering looks into for a field: the target of a declared relation,
unless it is excluded or the count. -/
def entered? (model : Model) (excluded : List String) (key : String) : Option String :=
  if excluded.contains key ∨ key = countKey then none
  else
    match model.field? key with
    | some ⟨.relation, target⟩ => some target
    | _ => none

variable {options schema layout}
variable {model : Model} {excluded : List String} {name declared key target : String}
variable {value asked inner : Json}

/-- A field is entered just for a declared relation that is neither excluded nor the count. -/
theorem entered?_eq_some_iff :
    entered? model excluded key = some target ↔
      key ∉ excluded ∧ key ≠ countKey ∧ model.field? key = some ⟨.relation, target⟩ := by
  unfold entered?
  by_cases hexcluded : key ∈ excluded
  · simp [hexcluded]
  · by_cases hcount : key = countKey
    · simp [hcount]
    · rw [if_neg (by simp [hexcluded, hcount])]
      cases model.field? key with
      | none => simp
      | some field =>
          obtain ⟨kind, type⟩ := field
          cases kind <;> simp [hexcluded, hcount]

/-- What is logged about a field is told by its outcome. -/
theorem reported_ownRecord? (declared : String) (model : Model) (excluded : List String)
    (key : String) (asked : Json) :
    Reported options schema layout declared model excluded key asked
      (ownRecord? options schema layout declared model excluded (key, asked)) := by
  rw [ownRecord?]
  by_cases hexcluded : key ∈ excluded
  · rw [outcome, if_pos (by simpa using hexcluded)]
    exact .excluded hexcluded
  · rw [outcome, if_neg (by simpa using hexcluded)]
    by_cases hcount : key = countKey
    · rw [if_pos hcount]
      exact .kept asked (.count hexcluded hcount)
    · rw [if_neg hcount]
      cases hfield : model.field? key with
      | none => exact .undeclared hexcluded hcount hfield
      | some field =>
          obtain ⟨kind, type⟩ := field
          cases kind with
          | scalar | enumeration =>
              exact .kept (.bool true) (.column _ hexcluded hcount hfield rfl)
          | relation =>
              show Reported options schema layout declared model excluded key asked
                (((Outcome.ofNode layout (node options schema layout type asked)).report?
                  declared key).map Event.record)
              rcases ofNode_cases layout (node options schema layout type asked) with
                ⟨hkept, hleft⟩ | ⟨hpruned, hbare, hempty⟩
              · rw [hkept]
                exact .kept _ (.relation type hexcluded hcount hfield hleft)
              · rw [hpruned]
                exact .pruned type hexcluded hcount hfield hbare hempty

/-- There is no other record of a field. -/
theorem Reported.eq_ownRecord? {record : Option LogRecord}
    (h : Reported options schema layout declared model excluded key asked record) :
    record = ownRecord? options schema layout declared model excluded (key, asked) := by
  rw [ownRecord?]
  cases h with
  | kept value hkeeps =>
      have hvalue := outcome_value?_eq_some_iff.mpr hkeeps
      cases houtcome : outcome options schema layout model excluded key asked with
      | kept _ => rfl
      | excluded | undeclared | pruned => simp [houtcome, Outcome.value?] at hvalue
  | excluded hexcluded =>
      rw [outcome, if_pos (by simpa using hexcluded)]
      rfl
  | undeclared hexcluded hcount hfield =>
      rw [outcome, if_neg (by simpa using hexcluded), if_neg hcount, hfield]
      rfl
  | pruned target hexcluded hcount hfield hbare hempty =>
      rw [outcome, if_neg (by simpa using hexcluded), if_neg hcount, hfield]
      show _ = ((Outcome.ofNode layout (node options schema layout target asked)).report?
        declared key).map Event.record
      rw [ofNode_of_ne_true hbare, if_neg (by simp [hempty])]
      rfl

/-- Nothing is logged about a field itself just if it is kept. -/
theorem reported_none_iff :
    Reported options schema layout declared model excluded key asked none ↔
      ∃ kept, Keeps options schema layout model excluded key asked kept := by
  constructor
  · rintro ⟨kept, hkeeps⟩
    exact ⟨kept, hkeeps⟩
  · rintro ⟨kept, hkeeps⟩
    exact .kept kept hkeeps

/-- What is logged about a field is for tracing. -/
theorem Reported.level {record : LogRecord}
    (h : Reported options schema layout declared model excluded key asked (some record)) :
    record.level = .trace := by
  cases h <;> rfl

/-! ## The records of one level -/

/-- What is reported about the fields of a model, field by field: first what is reported below the
field, then what is reported about itself. -/
theorem ofFields_eq_flatMap (declared : String) (model : Model) (excluded : List String)
    (selection : Selection) :
    ofFields options schema layout declared model excluded selection =
      selection.flatMap fun field =>
        ((entered? model excluded field.1).toList.flatMap fun target =>
          events options schema layout target field.2) ++
        ((outcome options schema layout model excluded field.1 field.2).report?
          declared field.1).toList := by
  induction selection with
  | nil => rfl
  | cons field rest ih =>
      obtain ⟨key, asked⟩ := field
      rw [ofFields, ih, List.flatMap_cons]
      refine congrArg (· ++ _) (congrArg₂ (· ++ ·) ?_ ?_)
      · unfold entered?
        by_cases hskipped : excluded.contains key = true ∨ key = countKey
        · rw [if_pos hskipped, if_pos hskipped]
          rfl
        · rw [if_neg hskipped, if_neg hskipped]
          cases model.field? key with
          | none => rfl
          | some field =>
              obtain ⟨kind, type⟩ := field
              cases kind with
              | relation => exact (List.append_nil _).symm
              | scalar | enumeration => rfl
      · cases outcome options schema layout model excluded key asked <;> rfl

/-- The reports on a wrapped node are those on the selection under `select`. -/
theorem ofSelectMember_eq (name declared : String) (model : Model)
    (members : List (String × Json)) :
    ofSelectMember options schema layout name declared model members =
      ofFields options schema layout declared model
        (options.excludesFor name declared (Layout.wrapped.selectionOf (.object members)))
        (Layout.wrapped.selectionOf (.object members)) := by
  induction members with
  | nil => rfl
  | cons entry rest ih =>
      obtain ⟨key, value⟩ := entry
      by_cases hkey : key = Layout.selectKey
      · cases value <;>
          simp [ofSelectMember, ofSelected, ofFields, Layout.selectionOf, Layout.selection?,
            Json.find?, Json.members?, Entries.find?, hkey]
      · rw [ofSelectMember, if_neg hkey, ih]
        simp [Layout.selectionOf, Layout.selection?, Json.find?, Json.members?, Entries.find?, hkey]

/-- For a type name that stands for no model, that is all that is reported. -/
theorem events_of_unresolved (hresolve : schema.resolve? name = none) (value : Json) :
    events options schema layout name value = [.unmatched name] := by
  cases value <;> simp [events, hresolve]

/-- Otherwise what is reported are the reports on the fields of the selection. -/
theorem events_of_resolved (hresolve : schema.resolve? name = some (declared, model))
    (value : Json) :
    events options schema layout name value =
      ofFields options schema layout declared model
        (options.excludesFor name declared (layout.selectionOf value))
        (layout.selectionOf value) := by
  cases hmembers : value.members? with
  | none =>
      rw [Layout.selectionOf_of_members?_eq_none hmembers, ofFields]
      cases value with
      | object members => simp [Json.members?] at hmembers
      | _ => simp [events, hresolve]
  | some members =>
      obtain rfl := Json.members?_eq_some_iff.mp hmembers
      cases layout with
      | flat => simp [events, hresolve, Layout.selectionOf, Layout.selection?, Json.members?]
      | wrapped => simp [events, hresolve, ofSelectMember_eq]

/-- For a type name that stands for no model there is one record. -/
theorem records_of_unresolved (hresolve : schema.resolve? name = none) (value : Json) :
    records options schema layout name value =
      [⟨.debug, "no model matches `" ++ name ++ "`; selection is not filtered"⟩] := by
  rw [records, events_of_unresolved hresolve]
  rfl

/-- Otherwise, field by field, the records from below it stand before its own. -/
theorem records_of_resolved (hresolve : schema.resolve? name = some (declared, model))
    (value : Json) :
    records options schema layout name value =
      (layout.selectionOf value).flatMap fun field =>
        ((entered? model (options.excludesFor name declared (layout.selectionOf value))
          field.1).toList.flatMap fun target => records options schema layout target field.2) ++
        (ownRecord? options schema layout declared model
          (options.excludesFor name declared (layout.selectionOf value)) field).toList := by
  rw [records, events_of_resolved hresolve, ofFields_eq_flatMap, List.map_flatMap]
  refine List.flatMap_congr fun field _ => ?_
  rw [List.map_append, List.map_flatMap, ownRecord?, Option.toList_map]
  rfl

variable (options layout) in
/-- The records of a level are those of its fields, each after the records from below the field. -/
theorem records_eq_flatMap (hresolve : schema.resolve? name = some (declared, model))
    (value : Json) :
    ∃ own : String × Json → Option LogRecord,
      (∀ field, Reported options schema layout declared model
        (options.excludesFor name declared (layout.selectionOf value)) field.1 field.2
          (own field)) ∧
      records options schema layout name value =
        (layout.selectionOf value).flatMap fun field =>
          ((entered? model (options.excludesFor name declared (layout.selectionOf value))
            field.1).toList.flatMap fun target =>
              records options schema layout target field.2) ++
          (own field).toList :=
  ⟨_, fun field => reported_ownRecord? declared model _ field.1 field.2,
    records_of_resolved hresolve value⟩

end Filter

end FieldProjection
