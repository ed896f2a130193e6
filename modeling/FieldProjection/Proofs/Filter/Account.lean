import FieldProjection.Projection.Projector
import FieldProjection.Proofs.Filter.Navigation
import FieldProjection.Proofs.Filter.Report

/-!
# What filtering reports is accounted for

Filtering takes steps: it looks up the type name of every node that it comes to, and it visits every
field of the selections that it walks. `steps` lists them with the path of their node and with the
record that they leave, and the log is made of these records, in the order of the steps
(`records_eq_filterMap_steps`). `Taken` says which steps there are and which record each of them
leaves: a look-up leaves one if it finds no model, and a visit leaves one just when the field is not
kept, with the reason. `mem_steps_iff` and `nodup_places_steps` say that these are all steps and
that none is taken twice, so every field that is dropped is logged exactly once.
-/

namespace FieldProjection

namespace Filter

variable {options : Options} {schema : Schema} {layout : Layout}
variable {model : Model} {excluded : List String} {name declared key target : String}
variable {value asked inner : Json}

/-! ## Steps -/

/-- What a step of filtering deals with: a type name that is looked up, or a field that is
visited. -/
inductive Subject where
  | type (name : String)
  | field (key : String)
deriving DecidableEq

/-- A step of filtering: the path of the node that it is taken for, what it deals with, and the
record that it leaves in the log, if any. -/
structure Step where
  path : List String
  subject : Subject
  record : Option LogRecord

namespace Step

/-- A step that is taken below a field. -/
def under (key : String) (step : Step) : Step :=
  { step with path := key :: step.path }

/-- Where a step is taken, and what it deals with. -/
def place (step : Step) : List String × Subject :=
  (step.path, step.subject)

/-- Whether a step visits a field. -/
def isVisit (step : Step) : Bool :=
  match step.subject with
  | .field _ => true
  | .type _ => false

end Step

variable (options schema layout)

/-- The steps of filtering a node against the model of a type name: the name is looked up, and if it
stands for a model, each field of the selection is visited after what is below it. -/
def steps (name : String) (value : Json) : List Step :=
  match schema.resolve? name with
  | none => [⟨[], .type name, some (Event.unmatched name).record⟩]
  | some (declared, model) =>
    let excluded := options.excludesFor name declared (layout.selectionOf value)
    ⟨[], .type name, none⟩ :: (layout.selectionOf value).attach.flatMap fun field =>
      ((entered? model excluded field.1.1).toList.flatMap fun target =>
        (steps target field.1.2).map (Step.under field.1.1)) ++
      [⟨[], .field field.1.1, ownRecord? options schema layout declared model excluded field.1⟩]
termination_by sizeOf value
decreasing_by exact Layout.sizeOf_lt_of_mem_selectionOf field.2

/-- The steps that are taken for one field of a selection: those below it, then its visit. -/
def fieldSteps (declared : String) (model : Model) (excluded : List String)
    (field : String × Json) : List Step :=
  ((entered? model excluded field.1).toList.flatMap fun target =>
    (steps options schema layout target field.2).map (Step.under field.1)) ++
  [⟨[], .field field.1, ownRecord? options schema layout declared model excluded field⟩]

variable {options schema layout}

/-- A type name that stands for no model is looked up, and nothing else is done. -/
theorem steps_of_unresolved (hresolve : schema.resolve? name = none) (value : Json) :
    steps options schema layout name value =
      [⟨[], .type name, some (Event.unmatched name).record⟩] := by
  rw [steps, hresolve]

/-- A type name that stands for a model is looked up before its fields are dealt with in order. -/
theorem steps_of_resolved (hresolve : schema.resolve? name = some (declared, model))
    (value : Json) :
    steps options schema layout name value =
      ⟨[], .type name, none⟩ :: (layout.selectionOf value).flatMap
        (fieldSteps options schema layout declared model
          (options.excludesFor name declared (layout.selectionOf value))) := by
  -- the fields carry the proofs that the recursion needs, which make no difference
  have hfields := congrArg (List.flatMap (fieldSteps options schema layout declared model
    (options.excludesFor name declared (layout.selectionOf value))))
    (List.attach_map_subtype_val (layout.selectionOf value))
  rw [List.flatMap_map] at hfields
  rw [steps, hresolve, ← hfields]
  rfl

/-- The steps for a field leave the records from below it and its own. -/
theorem filterMap_record_fieldSteps (declared : String) (model : Model) (excluded : List String)
    {field : String × Json}
    (h : ∀ target, records options schema layout target field.2 =
      (steps options schema layout target field.2).filterMap Step.record) :
    (fieldSteps options schema layout declared model excluded field).filterMap Step.record =
      ((entered? model excluded field.1).toList.flatMap fun target =>
        records options schema layout target field.2) ++
      (ownRecord? options schema layout declared model excluded field).toList := by
  rw [fieldSteps, List.filterMap_append, List.filterMap_flatMap]
  refine congrArg₂ (· ++ ·) (congrArg (List.flatMap · _) (funext fun target => ?_)) ?_
  · -- where a step is taken makes no difference to its record
    rw [h target, List.filterMap_map]
    rfl
  · cases ownRecord? options schema layout declared model excluded field <;> rfl

/-- The log holds the records that the steps leave, in their order. -/
theorem records_eq_filterMap_steps (name : String) (value : Json) :
    records options schema layout name value =
      (steps options schema layout name value).filterMap Step.record := by
  induction value using layout.selection_induction generalizing name with
  | step value ih =>
      cases hresolve : schema.resolve? name with
      | none =>
          rw [records_of_unresolved hresolve, steps_of_unresolved hresolve]
          rfl
      | some found =>
          obtain ⟨declared, model⟩ := found
          rw [records_of_resolved hresolve, steps_of_resolved hresolve,
            List.filterMap_cons_none rfl, List.filterMap_flatMap]
          refine List.flatMap_congr fun field hfield => ?_
          rw [filterMap_record_fieldSteps declared model _ fun target =>
            ih field.1 field.2 hfield target]

/-! ## Which steps are taken -/

variable (options schema layout)

/-- `Taken name value step` says that a step is one of filtering a node against the model of a type
name: a look-up of the type name of a node that filtering comes to, with a record if it finds no
model, or else a visit of a field that the node selects, with the record of the field. -/
inductive Taken (name : String) (value : Json) : Step → Prop where
  | found {path : List String} {target : String} {inner : Json} :
      Reaches options schema layout name value path target inner →
      (schema.resolve? target).isSome →
      Taken name value ⟨path, .type target, none⟩
  | unmatched {path : List String} {target : String} {inner : Json} :
      Reaches options schema layout name value path target inner →
      schema.resolve? target = none →
      Taken name value ⟨path, .type target,
        some ⟨.debug, "no model matches `" ++ target ++ "`; selection is not filtered"⟩⟩
  | visit {path : List String} {target declared : String} {model : Model} {inner : Json}
      {key : String} {asked : Json} {record : Option LogRecord} :
      Reaches options schema layout name value path target inner →
      schema.resolve? target = some (declared, model) →
      layout.select? inner key = some asked →
      Reported options schema layout declared model
        (options.excludesFor target declared (layout.selectionOf inner)) key asked record →
      Taken name value ⟨path, .field key, record⟩

variable {options schema layout}
variable {step : Step} {next : String}

/-- A step that is taken for an entered field is taken for its node. -/
theorem Taken.under (h : Taken options schema layout next asked step)
    (hresolve : schema.resolve? name = some (declared, model))
    (hasked : layout.select? value key = some asked)
    (hentered : entered? model
      (options.excludesFor name declared (layout.selectionOf value)) key = some next) :
    Taken options schema layout name value (step.under key) := by
  obtain ⟨hexcluded, hcount, hfield⟩ := entered?_eq_some_iff.mp hentered
  have hthrough {path : List String} {target : String} {inner : Json}
      (hreaches : Reaches options schema layout next asked path target inner) :
      Reaches options schema layout name value (key :: path) target inner :=
    .through hresolve hasked hexcluded hcount hfield hreaches
  cases h with
  | found hreaches hname => exact .found (hthrough hreaches) hname
  | unmatched hreaches hname => exact .unmatched (hthrough hreaches) hname
  | visit hreaches hname hvisited hreported =>
      exact .visit (hthrough hreaches) hname hvisited hreported

/-- The steps for a field are those below it and its visit. -/
theorem mem_fieldSteps {field : String × Json} :
    step ∈ fieldSteps options schema layout declared model excluded field ↔
      (∃ target, entered? model excluded field.1 = some target ∧
        ∃ below ∈ steps options schema layout target field.2, below.under field.1 = step) ∨
      step =
        ⟨[], .field field.1, ownRecord? options schema layout declared model excluded field⟩ := by
  rw [fieldSteps, List.mem_append, List.mem_singleton, List.mem_flatMap]
  simp only [Option.mem_toList, List.mem_map]

/-- The steps of an entered field are steps of its node. -/
theorem under_mem_steps (hresolve : schema.resolve? name = some (declared, model))
    (hasked : layout.select? value key = some asked)
    (hentered : entered? model
      (options.excludesFor name declared (layout.selectionOf value)) key = some next)
    (hstep : step ∈ steps options schema layout next asked) :
    step.under key ∈ steps options schema layout name value := by
  rw [steps_of_resolved hresolve]
  refine List.mem_cons_of_mem _ (List.mem_flatMap.mpr
    ⟨(key, asked), Layout.mem_selectionOf_of_select? hasked, ?_⟩)
  exact mem_fieldSteps.mpr (.inl ⟨next, hentered, step, hstep, rfl⟩)

/-- The steps of a node that is reached are steps of the node that filtering starts with. -/
theorem Reaches.mem_steps {path : List String} {subject : Subject} {record : Option LogRecord}
    (h : Reaches options schema layout name value path target inner)
    (hstep : ⟨[], subject, record⟩ ∈ steps options schema layout target inner) :
    ⟨path, subject, record⟩ ∈ steps options schema layout name value := by
  induction h with
  | here => exact hstep
  | through hresolve hasked hexcluded hcount hfield _ ih =>
      exact under_mem_steps hresolve hasked
        (entered?_eq_some_iff.mpr ⟨hexcluded, hcount, hfield⟩) (ih hstep)

/-- What is to be taken is a step of filtering. -/
theorem Taken.mem_steps (h : Taken options schema layout name value step) :
    step ∈ steps options schema layout name value := by
  cases h with
  | found hreaches hname =>
      obtain ⟨found, hresolve⟩ := Option.isSome_iff_exists.mp hname
      refine hreaches.mem_steps ?_
      rw [steps_of_resolved hresolve]
      exact List.mem_cons_self
  | unmatched hreaches hname =>
      refine hreaches.mem_steps ?_
      rw [steps_of_unresolved hname]
      exact List.mem_cons_self
  | visit hreaches hresolve hasked hreported =>
      refine hreaches.mem_steps ?_
      rw [steps_of_resolved hresolve, hreported.eq_ownRecord?]
      exact List.mem_cons_of_mem _ (List.mem_flatMap.mpr
        ⟨_, Layout.mem_selectionOf_of_select? hasked, mem_fieldSteps.mpr (.inr rfl)⟩)

/-- A step of filtering is to be taken. -/
theorem Taken.of_mem_steps (hdistinct : layout.Distinct value)
    (h : step ∈ steps options schema layout name value) :
    Taken options schema layout name value step := by
  induction value using layout.selection_induction generalizing name step with
  | step value ih =>
      cases hresolve : schema.resolve? name with
      | none =>
          rw [steps_of_unresolved hresolve, List.mem_singleton] at h
          subst h
          exact .unmatched (.here name value) hresolve
      | some found =>
          obtain ⟨declared, model⟩ := found
          rw [steps_of_resolved hresolve] at h
          rcases List.mem_cons.mp h with rfl | hfields
          · exact .found (.here name value) (by rw [hresolve, Option.isSome_some])
          · obtain ⟨⟨key, asked⟩, hfield, hstep⟩ := List.mem_flatMap.mp hfields
            have hasked := hdistinct.select?_of_mem hfield
            rcases mem_fieldSteps.mp hstep with ⟨next, hentered, below, hbelow, rfl⟩ | rfl
            · exact (ih key asked hfield (hdistinct.of_mem hfield) hbelow).under hresolve hasked
                hentered
            · exact .visit (.here name value) hresolve hasked (reported_ownRecord? ..)

/-- The steps of filtering are those that are to be taken. -/
theorem mem_steps_iff (hdistinct : layout.Distinct value) :
    step ∈ steps options schema layout name value ↔
      Taken options schema layout name value step :=
  ⟨.of_mem_steps hdistinct, Taken.mem_steps⟩

/-! ## No step is taken twice -/

/-- The field of the node itself to which a step belongs: the one that it visits, or the one below
which it is taken. -/
def Step.field? (step : Step) : Option String :=
  match step.path, step.subject with
  | key :: _, _ => some key
  | [], .field key => some key
  | [], .type _ => none

/-- Steps at one place belong to one field. -/
theorem Step.field?_eq_of_place_eq {first second : Step} (h : first.place = second.place) :
    first.field? = second.field? := by
  obtain ⟨hpath, hsubject⟩ := Prod.mk.inj h
  rw [field?, field?, hpath, hsubject]

/-- The steps for a field belong to it. -/
theorem field?_of_mem_fieldSteps {field : String × Json}
    (h : step ∈ fieldSteps options schema layout declared model excluded field) :
    step.field? = some field.1 := by
  rcases mem_fieldSteps.mp h with ⟨_, _, _, _, rfl⟩ | rfl <;> rfl

/-- No step for a field is taken twice if none is below it. -/
theorem nodup_places_fieldSteps {field : String × Json}
    (h : ∀ target, ((steps options schema layout target field.2).map Step.place).Nodup) :
    ((fieldSteps options schema layout declared model excluded field).map Step.place).Nodup := by
  rw [fieldSteps]
  cases entered? model excluded field.1 with
  | none => exact List.nodup_singleton _
  | some target =>
      have hunder : Function.Injective
          fun place : List String × Subject => (field.1 :: place.1, place.2) := by
        rintro ⟨_, _⟩ ⟨_, _⟩ heq
        simpa using heq
      have hbelow := (h target).map hunder
      rw [List.map_map] at hbelow
      rw [Option.toList_some, List.flatMap_singleton, List.map_append, List.map_map,
        List.map_singleton]
      refine List.nodup_append.mpr ⟨hbelow, List.nodup_singleton _, ?_⟩
      rintro place hplace _ hvisit rfl
      obtain ⟨below, _, rfl⟩ := List.mem_map.mp hplace
      exact List.cons_ne_nil _ _ (Prod.mk.inj (List.mem_singleton.mp hvisit)).1

/-- No step of filtering is taken twice. -/
theorem nodup_places_steps (hdistinct : layout.Distinct value) :
    ((steps options schema layout name value).map Step.place).Nodup := by
  induction value using layout.selection_induction generalizing name with
  | step value ih =>
      cases hresolve : schema.resolve? name with
      | none =>
          rw [steps_of_unresolved hresolve]
          exact List.nodup_singleton _
      | some found =>
          obtain ⟨declared, model⟩ := found
          rw [steps_of_resolved hresolve, List.map_cons, List.nodup_cons]
          constructor
          · -- the look-up of the node's own type name belongs to no field
            intro hmem
            obtain ⟨step, hstep, hplace⟩ := List.mem_map.mp hmem
            obtain ⟨field, _, hfield⟩ := List.mem_flatMap.mp hstep
            have hnone : step.field? = none :=
              Step.field?_eq_of_place_eq hplace
            rw [field?_of_mem_fieldSteps hfield] at hnone
            exact Option.some_ne_none _ hnone
          · rw [List.Nodup, List.pairwise_map, List.pairwise_flatMap]
            constructor
            · intro field hfield
              rw [← List.pairwise_map]
              exact nodup_places_fieldSteps fun target =>
                ih field.1 field.2 hfield (hdistinct.of_mem hfield)
            · refine (List.pairwise_map.mp hdistinct.keys_nodup).imp ?_
              intro field other hne step hstep next hnext hplace
              have hfields := Step.field?_eq_of_place_eq hplace
              rw [field?_of_mem_fieldSteps hstep, field?_of_mem_fieldSteps hnext] at hfields
              exact hne (Option.some.inj hfields)

/-! ## Records, order and what is stored -/

/-- Filtering comes to one node at a path. -/
theorem Reaches.unique {path : List String} {target other : String} {found : Json}
    (h : Reaches options schema layout name value path target inner)
    (hother : Reaches options schema layout name value path other found) :
    target = other ∧ inner = found := by
  induction h with
  | here =>
      cases hother with
      | here => exact ⟨rfl, rfl⟩
  | through hresolve hasked _ _ hfield _ ih =>
      cases hother with
      | through hresolve' hasked' _ _ hfield' hrest =>
          obtain ⟨rfl, rfl⟩ := Prod.mk.inj (Option.some.inj (hresolve.symm.trans hresolve'))
          obtain rfl := Option.some.inj (hasked.symm.trans hasked')
          obtain rfl := (Field.mk.inj (Option.some.inj (hfield.symm.trans hfield'))).2
          exact ih hrest

/-- The record of a visit is for tracing, that of a look-up for debugging. -/
theorem Taken.level {record : LogRecord} (h : Taken options schema layout name value step)
    (hrecord : step.record = some record) :
    record.level = if step.isVisit then .trace else .debug := by
  cases h with
  | found => exact False.elim (Option.some_ne_none _ hrecord.symm)
  | unmatched =>
      obtain rfl := Option.some.inj hrecord
      rfl
  | visit _ _ _ hreported =>
      obtain rfl : _ = some record := hrecord
      exact hreported.level

/-- There are as many records for tracing as visits less those that leave none. -/
theorem countP_trace_add_countP (taken : List Step)
    (hlevels : ∀ step ∈ taken, ∀ record, step.record = some record →
      record.level = if step.isVisit then .trace else .debug) :
    (taken.filterMap Step.record).countP (fun record => record.level = .trace) +
        taken.countP (fun step => step.isVisit && step.record.isNone) =
      taken.countP Step.isVisit := by
  induction taken with
  | nil => rfl
  | cons step rest ih =>
      have hrest := ih fun next hnext => hlevels next (List.mem_cons_of_mem _ hnext)
      have hstep := hlevels step List.mem_cons_self
      rw [List.countP_cons, List.countP_cons, List.filterMap_cons]
      cases hrecord : step.record with
      | none =>
          simp only [Option.isNone_none, Bool.and_true]
          omega
      | some record =>
          have hlevel := hstep record hrecord
          cases hvisit : step.isVisit <;>
            simp [hlevel, hvisit] <;> omega

variable (options layout) in
/-- The fields that are inserted into the defaults of a level are those that are kept. -/
theorem selection?_node_eq_insertAll (hresolve : schema.resolve? name = some (declared, model))
    (hobject : value.members?.isSome) :
    ∃ inserted : Entries Json,
      layout.selection? (node options schema layout name value) =
        some (Entries.insertAll
          (options.defaultsFor name declared (layout.selectionOf value)).entries inserted) ∧
      (Entries.keys inserted).Sublist (Entries.keys (layout.selectionOf value)) ∧
      ∀ key kept, (key, kept) ∈ inserted ↔ ∃ asked, (key, asked) ∈ layout.selectionOf value ∧
        Keeps options schema layout model
          (options.excludesFor name declared (layout.selectionOf value)) key asked kept := by
  obtain ⟨members, hmembers⟩ := Option.isSome_iff_exists.mp hobject
  obtain rfl := Json.members?_eq_some_iff.mp hmembers
  rw [node_object options schema layout hresolve, Layout.selection?_replace,
    filtered_eq_insertAll]
  refine ⟨_, rfl, Entries.keys_filterMapValues_sublist _ _, fun key kept => ?_⟩
  rw [Entries.mem_filterMapValues]
  exact exists_congr fun asked => and_congr_right' outcome_value?_eq_some_iff

variable (options schema layout)

/-- `Accounted name value taken log` says that filtering a node against the model of a type name
takes the given steps and that they account for the log. -/
structure Accounted (name : String) (value : Json) (taken : List Step) (log : List LogRecord) :
    Prop where
  /-- The log holds the records that the steps leave, in their order. -/
  log_eq : log = taken.filterMap Step.record
  /-- The steps are the look-ups and the visits of filtering, with their records. -/
  mem_iff : ∀ step, step ∈ taken ↔ Taken options schema layout name value step
  /-- No step is taken twice. -/
  nodup : (taken.map Step.place).Nodup
  /-- Records of visits are for tracing, those of look-ups for debugging. -/
  level : ∀ step ∈ taken, ∀ record, step.record = some record →
    record.level = if step.isVisit then .trace else .debug
  /-- The records of a level are in the order of its fields. The records from below a field come
  first, then its own. -/
  order : ∀ {path target declared model inner},
    Reaches options schema layout name value path target inner →
    schema.resolve? target = some (declared, model) →
    ∃ own : String × Json → Option LogRecord,
      (∀ field ∈ layout.selectionOf inner, (⟨path, .field field.1, own field⟩ : Step) ∈ taken) ∧
      records options schema layout target inner =
        (layout.selectionOf inner).flatMap fun field =>
          ((entered? model (options.excludesFor target declared (layout.selectionOf inner))
            field.1).toList.flatMap fun next => records options schema layout next field.2) ++
          (own field).toList
  /-- A level holds its defaults and what is inserted into them, in the order of its fields: the
  fields whose visits leave no record. -/
  inserted : ∀ {path target declared model inner},
    Reaches options schema layout name value path target inner →
    schema.resolve? target = some (declared, model) →
    inner.members?.isSome →
    ∃ inserted : Entries Json,
      layout.selection? (node options schema layout target inner) =
        some (Entries.insertAll
          (options.defaultsFor target declared (layout.selectionOf inner)).entries inserted) ∧
      (Entries.keys inserted).Sublist (Entries.keys (layout.selectionOf inner)) ∧
      ∀ key, key ∈ Entries.keys inserted ↔ (⟨path, .field key, none⟩ : Step) ∈ taken
  /-- There are as many records for tracing as visits less those of fields that are inserted. -/
  count : log.countP (fun record => record.level = .trace) +
      taken.countP (fun step => step.isVisit && step.record.isNone) =
    taken.countP Step.isVisit

variable {options schema layout}

/-- The steps of filtering account for what it logs. -/
theorem accounted_steps (hdistinct : layout.Distinct value) (name : String) :
    Accounted options schema layout name value (steps options schema layout name value)
      (records options schema layout name value) := by
  have hlevel : ∀ step ∈ steps options schema layout name value, ∀ record,
      step.record = some record → record.level = if step.isVisit then .trace else .debug :=
    fun step hstep record hrecord => ((mem_steps_iff hdistinct).mp hstep).level hrecord
  have hinner {path target inner} (hreaches :
      Reaches options schema layout name value path target inner) : layout.Distinct inner :=
    hdistinct.of_selectPath? hreaches.leads.selectPath?
  refine {
    log_eq := records_eq_filterMap_steps name value
    mem_iff := fun step => mem_steps_iff hdistinct
    nodup := nodup_places_steps hdistinct
    level := hlevel
    order := ?_
    inserted := ?_
    count := ?_ }
  · intro path target declared model inner hreaches hresolve
    obtain ⟨own, hown, hrecords⟩ := records_eq_flatMap options layout hresolve inner
    refine ⟨own, fun field hfield => ?_, hrecords⟩
    exact (mem_steps_iff hdistinct).mpr
      (.visit hreaches hresolve ((hinner hreaches).select?_of_mem hfield) (hown field))
  · intro path target declared model inner hreaches hresolve hobject
    obtain ⟨inserted, hselection, hsublist, hmem⟩ :=
      selection?_node_eq_insertAll options layout hresolve hobject
    refine ⟨inserted, hselection, hsublist, fun key => ?_⟩
    rw [mem_steps_iff hdistinct]
    constructor
    · intro hkey
      obtain ⟨⟨_, kept⟩, hentry, rfl⟩ := List.mem_map.mp hkey
      obtain ⟨asked, hasked, hkeeps⟩ := (hmem _ kept).mp hentry
      exact .visit hreaches hresolve ((hinner hreaches).select?_of_mem hasked) (.kept kept hkeeps)
    · intro htaken
      cases htaken with
      | visit hreaches' hresolve' hasked hreported =>
          -- only one node is reached at the path, so the visit is one of this level
          obtain ⟨rfl, rfl⟩ := hreaches.unique hreaches'
          obtain ⟨rfl, rfl⟩ := Prod.mk.inj (Option.some.inj (hresolve.symm.trans hresolve'))
          obtain ⟨kept, hkeeps⟩ := reported_none_iff.mp hreported
          exact Entries.mem_keys_of_mem
            ((hmem _ kept).mpr ⟨_, Layout.mem_selectionOf_of_select? hasked, hkeeps⟩)
  · rw [records_eq_filterMap_steps]
    exact countP_trace_add_countP _ hlevel

end Filter

namespace Projector

/-- Without a schema nothing is logged. With one, every field that filtering visits is either
inserted into its level or logged exactly once, with the reason, and so is every type name that
stands for no model where it is looked up. -/
theorem filterEvents_accounted (projector : Projector) (name : String) (value : Json)
    (hdistinct : projector.layout.Distinct value) :
    (projector.options.schema = none → projector.filterEvents name value = []) ∧
      ∀ schema, projector.options.schema = some schema →
        ∃ taken, Filter.Accounted projector.options schema projector.layout name value taken
          ((projector.filterEvents name value).map Filter.Event.record) := by
  constructor
  · intro hschema
    rw [filterEvents, hschema]
  · intro schema hschema
    rw [filterEvents, hschema]
    exact ⟨_, Filter.accounted_steps hdistinct name⟩

/-- In the example two passwords are excluded, a token is not declared, the authors are pruned after
their fields, and images are of an unknown type. -/
theorem filterEvents_accounted_blogRequest :
    blogRequest.layout.Distinct blogRequest.projection ∧
      blogRequest.options.schema = some blogSchema ∧
      (∃ taken, Filter.Accounted blogRequest.options blogSchema blogRequest.layout "User"
        blogRequest.projection taken ((blogRequest.eventsFor "User").map Filter.Event.record)) ∧
      (blogRequest.eventsFor "User").map Filter.Event.record =
        [⟨.trace, "excluding `User.password`"⟩, ⟨.trace, "excluding `User.password`"⟩,
          ⟨.trace, "dropping `token`; not declared on `User`"⟩,
          ⟨.trace, "pruning empty relation `Post.author`"⟩,
          ⟨.debug, "no model matches `Image`; selection is not filtered"⟩] :=
  ⟨blogRequest.distinct_projection, rfl,
    (filterEvents_accounted blogRequest "User" blogRequest.projection
      blogRequest.distinct_projection).2 blogSchema rfl,
    by decide +kernel⟩

end Projector

end FieldProjection
