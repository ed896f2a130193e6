import FieldProjection.Json.Shape
import FieldProjection.Proofs.Entries.Insertion
import FieldProjection.Proofs.Json.Written

/-!
# Shapes that read what was written

`shape.Reads value meant` says that a shape reads a value as what it was written for, both from the
value and straight off its lines. There is one lemma for each way to build a shape. Those for lists
of members ask only for the lemma of each member: `Reads.entries` for objects whose names are data,
`Reads.record` for records, whose members fill the slots one after the other (`Fills`).
-/

namespace FieldProjection.Json.Shape

open Reader

variable {α β σ : Type}

/-- What was read may be changed by a function. -/
theorem ofJson_map {shape : Shape α} {value : Json} {meant : α} (f : α → β)
    (h : shape.ofJson value = .ok meant) : (shape.map f).ofJson value = .ok (f meant) := by
  show (shape.ofJson value).map f = _
  rw [h]
  rfl

/-- Members that are written for entries are read as these. -/
theorem mapM_ofMember {shape : Shape α} {toJson : α → Json} {listed : Entries α}
    (h : ∀ entry ∈ listed, shape.ofJson (toJson entry.2) = .ok entry.2) :
    (Entries.mapValues toJson listed).mapM shape.ofMember = .ok listed := by
  induction listed with
  | nil => rfl
  | cons entry rest ih =>
      rw [List.forall_mem_cons] at h
      have hentry : shape.ofMember (entry.1, toJson entry.2) = .ok entry := by
        rw [ofMember, h.1]
        rfl
      rw [Entries.mapValues_cons, List.mapM_cons, hentry, ih h.2]
      rfl

/-- An object whose members are written for entries without a repeated name is read as these. -/
theorem ofJson_entries {shape : Shape α} {toJson : α → Json} {listed : Entries α}
    (hnodup : listed.keys.Nodup)
    (h : ∀ entry ∈ listed, shape.ofJson (toJson entry.2) = .ok entry.2) :
    shape.entries.ofJson (.object (Entries.mapValues toJson listed)) = .ok listed := by
  show ((Entries.mapValues toJson listed).mapM shape.ofMember).map Entries.ofList = _
  rw [mapM_ofMember h]
  exact congrArg Except.ok (OrderedMap.entries_ofList hnodup)

/-- `shape.Reads value meant` says that a shape reads a value of strings and objects as `meant`, and
so it does with the text that the writer makes of the value on any level. -/
structure Reads (shape : Shape α) (value : Json) (meant : α) : Prop where
  worded : value.Worded
  ofJson : shape.ofJson value = .ok meant
  scan : ∀ {depth level : Nat} {input rest : Input}, value.depth ≤ depth →
    skipBlanks input = Writer.pretty level value ++ rest →
    shape.scan depth input = .ok (meant, rest)

namespace Reads

variable {shape : Shape α} {value : Json} {meant : α}

/-! ## Scalars -/

/-- A string is read. -/
theorem text (content : String) : Shape.text.Reads (.string content) content where
  worded := .string content
  ofJson := rfl
  scan := by
    intro depth level input rest _ hinput
    obtain ⟨quoted, hquoted, hstring⟩ := string_literal content rest
    simp only [Shape.text, hinput.trans hquoted]
    exact hstring

/-- The name of a variant is read as the variant. -/
theorem variant {variants : Entries α} {name : String} (h : variants.find? name = some meant) :
    (Shape.variant variants).Reads (.string name) meant where
  worded := .string name
  ofJson := by simp only [Shape.variant, lookUp, h]
  scan := by
    intro depth level input rest _ hinput
    obtain ⟨quoted, hquoted, hstring⟩ := string_literal name rest
    have hinput : skipBlanks input = '"' :: quoted := hinput.trans hquoted
    have hlookUp : lookUp variants name = .ok meant := by simp only [lookUp, h]
    simp only [Shape.variant, hinput]
    show variant.named variants quoted = _
    refine (bind_eq hstring _).trans ?_
    simp only [hlookUp]

/-- What was read may be changed by a function. -/
theorem map (f : α → β) (h : shape.Reads value meant) : (shape.map f).Reads value (f meant) where
  worded := h.worded
  ofJson := ofJson_map f h.ofJson
  scan := by
    intro depth level input rest hdepth hinput
    simp only [Shape.map, h.scan hdepth hinput]
    rfl

/-- A string is no null, so it is read where null is allowed. -/
theorem optional {content : String} (h : shape.Reads (.string content) meant) :
    shape.optional.Reads (.string content) (some meant) where
  worded := h.worded
  ofJson := by
    show (shape.ofJson (.string content)).map some = _
    rw [h.ofJson]
    rfl
  scan := by
    intro depth level input rest hdepth hinput
    obtain ⟨quoted, hquoted, _⟩ := string_literal content rest
    have hinput : skipBlanks input = '"' :: quoted := hinput.trans hquoted
    have hpretty : skipBlanks ('"' :: quoted) = Writer.pretty level (.string content) ++ rest :=
      hquoted.symm
    have hscan := h.scan hdepth hpretty
    simp only [Shape.optional, hinput]
    exact bind_eq hscan _

/-! ## Objects whose names are data -/

/-- A value is read behind the colon of its member. -/
theorem scan_member (h : shape.Reads value meant) {depth level : Nat} (hdepth : value.depth ≤ depth)
    (rest : Input) :
    shape.scan depth (' ' :: Writer.pretty level value ++ rest) = .ok (meant, rest) :=
  h.scan hdepth (h.worded.skipBlanks_space level rest)

variable {toJson : α → Json}

/-- A step that inserts what each member was written for inserts them all. -/
theorem takes_insertAll {step : Entries α → String → Scan (Entries α)} {level : Nat}
    {listed : Entries α}
    (h : ∀ entry ∈ listed, ∀ found rest,
      step found entry.1 (':' :: ' ' :: Writer.pretty (level + 1) (toJson entry.2) ++ rest) =
        .ok (found.insert entry.1 entry.2, rest)) (found : Entries α) :
    Takes step level found (Entries.mapValues toJson listed) (found.insertAll listed) := by
  induction listed generalizing found with
  | nil => exact .nil found
  | cons entry rest ih =>
      have hrest := ih (fun other hmem => h other (List.mem_cons_of_mem _ hmem))
      exact .cons (h entry List.mem_cons_self found) (hrest _)

/-- An object is read whose members were written for entries without a repeated name. -/
theorem entries {listed : Entries α} (hnodup : listed.keys.Nodup)
    (h : ∀ entry ∈ listed, shape.Reads (toJson entry.2) entry.2) :
    shape.entries.Reads (.object (Entries.mapValues toJson listed)) listed where
  worded := by
    refine .object (by rwa [Entries.keys_mapValues]) fun member hmem => ?_
    obtain ⟨entry, hentry, rfl⟩ := List.mem_map.mp hmem
    exact (h entry hentry).worded
  ofJson := ofJson_entries hnodup fun entry hmem => (h entry hmem).ofJson
  scan := by
    intro depth level input rest hdepth hinput
    rw [Writer.pretty_object] at hinput
    obtain ⟨depth, rfl, hmembers⟩ := exists_of_depth_object_le hdepth
    have hinsert : Entries.insertAll [] listed = listed := OrderedMap.entries_ofList hnodup
    simp only [Shape.entries, hinput]
    refine (object_body (takes_insertAll (fun entry hentry found after => ?_) []) rest).trans
      (by rw [hinsert])
    have hvalue : (toJson entry.2).depth ≤ depth :=
      hmembers (entry.1, toJson entry.2) (List.mem_map.mpr ⟨entry, hentry, rfl⟩)
    exact bind_eq ((h entry hentry).scan_member hvalue after) _

/-- An object is read as the map whose entries its members were written for. -/
theorem orderedMap (entries : OrderedMap α)
    (h : ∀ entry ∈ entries.entries, shape.Reads (toJson entry.2) entry.2) :
    shape.orderedMap.Reads (.object (Entries.mapValues toJson entries.entries)) entries := by
  have hread := (Reads.entries entries.nodup h).map OrderedMap.ofList
  rwa [entries.ofList_entries] at hread

end Reads

/-! ## Records -/

/-- A member fills the slot of its name, if that is empty. -/
theorem ofRecordMember_eq_ok {slots : List (Slot σ)} {slot : Slot σ} {state : σ} {key : String}
    {value : Json} {fill : σ → σ} (hslot : slot? slots key = some slot)
    (hempty : slot.isFilled state = false) (hvalue : slot.shape.ofJson value = .ok fill) :
    ofRecordMember slots state (key, value) = .ok (fill state) := by
  simp only [ofRecordMember, hslot, hempty, hvalue]
  rfl

/-- `Fills slots state members result` says that the members fill slots one after the other, each
one that was empty. -/
inductive Fills (slots : List (Slot σ)) : σ → List (String × Json) → σ → Prop where
  | nil (state) : Fills slots state [] state
  | cons {key : String} {slot : Slot σ} {value : Json} {fill : σ → σ}
      {members : List (String × Json)} {state result : σ} :
      slot? slots key = some slot → slot.isFilled state = false → slot.shape.Reads value fill →
      Fills slots (fill state) members result →
      Fills slots state ((key, value) :: members) result

namespace Fills

variable {slots : List (Slot σ)} {state result : σ} {listed : List (String × Json)}

/-- The members of a record are made of strings and objects. -/
theorem worded (h : Fills slots state listed result) : ∀ member ∈ listed, Worded member.2 := by
  induction h with
  | nil => exact fun _ hmem => False.elim (List.not_mem_nil hmem)
  | cons _ _ hreads _ ih => exact List.forall_mem_cons.mpr ⟨hreads.worded, ih⟩

/-- The members of a record are read from their values. -/
theorem ofJson (h : Fills slots state listed result) :
    listed.foldlM (ofRecordMember slots) state = .ok result := by
  induction h with
  | nil => rfl
  | cons hslot hempty hreads _ ih =>
      rw [List.foldlM_cons, ofRecordMember_eq_ok hslot hempty hreads.ofJson]
      exact ih

/-- The members of a record are read from their text. -/
theorem takes (h : Fills slots state listed result) {depth : Nat}
    (hdepth : ∀ member ∈ listed, member.2.depth ≤ depth) (level : Nat) :
    Takes (scanRecordMember slots depth) level state listed result := by
  induction h with
  | nil state => exact .nil state
  | @cons key slot value fill members state result hslot hempty hreads _ ih =>
      rw [List.forall_mem_cons] at hdepth
      refine .cons (fun rest => ?_) (ih hdepth.2)
      simp only [scanRecordMember, hslot, hempty]
      exact bind_eq (hreads.scan_member hdepth.1 rest) _

end Fills

namespace Reads

/-- An object is read whose members fill the slots of a record. -/
theorem record {slots : List (Slot σ)} {blank state : σ} {finish : σ → Except ShapeFault α}
    {members : List (String × Json)} {meant : α} (name : String)
    (hnodup : (Entries.keys members).Nodup) (hfills : Fills slots blank members state)
    (hfinish : finish state = .ok meant) :
    (Shape.record name slots blank finish).Reads (.object members) meant where
  worded := .object hnodup hfills.worded
  ofJson := by
    exact (bind_eq hfills.ofJson finish).trans hfinish
  scan := by
    intro depth level input rest hdepth hinput
    rw [Writer.pretty_object] at hinput
    obtain ⟨depth, rfl, hdepths⟩ := exists_of_depth_object_le hdepth
    obtain ⟨closing, hmembers, hclosing⟩ :=
      members_body (hfills.takes hdepths level) (length_lt_body_append level members rest) rest
    simp only [Shape.record, hinput]
    refine (bind_eq hmembers _).trans ?_
    -- whether a field is missing is found before the closing brace is read
    simp only [hfinish]
    exact bind_eq hclosing _

/-! ## Whole texts -/

variable {shape : Shape α} {value : Json} {meant : α}

/-- A value is read as what it was written for. -/
theorem ofValue (h : shape.Reads value meant) : shape.ofValue value = .ok meant := by
  rw [Shape.ofValue, h.ofJson]
  rfl

/-- The lines of a value are read as what it was written for, unless it is nested too deep. -/
theorem ofText (h : shape.Reads value meant) (hdepth : value.depth ≤ nestingLimit) :
    shape.ofText (value.prettyText ++ "\n") = .ok meant := by
  have htext := toList_prettyText value
  have hscan : shape.scan nestingLimit (value.prettyText ++ "\n").toList = .ok (meant, ['\n']) := by
    rw [htext]
    exact h.scan hdepth (h.worded.skipBlanks_pretty 0 ['\n'])
  exact Reader.whole_eq hscan rfl

end Reads

end FieldProjection.Json.Shape
