import FieldProjection.Proofs.Json.Record
import FieldProjection.Proofs.Json.Written
import FieldProjection.Proofs.Loops

/-!
# Laws of shapes

Laws for each way to build a shape. Shapes of nested data differ in how deep they look and agree on
values that are less deep (`AgreeBelow`). What is read has any property that each step of the
reading keeps (`exists_finish_of_ofJson_record`). A value may be read as another one (`ReadsAs`): a
record does not notice members without a slot, nor members that say what holds without them.
-/

namespace FieldProjection.Json.Shape

variable {α β σ : Type}

/-! ## Shapes that look to some depth -/

/-- Two shapes read every value alike that is less deep than `depth`. -/
def AgreeBelow (depth : Nat) (first second : Shape α) : Prop :=
  ∀ value : Json, value.depth < depth → first.ofJson value = second.ofJson value

/-- Two slots differ in their shapes at most, which read values alike that are less deep than
`depth`. -/
structure Slot.AgreeBelow (depth : Nat) (first second : Slot σ) : Prop where
  key : first.key = second.key
  required : first.required = second.required
  isFilled : first.isFilled = second.isFilled
  shape : first.shape.AgreeBelow depth second.shape

/-- A slot agrees with itself. -/
theorem Slot.AgreeBelow.refl (depth : Nat) (slot : Slot σ) : slot.AgreeBelow depth slot :=
  ⟨rfl, rfl, rfl, fun _ _ => rfl⟩

namespace AgreeBelow

variable {depth : Nat} {first second : Shape α}

theorem mono (h : first.AgreeBelow depth second) {less : Nat} (hle : less ≤ depth) :
    first.AgreeBelow less second :=
  fun value hvalue => h value (Nat.lt_of_lt_of_le hvalue hle)

theorem map (f : α → β) (h : first.AgreeBelow depth second) :
    (first.map f).AgreeBelow depth (second.map f) :=
  fun value hvalue => congrArg (Except.map f) (h value hvalue)

/-- The values in an object are less deep than the object. -/
theorem entries (h : first.AgreeBelow depth second) :
    first.entries.AgreeBelow (depth + 1) second.entries := by
  intro value hvalue
  cases value with
  | object members =>
      have hmembers : members.mapM first.ofMember = members.mapM second.ofMember := by
        refine Loop.mapM_congr fun member hmem => ?_
        have hdepth := Nat.lt_of_lt_of_le (depth_lt_of_mem hmem) (Nat.le_of_lt_succ hvalue)
        rw [ofMember, ofMember, h member.2 hdepth]
      exact congrArg (Except.map Entries.ofList) hmembers
  | _ => rfl

section

variable {slots others : List (Slot σ)}

/-- Slots that agree are found under the same names. -/
theorem rel_slot? (h : List.Forall₂ (Slot.AgreeBelow depth) slots others) (key : String) :
    Option.Rel (Slot.AgreeBelow depth) (slot? slots key) (slot? others key) := by
  induction h with
  | nil => exact .none
  | @cons slot other slots others hslot _ ih =>
      rw [slot?, slot?, List.find?_cons, List.find?_cons, hslot.key]
      split
      · exact .some hslot
      · exact ih

/-- Slots that agree make the same of a member. -/
theorem ofRecordMember (h : List.Forall₂ (Slot.AgreeBelow depth) slots others) (state : σ)
    {member : String × Json} (hmember : member.2.depth < depth) :
    ofRecordMember slots state member = ofRecordMember others state member := by
  unfold Shape.ofRecordMember
  have hfound := rel_slot? h member.1
  generalize slot? slots member.1 = found, slot? others member.1 = other at hfound
  cases hfound with
  | none => rfl
  | some hslot => simp only [hslot.isFilled, hslot.shape member.2 hmember]

/-- Slots that agree make the same of items. -/
theorem ofRecordItems (name : String) (count : Nat)
    (h : List.Forall₂ (Slot.AgreeBelow depth) slots others) (index : Nat) {items : List Json}
    (hitems : ∀ item ∈ items, item.depth < depth) (state : σ) :
    ofRecordItems name count slots index items state =
      ofRecordItems name count others index items state := by
  induction h generalizing index items state with
  | nil => rfl
  | cons hslot _ ih =>
      cases items with
      | nil =>
          rw [Shape.ofRecordItems, Shape.ofRecordItems, hslot.required]
          split
          · rfl
          · exact ih index hitems state
      | cons item rest =>
          rw [List.forall_mem_cons] at hitems
          rw [Shape.ofRecordItems, Shape.ofRecordItems, hslot.shape item hitems.1]
          exact congrArg (_ >>= ·) (funext fun fill => ih (index + 1) hitems.2 (fill state))

/-- The members and items of a record are less deep than the record. -/
theorem record (name : String) (h : List.Forall₂ (Slot.AgreeBelow depth) slots others) (blank : σ)
    (finish : σ → Except ShapeFault α) :
    (record name slots blank finish).AgreeBelow (depth + 1) (record name others blank finish) := by
  intro value hvalue
  cases value with
  | object members =>
      have hmembers : members.foldlM (Shape.ofRecordMember slots) blank =
          members.foldlM (Shape.ofRecordMember others) blank :=
        Loop.foldlM_congr (fun member hmem state => ofRecordMember h state
          (Nat.lt_of_lt_of_le (depth_lt_of_mem hmem) (Nat.le_of_lt_succ hvalue))) blank
      exact congrArg (· >>= finish) hmembers
  | array items =>
      have hitems : ∀ item ∈ items, item.depth < depth := fun item hmem =>
        Nat.lt_of_lt_of_le (depth_lt_of_mem_items hmem) (Nat.le_of_lt_succ hvalue)
      have hcount := h.length_eq
      show (Shape.ofRecordItems name slots.length slots 0 items blank >>= finish) =
        (Shape.ofRecordItems name others.length others 0 items blank >>= finish)
      rw [hcount, ofRecordItems name _ h 0 hitems]
  | _ => rfl

end

end AgreeBelow

/-! ## What is read -/

/-- An object whose names are data is read as entries that repeat no name, each read of a value. -/
theorem of_ofJson_entries {shape : Shape α} {value : Json} {found : Entries α}
    (h : shape.entries.ofJson value = .ok found) :
    found.keys.Nodup ∧ ∀ entry ∈ found, ∃ inner, shape.ofJson inner = .ok entry.2 := by
  cases value with
  | object members =>
      obtain ⟨listed, hlisted, rfl⟩ := exists_of_map_eq_ok h
      refine ⟨Entries.nodup_keys_ofList listed, fun entry hmem => ?_⟩
      have hentry : entry ∈ listed :=
        (Entries.mem_of_mem_insertAll hmem).resolve_left List.not_mem_nil
      obtain ⟨member, -, hmember⟩ := Loop.exists_of_mapM_eq_ok hlisted hentry
      obtain ⟨found, hfound, heq⟩ := Loop.bind_eq_ok_iff.mp hmember
      obtain rfl := Except.ok.inj heq
      exact ⟨member.2, hfound⟩
  | _ => cases h

section

variable {slots : List (Slot σ)} {blank : σ} {finish : σ → Except ShapeFault α} {name : String}
  {holds : σ → Prop}

/-- Reading the items of a record keeps what every slot keeps. -/
theorem ofRecordItems_preserves {count index : Nat} {items : List Json} {state final : σ}
    (h : ofRecordItems name count slots index items state = .ok final)
    (hfill : ∀ slot ∈ slots, ∀ {part : Json} {fill : σ → σ}, slot.shape.ofJson part = .ok fill →
      ∀ state, holds state → holds (fill state))
    (hstate : holds state) : holds final := by
  induction slots generalizing index items state with
  | nil =>
      rw [ofRecordItems] at h
      split at h
      · exact Except.ok.inj h ▸ hstate
      · cases h
  | cons slot rest ih =>
      rw [List.forall_mem_cons] at hfill
      cases items with
      | nil =>
          rw [ofRecordItems] at h
          split at h
          · cases h
          · exact ih h hfill.2 hstate
      | cons item items =>
          obtain ⟨fill, hitem, hrest⟩ := Loop.bind_eq_ok_iff.mp h
          exact ih hrest hfill.2 (hfill.1 hitem state hstate)

/-- A record is made of a state with the properties that every slot keeps. -/
theorem exists_finish_of_ofJson_record {value : Json} {meant : α}
    (h : (record name slots blank finish).ofJson value = .ok meant) (hblank : holds blank)
    (hfill : ∀ slot ∈ slots, ∀ {part : Json} {fill : σ → σ}, slot.shape.ofJson part = .ok fill →
      ∀ state, holds state → holds (fill state)) :
    ∃ state, holds state ∧ finish state = .ok meant := by
  cases value with
  | object members =>
      obtain ⟨state, hstate, hfinish⟩ := Loop.bind_eq_ok_iff.mp h
      refine ⟨state, Loop.foldlM_preserves (fun hmember hbefore => ?_) hstate hblank, hfinish⟩
      unfold ofRecordMember at hmember
      split at hmember
      · exact Except.ok.inj hmember ▸ hbefore
      · next slot hslot =>
          split at hmember
          · cases hmember
          · obtain ⟨fill, hpart, rfl⟩ := exists_of_map_eq_ok hmember
            exact hfill slot (key_of_slot? hslot).1 hpart _ hbefore
  | array items =>
      obtain ⟨state, hstate, hfinish⟩ := Loop.bind_eq_ok_iff.mp h
      exact ⟨state, ofRecordItems_preserves hstate hfill hblank, hfinish⟩
  | _ => cases h

end

/-! ## Values that are read alike -/

/-- A shape that reads a value reads the other one as the same. -/
def ReadsAs (shape : Shape α) (value other : Json) : Prop :=
  ∀ meant, shape.ofJson value = .ok meant → shape.ofJson other = .ok meant

namespace ReadsAs

variable {shape : Shape α} {value other : Json} {front back : List (String × Json)} {key : String}

theorem map (f : α → β) (h : shape.ReadsAs value other) : (shape.map f).ReadsAs value other := by
  intro meant hmeant
  obtain ⟨found, hfound, rfl⟩ := exists_of_map_eq_ok hmeant
  exact congrArg (Except.map f) (h found hfound)

/-- An object whose names are data is read alike if the value under one name is. -/
theorem entries (h : shape.ReadsAs value other) :
    shape.entries.ReadsAs (.object (front ++ (key, value) :: back))
      (.object (front ++ (key, other) :: back)) := by
  intro meant hmeant
  obtain ⟨listed, hlisted, rfl⟩ := exists_of_map_eq_ok hmeant
  refine congrArg (Except.map Entries.ofList) (Loop.mapM_replace (fun entry hentry => ?_) hlisted)
  obtain ⟨found, hfound, hpair⟩ := Loop.bind_eq_ok_iff.mp hentry
  exact Loop.bind_eq_ok_iff.mpr ⟨found, h found hfound, hpair⟩

section

variable {slots : List (Slot σ)} {slot : Slot σ} {blank : σ} {finish : σ → Except ShapeFault α}
  {name : String}

/-- A record is read alike if the value under the name of a slot is. -/
theorem record_member (hslot : slot? slots key = some slot) (h : slot.shape.ReadsAs value other) :
    (record name slots blank finish).ReadsAs (.object (front ++ (key, value) :: back))
      (.object (front ++ (key, other) :: back)) := by
  intro meant hmeant
  obtain ⟨final, hfinal, hfinish⟩ := Loop.bind_eq_ok_iff.mp hmeant
  obtain ⟨state, next, hfront, hmember, hback⟩ := Loop.foldlM_append_cons_eq_ok_iff.mp hfinal
  refine Loop.bind_eq_ok_iff.mpr ⟨final, Loop.foldlM_append_cons_eq_ok_iff.mpr
    ⟨state, next, hfront, ?_, hback⟩, hfinish⟩
  simp only [ofRecordMember, hslot] at hmember ⊢
  split at hmember
  · cases hmember
  · next hempty =>
      obtain ⟨fill, hfill, rfl⟩ := exists_of_map_eq_ok hmember
      rw [if_neg hempty, h fill hfill]
      rfl

/-- A record does not notice a member without a slot. -/
theorem record_unknown (hslot : slot? slots key = none) :
    (record name slots blank finish).ofJson (.object (front ++ (key, value) :: back)) =
      (record name slots blank finish).ofJson (.object (front ++ back)) := by
  have hskip : ∀ state, ofRecordMember slots state (key, value) = .ok state := by
    intro state
    simp only [ofRecordMember, hslot]
  show ((front ++ (key, value) :: back).foldlM (ofRecordMember slots) blank >>= finish) =
    ((front ++ back).foldlM (ofRecordMember slots) blank >>= finish)
  rw [List.foldlM_append, List.foldlM_append]
  refine congrArg (fun behind =>
    List.foldlM (ofRecordMember slots) blank front >>= behind >>= finish) (funext fun state => ?_)
  rw [List.foldlM_cons, hskip]
  rfl

/-- Members that are read with a slot filled are read without it, and then it is left to fill. -/
theorem exists_unfilled {members : List (String × Json)} {fill : σ → σ} {state final : σ}
    (hslots : slots.Pairwise Slot.Independent) (hslot : slot ∈ slots)
    (hvalue : slot.shape.ofJson value = .ok fill)
    (hfilled : ∀ state, slot.isFilled (fill state) = true) (hempty : slot.isFilled state = false)
    (h : members.foldlM (ofRecordMember slots) (fill state) = .ok final) :
    ∃ rest, members.foldlM (ofRecordMember slots) state = .ok rest ∧ fill rest = final ∧
      slot.isFilled rest = false := by
  induction members generalizing state with
  | nil => exact ⟨state, rfl, Except.ok.inj h, hempty⟩
  | cons member more ih =>
      rw [List.foldlM_cons] at h
      obtain ⟨next, hmember, hmore⟩ := Loop.bind_eq_ok_iff.mp h
      simp only [List.foldlM_cons]
      cases hfound : slot? slots member.1 with
      | none =>
          simp only [ofRecordMember, hfound] at hmember ⊢
          obtain rfl := Except.ok.inj hmember
          exact ih hempty hmore
      | some found =>
          simp only [ofRecordMember, hfound] at hmember ⊢
          split at hmember
          · cases hmember
          · next hother =>
              -- the member fills another slot, because this one is filled
              have hne : slot ≠ found := by
                rintro rfl
                exact hother (hfilled state)
              have hind : slot.Independent found :=
                hslots.forall hslot (key_of_slot? hfound).1 hne
              obtain ⟨step, hstep, rfl⟩ := exists_of_map_eq_ok hmember
              have hcommute := hind.commute hvalue hstep state
              rw [hcommute] at hmore
              rw [← hind.keeps hvalue state, if_neg hother, hstep]
              exact ih ((hind.kept hstep state).trans hempty) hmore

/-- A record does not notice a member that is missing, if its slot may stay empty and stands for the
member's value then. -/
theorem record_default (hslots : slots.Pairwise Slot.Independent)
    (hslot : slot? slots key = some slot) {fill : σ → σ}
    (hvalue : slot.shape.ofJson value = .ok fill)
    (hfilled : ∀ state, slot.isFilled (fill state) = true)
    (hdefault : ∀ state, slot.isFilled state = false → finish (fill state) = finish state) :
    (record name slots blank finish).ReadsAs (.object (front ++ (key, value) :: back))
      (.object (front ++ back)) := by
  intro meant hmeant
  obtain ⟨final, hfinal, hfinish⟩ := Loop.bind_eq_ok_iff.mp hmeant
  obtain ⟨state, next, hfront, hmember, hback⟩ := Loop.foldlM_append_cons_eq_ok_iff.mp hfinal
  simp only [ofRecordMember, hslot] at hmember
  split at hmember
  · cases hmember
  · next hempty =>
      rw [hvalue] at hmember
      obtain rfl := Except.ok.inj hmember
      obtain ⟨rest, hrest, rfl, hunfilled⟩ := exists_unfilled hslots (key_of_slot? hslot).1 hvalue
        hfilled (Bool.eq_false_iff.mpr hempty) hback
      refine Loop.bind_eq_ok_iff.mpr ⟨rest, ?_, (hdefault rest hunfilled).symm.trans hfinish⟩
      rw [List.foldlM_append, hfront]
      exact hrest

end

end ReadsAs

end FieldProjection.Json.Shape
