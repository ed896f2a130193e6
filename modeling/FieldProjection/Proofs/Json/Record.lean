import Mathlib.Data.List.Pairwise
import FieldProjection.Json.Shape
import FieldProjection.Proofs.Json.Distinct

/-!
# Records by look-up

A record is read member by member, in the order in which they stand in the object. When no name is
repeated this order does not count: the slots are filled with what the object holds under their
names, and no other name matters (`toOption_ofJson_record`). This holds for slots that do not touch
each other's fields (`Independent`), because the members can then be taken in the order of the
slots.
-/

namespace FieldProjection.Json.Shape

variable {α β ε σ : Type}

/-! ## Outcomes without causes -/

/-- What a function makes of a result. -/
theorem toOption_map (f : α → β) (result : Except ε α) :
    (result.map f).toOption = result.toOption.map f := by
  cases result <;> rfl

/-- What is made of a result is made of what was found. -/
theorem exists_of_map_eq_ok {f : α → β} {result : Except ε α} {value : β}
    (h : result.map f = .ok value) : ∃ found, result = .ok found ∧ f found = value := by
  cases result with
  | error fault => cases h
  | ok found => exact ⟨found, rfl, Except.ok.inj h⟩

/-- One step after the other. -/
theorem toOption_bind (result : Except ε α) (next : α → Except ε β) :
    (result >>= next).toOption = result.toOption.bind fun found => (next found).toOption := by
  cases result <;> rfl

/-- A step for each item. -/
theorem toOption_mapM (step : α → Except ε β) (items : List α) :
    (items.mapM step).toOption = items.mapM fun item => (step item).toOption := by
  induction items with
  | nil => rfl
  | cons item rest ih =>
      rw [List.mapM_cons, List.mapM_cons, toOption_bind, ← ih]
      congr 1
      funext first
      exact toOption_bind _ _

/-- Steps that carry a state on, from item to item. -/
theorem toOption_foldlM (step : σ → α → Except ε σ) (items : List α) (state : σ) :
    (items.foldlM step state).toOption =
      items.foldlM (fun state item => (step state item).toOption) state := by
  induction items generalizing state with
  | nil => rfl
  | cons item rest ih =>
      rw [List.foldlM_cons, List.foldlM_cons, toOption_bind, funext ih]
      rfl

/-- The order of items does not count if any two of them can be exchanged. -/
theorem foldlM_perm {step : σ → α → Option σ} {first second : List α} (h : first.Perm second)
    (hcomm : ∀ item ∈ first, ∀ other ∈ first, ∀ state,
      (step state item).bind (step · other) = (step state other).bind (step · item)) (state : σ) :
    first.foldlM step state = second.foldlM step state := by
  induction h generalizing state with
  | nil => rfl
  | cons item _ ih =>
      have hrest := ih fun first hfirst second hsecond =>
        hcomm first (List.mem_cons_of_mem _ hfirst) second (List.mem_cons_of_mem _ hsecond)
      rw [List.foldlM_cons, List.foldlM_cons, funext hrest]
  | swap item other rest =>
      have hswap := hcomm other List.mem_cons_self item (by simp) state
      simp only [List.foldlM_cons, Option.bind_eq_bind, ← Option.bind_assoc, hswap]
  | trans hfirst _ ih ih' =>
      refine (ih hcomm state).trans (ih' (fun item hitem other hother => ?_) state)
      exact hcomm item (hfirst.mem_iff.mpr hitem) other (hfirst.mem_iff.mpr hother)

/-! ## Parts -/

/-- A number of parts from the items of a list, which may lack the last of them. -/
def itemParts? : Nat → List Json → Option (List (Option Json))
  | 0, [] => some []
  | 0, _ :: _ => none
  | count + 1, [] => (itemParts? count []).map (none :: ·)
  | count + 1, item :: items => (itemParts? count items).map (some item :: ·)

/-- The parts of a record with the given names: what an object holds under them, or the items of a
list in order. -/
def parts? (names : List String) : Json → Option (List (Option Json))
  | .object members => some (names.map fun name => Entries.find? name members)
  | .array items => itemParts? names.length items
  | _ => none

/-- Fills slots with their parts, one after the other. -/
def fillParts : List (Slot σ) → List (Option Json) → σ → Option σ
  | slot :: slots, some part :: parts, state =>
    (slot.shape.ofJson part).toOption.bind fun fill => fillParts slots parts (fill state)
  | _ :: slots, none :: parts, state => fillParts slots parts state
  | _, _, state => some state

@[simp] theorem fillParts_nil (parts : List (Option Json)) (state : σ) :
    fillParts [] parts state = some state := by
  cases parts <;> rfl

/-- An absent part leaves the state. -/
@[simp] theorem fillParts_none (slot : Slot σ) (slots : List (Slot σ))
    (parts : List (Option Json)) (state : σ) :
    fillParts (slot :: slots) (none :: parts) state = fillParts slots parts state :=
  rfl

/-- A part is read, and what was found is set. -/
@[simp] theorem fillParts_map (key : String) (required : Bool) (isFilled : σ → Bool)
    (shape : Shape α) (set : α → σ → σ) (slots : List (Slot σ)) (part : Json)
    (parts : List (Option Json)) (state : σ) :
    fillParts (⟨key, required, isFilled, shape.map set⟩ :: slots) (some part :: parts) state =
      (shape.ofJson part).toOption.bind fun found => fillParts slots parts (set found state) := by
  show ((shape.ofJson part).map set).toOption.bind _ = _
  rw [toOption_map, Option.bind_map]
  rfl

/-- A list has as many parts as it was asked for. -/
theorem length_of_itemParts? {count : Nat} {items : List Json} {parts : List (Option Json)}
    (h : itemParts? count items = some parts) : parts.length = count := by
  induction count generalizing items parts with
  | zero =>
      cases items with
      | nil => exact Option.some.inj h ▸ rfl
      | cons item rest => cases h
  | succ count ih =>
      cases items with
      | nil =>
          obtain ⟨others, hothers, rfl⟩ := Option.map_eq_some_iff.mp h
          exact congrArg Nat.succ (ih hothers)
      | cons item rest =>
          obtain ⟨others, hothers, rfl⟩ := Option.map_eq_some_iff.mp h
          exact congrArg Nat.succ (ih hothers)

/-- The parts of a list are among its items. -/
theorem mem_of_itemParts? {count : Nat} {items : List Json} {parts : List (Option Json)}
    (h : itemParts? count items = some parts) {part : Json} (hpart : some part ∈ parts) :
    part ∈ items := by
  induction count generalizing items parts with
  | zero =>
      cases items with
      | nil =>
          rw [← Option.some.inj h] at hpart
          exact False.elim (List.not_mem_nil hpart)
      | cons item rest => cases h
  | succ count ih =>
      cases items with
      | nil =>
          obtain ⟨others, hothers, rfl⟩ := Option.map_eq_some_iff.mp h
          rcases List.mem_cons.mp hpart with hfirst | hother
          · cases hfirst
          · exact ih hothers hother
      | cons item rest =>
          obtain ⟨others, hothers, rfl⟩ := Option.map_eq_some_iff.mp h
          rcases List.mem_cons.mp hpart with hfirst | hother
          · exact Option.some.inj hfirst ▸ List.mem_cons_self
          · exact List.mem_cons_of_mem _ (ih hothers hother)

/-- A record has as many parts as names. -/
theorem length_of_parts? {names : List String} {value : Json} {parts : List (Option Json)}
    (h : parts? names value = some parts) : parts.length = names.length := by
  cases value with
  | object members => exact Option.some.inj h ▸ List.length_map _
  | array items => exact length_of_itemParts? h
  | _ => cases h

/-- The parts of a value without repeated names have none either. -/
theorem distinct_of_parts? {names : List String} {value part : Json} {parts : List (Option Json)}
    (hvalue : value.Distinct) (h : parts? names value = some parts) (hpart : some part ∈ parts) :
    part.Distinct := by
  cases value with
  | object members =>
      rw [← Option.some.inj h] at hpart
      obtain ⟨name, -, hfind⟩ := List.mem_map.mp hpart
      exact hvalue.of_find? hfind
  | array items => exact hvalue.of_mem_items (mem_of_itemParts? h hpart)
  | _ => cases h

/-! ## Slots -/

/-- Two slots that do not touch each other's fields. -/
structure Slot.Independent (first second : Slot σ) : Prop where
  key_ne : first.key ≠ second.key
  /-- Filling the first slot leaves the second as it was. -/
  keeps {value : Json} {fill : σ → σ} : first.shape.ofJson value = .ok fill →
    ∀ state, second.isFilled (fill state) = second.isFilled state
  /-- Filling the second slot leaves the first as it was. -/
  kept {value : Json} {fill : σ → σ} : second.shape.ofJson value = .ok fill →
    ∀ state, first.isFilled (fill state) = first.isFilled state
  commute {value other : Json} {fill next : σ → σ} : first.shape.ofJson value = .ok fill →
    second.shape.ofJson other = .ok next → ∀ state, next (fill state) = fill (next state)

/-- The order of two slots does not count. -/
theorem Slot.Independent.symm {first second : Slot σ} (h : first.Independent second) :
    second.Independent first where
  key_ne := h.key_ne.symm
  keeps := h.kept
  kept := h.keeps
  commute hvalue hother state := (h.commute hother hvalue state).symm

instance : Std.Symm (Slot.Independent : Slot σ → Slot σ → Prop) := ⟨fun _ _ h => h.symm⟩

/-- Slots that set different fields are independent. -/
theorem Slot.Independent.of_map {first : Shape α} {second : Shape β} {set : α → σ → σ}
    {setOther : β → σ → σ} {key other : String} {required requiredOther : Bool}
    {isFilled isFilledOther : σ → Bool} (hkey : key ≠ other)
    (hkeeps : ∀ value state, isFilledOther (set value state) = isFilledOther state)
    (hkept : ∀ value state, isFilled (setOther value state) = isFilled state)
    (hcommute : ∀ value next state,
      setOther next (set value state) = set value (setOther next state)) :
    Slot.Independent ⟨key, required, isFilled, first.map set⟩
      ⟨other, requiredOther, isFilledOther, second.map setOther⟩ where
  key_ne := hkey
  keeps := by
    intro value fill h state
    obtain ⟨found, -, rfl⟩ := exists_of_map_eq_ok h
    exact hkeeps found state
  kept := by
    intro value fill h state
    obtain ⟨found, -, rfl⟩ := exists_of_map_eq_ok h
    exact hkept found state
  commute := by
    intro value other fill next h hother state
    obtain ⟨found, -, rfl⟩ := exists_of_map_eq_ok h
    obtain ⟨after, -, rfl⟩ := exists_of_map_eq_ok hother
    exact hcommute found after state

/-- Three slots are independent if any two of them are. -/
theorem Slot.pairwise_independent {first second third : Slot σ} (hsecond : first.Independent second)
    (hthird : first.Independent third) (hlast : second.Independent third) :
    [first, second, third].Pairwise Slot.Independent :=
  .cons (List.forall_mem_cons.mpr ⟨hsecond, List.forall_mem_singleton.mpr hthird⟩)
    (List.pairwise_pair.mpr hlast)

/-- A record whose slots are independent and empty at first, and which is not finished while one of
them is empty that is required. -/
structure LawfulRecord (slots : List (Slot σ)) (blank : σ) (finish : σ → Except ShapeFault α) :
    Prop where
  independent : slots.Pairwise Slot.Independent
  blank : ∀ slot ∈ slots, slot.isFilled blank = false
  missed : ∀ slot ∈ slots, slot.required = true → ∀ state, slot.isFilled state = false →
    (finish state).toOption = none

section

variable {slots : List (Slot σ)} {slot : Slot σ}

/-- A slot is found by its key. -/
theorem slot?_key (hslots : slots.Pairwise Slot.Independent) (hmem : slot ∈ slots) :
    slot? slots slot.key = some slot := by
  induction slots with
  | nil => exact False.elim (List.not_mem_nil hmem)
  | cons first rest ih =>
      rw [List.pairwise_cons] at hslots
      rcases List.mem_cons.mp hmem with rfl | hrest
      · simp [slot?]
      · have hother := ih hslots.2 hrest
        rw [slot?] at hother ⊢
        rw [List.find?_cons_of_neg (by simpa using (hslots.1 slot hrest).key_ne), hother]

/-- A slot that is found has the key. -/
theorem key_of_slot? {key : String} (h : slot? slots key = some slot) :
    slot ∈ slots ∧ slot.key = key :=
  ⟨List.mem_of_find?_eq_some h, by simpa using List.find?_some h⟩

/-- A name that is no key has no slot. -/
theorem slot?_eq_none {key : String} (h : key ∉ slots.map Slot.key) : slot? slots key = none := by
  refine List.find?_eq_none.mpr fun slot hmem heq => h ?_
  exact List.mem_map.mpr ⟨slot, hmem, of_decide_eq_true heq⟩

/-- What a member of a record makes of the state. -/
def fillMember (slots : List (Slot σ)) (state : σ) (member : String × Json) : Option σ :=
  (ofRecordMember slots state member).toOption

/-- A member without a slot is passed over. -/
theorem fillMember_of_none {member : String × Json} (h : slot? slots member.1 = none) (state : σ) :
    fillMember slots state member = some state := by
  simp only [fillMember, ofRecordMember, h]
  rfl

/-- A member with a slot fills it, if it is empty. -/
theorem fillMember_of_some {member : String × Json} (h : slot? slots member.1 = some slot)
    (state : σ) :
    fillMember slots state member =
      if slot.isFilled state then none
      else (slot.shape.ofJson member.2).toOption.map fun fill => fill state := by
  simp only [fillMember, ofRecordMember, h]
  split
  · rfl
  · exact toOption_map _ _

/-- Two members with different names can be exchanged. -/
theorem fillMember_comm (hslots : slots.Pairwise Slot.Independent) {first second : String × Json}
    (hne : first.1 ≠ second.1) (state : σ) :
    (fillMember slots state first).bind (fillMember slots · second) =
      (fillMember slots state second).bind (fillMember slots · first) := by
  cases hfirst : slot? slots first.1 with
  | none =>
      have hskip := fillMember_of_none hfirst
      rw [hskip, Option.bind_some]
      cases fillMember slots state second with
      | none => rfl
      | some next => exact (hskip next).symm
  | some slot =>
      cases hsecond : slot? slots second.1 with
      | none =>
          have hskip := fillMember_of_none hsecond
          rw [hskip, Option.bind_some]
          cases fillMember slots state first with
          | none => rfl
          | some next => exact hskip next
      | some other =>
          obtain ⟨hslot, hkey⟩ := key_of_slot? hfirst
          obtain ⟨hother, hotherKey⟩ := key_of_slot? hsecond
          have hslotNe : slot ≠ other := by
            intro heq
            rw [← hkey, ← hotherKey, heq] at hne
            exact hne rfl
          have hind : slot.Independent other := hslots.forall hslot hother hslotNe
          simp only [fillMember_of_some hfirst, fillMember_of_some hsecond]
          cases hvalue : slot.shape.ofJson first.2 with
          | error _ => cases other.shape.ofJson second.2 <;> simp [Except.toOption]
          | ok fill =>
              cases hnext : other.shape.ofJson second.2 with
              | error _ => simp [Except.toOption]
              | ok next =>
                  have hkeeps := hind.keeps hvalue state
                  have hkept := hind.kept hnext state
                  have hcommute := hind.commute hvalue hnext state
                  cases hfilled : slot.isFilled state <;>
                    cases hotherFilled : other.isFilled state <;>
                    simp_all [Except.toOption]

/-! ## Objects -/

/-- Members without repeated names can be taken in the order of some names, then the others. -/
theorem perm_known_append_unknown {names : List String} (hnames : names.Nodup)
    {members : Entries Json} (hnodup : members.keys.Nodup) :
    members.Perm ((names.filterMap fun name => (members.find? name).map fun part => (name, part)) ++
      members.filter fun member => member.1 ∉ names) := by
  have hknown : ∀ member : String × Json, member ∈ (names.filterMap fun name =>
      (members.find? name).map fun part => (name, part)) ↔ member ∈ members ∧ member.1 ∈ names := by
    intro ⟨key, value⟩
    simp only [List.mem_filterMap, Option.map_eq_some_iff, Prod.mk.injEq]
    constructor
    · rintro ⟨name, hname, part, hpart, rfl, rfl⟩
      exact ⟨Entries.mem_of_find? hpart, hname⟩
    · rintro ⟨hmem, hname⟩
      exact ⟨key, hname, value, Entries.find?_of_mem hnodup hmem, rfl, rfl⟩
  refine (List.perm_ext_iff_of_nodup hnodup.of_map (List.nodup_append.mpr ⟨?_, ?_, ?_⟩)).mpr ?_
  · refine hnames.filterMap fun first second member hfirst hsecond => ?_
    obtain ⟨_, _, rfl⟩ := Option.map_eq_some_iff.mp hfirst
    obtain ⟨_, _, heq⟩ := Option.map_eq_some_iff.mp hsecond
    exact (congrArg Prod.fst heq).symm
  · exact hnodup.of_map.filter _
  · intro first hfirst second hsecond heq
    have hout : second.1 ∉ names := of_decide_eq_true (List.mem_filter.mp hsecond).2
    exact hout (heq ▸ ((hknown first).mp hfirst).2)
  · intro member
    by_cases hname : member.1 ∈ names <;> simp [hknown, hname]

/-- Members that stand in the order of the slots fill them with their parts. -/
theorem foldlM_fillMember (hslots : slots.Pairwise Slot.Independent) (members : Entries Json)
    {rest : List (Slot σ)} (hsublist : rest.Sublist slots) {state : σ}
    (hempty : ∀ slot ∈ rest, slot.isFilled state = false) :
    ((rest.map Slot.key).filterMap fun name =>
        (members.find? name).map fun part => (name, part)).foldlM
          (fillMember slots) state =
      fillParts rest ((rest.map Slot.key).map fun name => members.find? name) state := by
  induction rest generalizing state with
  | nil => rfl
  | cons slot more ih =>
      rw [List.forall_mem_cons] at hempty
      have hmore : more.Sublist slots := (List.sublist_cons_self slot more).trans hsublist
      rw [List.map_cons, List.filterMap_cons, List.map_cons]
      cases hpart : members.find? slot.key with
      | none => exact ih hmore hempty.2
      | some part =>
          have hslot : slot? slots slot.key = some slot :=
            slot?_key hslots (hsublist.subset List.mem_cons_self)
          have hfill : fillMember slots state (slot.key, part) =
              (slot.shape.ofJson part).toOption.map fun fill => fill state := by
            rw [fillMember_of_some hslot, if_neg (by simp [hempty.1])]
          simp only [Option.map_some, List.foldlM_cons, hfill, fillParts]
          cases hvalue : slot.shape.ofJson part with
          | error _ => rfl
          | ok fill =>
              have hind := (List.pairwise_cons.mp (hslots.sublist hsublist)).1
              refine ih hmore fun other hother => ?_
              rw [(hind other hother).keeps hvalue, hempty.2 other hother]

/-- The members of an object do to the state what the parts under the keys of the slots do. -/
theorem toOption_foldlM_ofRecordMember (hslots : slots.Pairwise Slot.Independent) {state : σ}
    (hempty : ∀ slot ∈ slots, slot.isFilled state = false) {members : Entries Json}
    (hnodup : members.keys.Nodup) :
    (members.foldlM (ofRecordMember slots) state).toOption =
      fillParts slots ((slots.map Slot.key).map fun name => members.find? name) state := by
  have hkeys : (slots.map Slot.key).Nodup := by
    rw [List.nodup_iff_pairwise_ne, List.pairwise_map]
    exact hslots.imp fun h => h.key_ne
  have hothers : ∀ (others : Entries Json) (state : σ),
      (∀ member ∈ others, member.1 ∉ slots.map Slot.key) →
        others.foldlM (fillMember slots) state = some state := by
    intro others state hothers
    induction others with
    | nil => rfl
    | cons member rest ih =>
        rw [List.forall_mem_cons] at hothers
        rw [List.foldlM_cons, fillMember_of_none (slot?_eq_none hothers.1)]
        exact ih hothers.2
  rw [toOption_foldlM]
  show members.foldlM (fillMember slots) state = _
  refine (foldlM_perm (perm_known_append_unknown hkeys hnodup) ?_ state).trans ?_
  · intro member hmem other hother state
    by_cases hsame : member.1 = other.1
    · -- members of one name are the same member
      have hvalue : some member.2 = some other.2 := by
        rw [← Entries.find?_of_mem hnodup hmem, ← Entries.find?_of_mem hnodup hother, hsame]
      rw [Prod.ext hsame (Option.some.inj hvalue)]
    · exact fillMember_comm hslots hsame state
  · rw [List.foldlM_append, foldlM_fillMember hslots members (List.Sublist.refl slots) hempty]
    cases fillParts slots _ state with
    | none => rfl
    | some next =>
        exact hothers _ next fun member hmem => of_decide_eq_true (List.mem_filter.mp hmem).2

/-! ## Lists -/

/-- The parts from no items are all absent, so they leave the state. -/
theorem fillParts_itemParts?_nil (slots : List (Slot σ)) (state : σ) :
    (itemParts? slots.length []).bind (fillParts slots · state) = some state := by
  induction slots with
  | nil => rfl
  | cons slot rest ih =>
      rw [List.length_cons, itemParts?, Option.bind_map]
      exact ih

/-- The items of a list do to the state what they do as parts, in a record that is finished. -/
theorem toOption_ofRecordItems {finish : σ → Except ShapeFault α} (name : String) (count : Nat)
    (hslots : slots.Pairwise Slot.Independent) {state : σ}
    (hempty : ∀ slot ∈ slots, slot.isFilled state = false)
    (hmissed : ∀ slot ∈ slots, slot.required = true → ∀ state, slot.isFilled state = false →
      (finish state).toOption = none) (index : Nat) (items : List Json) :
    (ofRecordItems name count slots index items state >>= finish).toOption =
      ((itemParts? slots.length items).bind (fillParts slots · state)).bind
        fun state => (finish state).toOption := by
  induction slots generalizing index items state with
  | nil =>
      cases items with
      | nil => rfl
      | cons item rest => rfl
  | cons slot rest ih =>
      rw [List.pairwise_cons] at hslots
      rw [List.forall_mem_cons] at hempty hmissed
      cases items with
      | nil =>
          rw [fillParts_itemParts?_nil, Option.bind_some, ofRecordItems]
          split
          · next hrequired => exact (hmissed.1 hrequired state hempty.1).symm
          · rw [ih hslots.2 hempty.2 hmissed.2, fillParts_itemParts?_nil, Option.bind_some]
      | cons item items =>
          rw [ofRecordItems, List.length_cons, itemParts?, Option.bind_map]
          cases hvalue : slot.shape.ofJson item with
          | error _ =>
              cases itemParts? rest.length items with
              | none => rfl
              | some parts =>
                  rw [Option.bind_some, Function.comp_apply, fillParts, hvalue]
                  rfl
          | ok fill =>
              have hfilled : ∀ other ∈ rest, other.isFilled (fill state) = false := by
                intro other hother
                rw [(hslots.1 other hother).keeps hvalue, hempty.2 other hother]
              have hparts : ∀ parts, fillParts (slot :: rest) (some item :: parts) state =
                  fillParts rest parts (fill state) := by
                intro parts
                rw [fillParts, hvalue]
                rfl
              refine (ih hslots.2 hfilled hmissed.2 (index + 1) items).trans ?_
              exact congrArg (Option.bind · _)
                (congrArg ((itemParts? rest.length items).bind ·) (funext hparts).symm)

end

/-- A record without repeated names is read by its parts, whatever their order. -/
theorem toOption_ofJson_record {slots : List (Slot σ)} {blank : σ}
    {finish : σ → Except ShapeFault α} (h : LawfulRecord slots blank finish) (name : String)
    {value : Json} (hvalue : value.Distinct) :
    ((record name slots blank finish).ofJson value).toOption =
      ((parts? (slots.map Slot.key) value).bind (fillParts slots · blank)).bind
        fun state => (finish state).toOption := by
  cases value with
  | object members =>
      show (members.foldlM (ofRecordMember slots) blank >>= finish).toOption = _
      rw [toOption_bind, toOption_foldlM_ofRecordMember h.independent h.blank hvalue.nodup]
      rfl
  | array items =>
      have hitems := toOption_ofRecordItems name slots.length h.independent h.blank h.missed 0 items
      rw [parts?, List.length_map]
      exact hitems
  | _ => rfl

end FieldProjection.Json.Shape
