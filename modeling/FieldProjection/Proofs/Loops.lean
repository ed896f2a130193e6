import Mathlib.Data.List.Forall2
import Mathlib.Data.List.Induction

/-!
# Loops that may fail

Lists are worked through by steps that may fail, either one by one (`mapM`) or with a state that
they carry on (`foldlM`). The first step that fails ends the loop with its fault.
-/

namespace FieldProjection.Loop

variable {α β ε σ : Type}

/-- A step after another gives a result if both do. -/
theorem bind_eq_ok_iff {result : Except ε α} {next : α → Except ε β} {value : β} :
    (result >>= next) = .ok value ↔ ∃ found, result = .ok found ∧ next found = .ok value := by
  constructor
  · intro h
    cases result with
    | error fault => cases h
    | ok found => exact ⟨found, rfl, h⟩
  · rintro ⟨found, rfl, h⟩
    exact h

/-- Another type of faults makes no difference to a result. -/
theorem mapError_eq_ok_iff {ε' : Type} {f : ε → ε'} {result : Except ε α} {value : α} :
    result.mapError f = .ok value ↔ result = .ok value := by
  cases result with
  | error fault => exact ⟨fun h => (by cases h), fun h => (by cases h)⟩
  | ok found => exact ⟨fun h => congrArg Except.ok (Except.ok.inj h), fun h => h ▸ rfl⟩

/-! ## Items one by one -/

section

variable {step other : α → Except ε β} {items front back : List α} {item : α} {results : List β}

/-- A loop has the result of its first step and those of the others. -/
theorem mapM_cons_eq_ok_iff :
    (item :: items).mapM step = .ok results ↔
      ∃ result others, step item = .ok result ∧ items.mapM step = .ok others ∧
        result :: others = results := by
  rw [List.mapM_cons, bind_eq_ok_iff]
  refine exists_congr fun result => ?_
  rw [bind_eq_ok_iff, ← exists_and_left]
  exact exists_congr fun others => and_congr_right fun _ => and_congr_right fun _ =>
    ⟨Except.ok.inj, congrArg Except.ok⟩

/-- A loop gives the results of its steps. -/
theorem mapM_eq_ok_iff :
    items.mapM step = .ok results ↔
      List.Forall₂ (fun item result => step item = .ok result) items results := by
  induction items generalizing results with
  | nil =>
      rw [List.forall₂_nil_left_iff]
      exact ⟨fun h => (Except.ok.inj h).symm, fun h => h ▸ rfl⟩
  | cons item rest ih =>
      rw [mapM_cons_eq_ok_iff, List.forall₂_cons_left_iff]
      refine exists_congr fun result => exists_congr fun others => and_congr_right fun _ => ?_
      exact and_congr ih eq_comm

/-- Every result of a loop is that of one of its items. -/
theorem exists_of_mapM_eq_ok (h : items.mapM step = .ok results) {result : β}
    (hmem : result ∈ results) : ∃ item ∈ items, step item = .ok result := by
  induction items generalizing results with
  | nil =>
      obtain rfl := Except.ok.inj h
      cases hmem
  | cons item rest ih =>
      obtain ⟨first, others, hitem, hrest, rfl⟩ := mapM_cons_eq_ok_iff.mp h
      rcases List.mem_cons.mp hmem with rfl | hother
      · exact ⟨item, List.mem_cons_self, hitem⟩
      · obtain ⟨found, hfound, hstep⟩ := ih hrest hother
        exact ⟨found, List.mem_cons_of_mem item hfound, hstep⟩

/-- A loop may work on another item in the place of one, if that has the same result. -/
theorem mapM_replace {replaced : α}
    (hitem : ∀ result, step item = .ok result → step replaced = .ok result)
    (h : (front ++ item :: back).mapM step = .ok results) :
    (front ++ replaced :: back).mapM step = .ok results := by
  induction front generalizing results with
  | nil =>
      obtain ⟨result, others, hfirst, hothers⟩ := mapM_cons_eq_ok_iff.mp h
      exact mapM_cons_eq_ok_iff.mpr ⟨result, others, hitem result hfirst, hothers⟩
  | cons first rest ih =>
      obtain ⟨result, others, hfirst, hothers, heq⟩ := mapM_cons_eq_ok_iff.mp h
      exact mapM_cons_eq_ok_iff.mpr ⟨result, others, hfirst, ih hothers, heq⟩

/-- Loops with the same steps on their items have the same results. -/
theorem mapM_congr (h : ∀ item ∈ items, step item = other item) :
    items.mapM step = items.mapM other := by
  induction items with
  | nil => rfl
  | cons item rest ih =>
      rw [List.forall_mem_cons] at h
      rw [List.mapM_cons, List.mapM_cons, h.1, ih h.2]

end

/-! ## Items with a state -/

section

variable {step other : σ → α → Except ε σ} {items front back : List α} {item : α}
  {start final : σ}

/-- A loop with an item in the middle goes through the states in front of it and behind it. -/
theorem foldlM_append_cons_eq_ok_iff :
    (front ++ item :: back).foldlM step start = .ok final ↔
      ∃ state next, front.foldlM step start = .ok state ∧ step state item = .ok next ∧
        back.foldlM step next = .ok final := by
  rw [List.foldlM_append, bind_eq_ok_iff]
  refine exists_congr fun state => ?_
  rw [exists_and_left, List.foldlM_cons, bind_eq_ok_iff]

/-- Loops with the same steps on their items end in the same state. -/
theorem foldlM_congr (h : ∀ item ∈ items, ∀ state, step state item = other state item)
    (start : σ) : items.foldlM step start = items.foldlM other start := by
  induction items generalizing start with
  | nil => rfl
  | cons item rest ih =>
      rw [List.forall_mem_cons] at h
      rw [List.foldlM_cons, List.foldlM_cons, h.1, funext (ih h.2)]

/-- A loop keeps what each step keeps. -/
theorem foldlM_preserves {holds : σ → Prop}
    (hstep : ∀ {state item next}, step state item = .ok next → holds state → holds next)
    (h : items.foldlM step start = .ok final) (hstart : holds start) : holds final := by
  induction items generalizing start with
  | nil => exact Except.ok.inj h ▸ hstart
  | cons item rest ih =>
      rw [List.foldlM_cons] at h
      obtain ⟨next, hnext, hrest⟩ := bind_eq_ok_iff.mp h
      exact ih hrest (hstep hnext hstart)

variable {good : List α → Prop}

/-- A loop builds what belongs to a good list if its steps do so for every good beginning. -/
theorem foldlM_eq_ok (built : List α → σ)
    (hstep : ∀ front item, good (front ++ [item]) →
      good front ∧ step (built front) item = .ok (built (front ++ [item])))
    {items : List α} (h : good items) : items.foldlM step (built []) = .ok (built items) := by
  induction items using List.reverseRecOn with
  | nil => rfl
  | append_singleton front item ih =>
      obtain ⟨hfront, hitem⟩ := hstep front item h
      rw [List.foldlM_append, ih hfront]
      show [item].foldlM step (built front) = _
      rw [List.foldlM_cons, hitem]
      rfl

/-- A loop ends with the fault of the first item that is refused. -/
theorem foldlM_eq_error {state : σ} {fault : ε}
    (hfront : front.foldlM step start = .ok state) (hitem : step state item = .error fault) :
    (front ++ item :: back).foldlM step start = .error fault := by
  rw [List.foldlM_append, hfront]
  show (item :: back).foldlM step state = _
  rw [List.foldlM_cons, hitem]
  rfl

/-- A list that is not good has a first item with which it stops to be good. -/
theorem exists_first_failure (hnil : good []) {items : List α} (h : ¬good items) :
    ∃ front item back, items = front ++ item :: back ∧ good front ∧ ¬good (front ++ [item]) := by
  induction items using List.reverseRecOn with
  | nil => exact False.elim (h hnil)
  | append_singleton front item ih =>
      by_cases hfront : good front
      · exact ⟨front, item, [], rfl, hfront, h⟩
      · obtain ⟨before, first, after, rfl, hgood, hfirst⟩ := ih hfront
        exact ⟨before, first, after ++ [item], by simp, hgood, hfirst⟩

end

end FieldProjection.Loop
