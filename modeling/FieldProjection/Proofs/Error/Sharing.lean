import FieldProjection.Error
import Mathlib.Data.List.Basic
import Mathlib.Data.List.Perm.Basic

/-!
# Errors in use

A program makes errors, clones and drops them, and adds one to another as context. An error refers
to a cell with its kind, and through it to the cells of its causes; a clone refers to the same
cells, and so does an error that context was added to. An error is in use elsewhere when another
one refers to its outermost cell. `Run` says which errors a program may have in use.

Each error has an origin, which tells all messages that went into it. As context, an error that is
in use elsewhere lends its outermost message only, and one that is not must have no more than that.
So an error displays all of its messages just when nothing that was added to it as context had
context itself, and in a program that clones no error this is always so: `run_displays_messages`.
-/

namespace FieldProjection.Error

/-- The messages of an error and its causes. -/
def messages (error : Error) : List String :=
  error.kinds.map ErrorKind.display

/-! ## Messages joined -/

/-- The length of some texts with a separator behind each of them. -/
def separatedLength : List String → Nat
  | [] => 0
  | text :: rest => text.length + 2 + separatedLength rest

/-- The last text of a message has no separator behind it. -/
theorem length_intercalate {texts : List String} (h : texts ≠ []) :
    (": ".intercalate texts).length + 2 = separatedLength texts := by
  induction texts with
  | nil => exact False.elim (h rfl)
  | cons text rest ih =>
      cases rest with
      | nil => simp [separatedLength]
      | cons next more =>
          have hrest := ih (List.cons_ne_nil next more)
          have hseparator : ": ".length = 2 := by decide
          rw [String.intercalate_cons_cons, String.length_append, String.length_append, hseparator,
            separatedLength, ← hrest]
          omega

/-- With fewer texts there are also fewer separators. -/
theorem separatedLength_of_sublist {fewer more : List String} (h : fewer.Sublist more) :
    separatedLength fewer + 2 * more.length ≤ separatedLength more + 2 * fewer.length := by
  induction h with
  | slnil => exact Nat.le_refl _
  | cons text _ ih | cons_cons text _ ih =>
      simp only [separatedLength, List.length_cons]
      omega

/-- When some of several texts are left out, the rest does not make the same text. -/
theorem intercalate_eq_iff {fewer more : List String} (h : fewer.Sublist more)
    (hfewer : fewer ≠ []) :
    ": ".intercalate fewer = ": ".intercalate more ↔ fewer = more := by
  constructor
  · intro heq
    have hmore : more ≠ [] := fun hnil => hfewer (List.sublist_nil.mp (hnil ▸ h))
    have hlength := congrArg String.length heq
    have hfewerLength := length_intercalate hfewer
    have hmoreLength := length_intercalate hmore
    have hseparated := separatedLength_of_sublist h
    exact h.eq_of_length_le (by omega)
  · rintro rfl
    rfl

/-! ## Adding context -/

variable {error consequent result : Error} {owned : Ownership}

/-- Added as context, an error lends its outermost message, and if it is not in use elsewhere, it
has no other. -/
theorem messages_of_context (h : error.context consequent owned = .ok result) :
    result.messages = consequent.kind.display :: error.messages ∧
      (owned = .sole → consequent.causes = []) := by
  cases owned with
  | shared =>
      obtain rfl := Except.ok.inj h
      exact ⟨rfl, fun hsole => Ownership.noConfusion hsole⟩
  | sole =>
      rw [context] at h
      by_cases hbare : consequent.causes.isEmpty = true
      · rw [if_pos hbare] at h
        obtain rfl := Except.ok.inj h
        exact ⟨rfl, fun _ => List.isEmpty_iff.mp hbare⟩
      · rw [if_neg hbare] at h
        cases h

/-- Context is displayed before the error just if it has no context itself. -/
theorem display_of_context_iff (h : error.context consequent owned = .ok result) :
    result.display = consequent.display ++ ": " ++ error.display ↔ consequent.causes = [] := by
  have hdisplay : consequent.display ++ ": " ++ error.display =
      ": ".intercalate (consequent.messages ++ error.messages) :=
    (String.intercalate_append_of_ne_nil (List.cons_ne_nil _ _) (List.cons_ne_nil _ _)).symm
  have hsublist : (consequent.kind.display :: error.messages).Sublist
      (consequent.messages ++ error.messages) :=
    .cons_cons _ (List.sublist_append_right _ _)
  have hjoined := intercalate_eq_iff hsublist (List.cons_ne_nil _ _)
  rw [← (messages_of_context h).1] at hjoined
  rw [hdisplay]
  refine hjoined.trans ?_
  have hconsequent : consequent.messages =
      consequent.kind.display :: consequent.causes.map ErrorKind.display := rfl
  rw [(messages_of_context h).1, hconsequent, List.cons_append, List.cons_inj_right,
    List.self_eq_append_left, List.map_eq_nil_iff]

/-! ## Origins -/

/-- How an error came about: it was made, or another one was added to one as context. -/
inductive Origin where
  | made (kind : ErrorKind)
  | added (error consequent : Origin)

namespace Origin

/-- All messages that went into an error, the most recent first. -/
def messages : Origin → List String
  | .made kind => [kind.display]
  | .added error consequent => consequent.messages ++ error.messages

/-- The messages that an error keeps: of what is added as context, the most recent one. -/
def kept : Origin → List String
  | .made kind => [kind.display]
  | .added error consequent => consequent.kept.take 1 ++ error.kept

/-- Nothing that was added to an error as context had context itself. -/
inductive AddsBare : Origin → Prop where
  | made (kind : ErrorKind) : AddsBare (.made kind)
  | added (kind : ErrorKind) {error : Origin} :
      AddsBare error → AddsBare (.added error (.made kind))

/-- An error keeps some message. -/
theorem kept_ne_nil (origin : Origin) : origin.kept ≠ [] := by
  cases origin with
  | made kind => exact List.cons_ne_nil _ _
  | added error consequent =>
      exact List.append_ne_nil_of_right_ne_nil _ error.kept_ne_nil

/-- What is kept are some of the messages in their order. -/
theorem kept_sublist_messages (origin : Origin) : origin.kept.Sublist origin.messages := by
  induction origin with
  | made kind => exact List.Sublist.refl _
  | added error consequent iherror ihconsequent =>
      exact ((List.take_sublist 1 _).trans ihconsequent).append iherror

/-- An error that keeps one message was made. -/
theorem exists_made_of_length_kept {origin : Origin} (h : origin.kept.length = 1) :
    ∃ kind, origin = .made kind := by
  cases origin with
  | made kind => exact ⟨kind, rfl⟩
  | added error consequent =>
      have herror := List.length_pos_iff.mpr error.kept_ne_nil
      have hconsequent := List.length_pos_iff.mpr consequent.kept_ne_nil
      rw [kept, List.length_append, List.length_take] at h
      omega

/-- All messages are kept just if nothing that was added had context itself. -/
theorem kept_eq_messages_iff {origin : Origin} :
    origin.kept = origin.messages ↔ origin.AddsBare := by
  constructor
  · intro h
    induction origin with
    | made kind => exact .made kind
    | added error consequent iherror _ =>
        -- one message of the context is kept, so it had no more
        have hlength := congrArg List.length h
        have herror := error.kept_sublist_messages.length_le
        have hconsequent := consequent.kept_sublist_messages.length_le
        have hsome := List.length_pos_iff.mpr consequent.kept_ne_nil
        rw [kept, messages, List.length_append, List.length_append, List.length_take] at hlength
        have hone : consequent.kept.length = 1 := by omega
        obtain ⟨kind, rfl⟩ := exists_made_of_length_kept hone
        exact .added kind (iherror (error.kept_sublist_messages.eq_of_length (by omega)))
  · intro h
    induction h with
    | made kind => rfl
    | added kind _ ih =>
        rw [kept, messages, ih]
        rfl

end Origin

/-! ## Programs -/

/-- An error in use, with the cell that it refers to and those of its causes. -/
structure Held where
  error : Error
  cell : Nat
  below : List Nat
  origin : Origin

/-- All cells that an error refers to. -/
def Held.cells (held : Held) : List Nat :=
  held.cell :: held.below

/-- The ownership of an error, given the other errors in use. -/
def Held.ownership (held : Held) (others : List Held) : Ownership :=
  if others.any fun other => other.cells.contains held.cell then .shared else .sole

/-- The errors in use, and the number of cells that were allocated. -/
structure Pool where
  inUse : List Held
  allocated : Nat

/-- What a program does with an error. -/
inductive Action where
  | make
  | clone
  | drop
  | context
deriving DecidableEq

/-- `Step pool action next` says that an action leads from one pool to another. -/
inductive Step (pool : Pool) : Action → Pool → Prop where
  | make (kind : ErrorKind) :
      Step pool .make
        ⟨⟨ofKind kind, pool.allocated, [], .made kind⟩ :: pool.inUse, pool.allocated + 1⟩
  | clone {held : Held} :
      held ∈ pool.inUse → Step pool .clone ⟨held :: pool.inUse, pool.allocated⟩
  | drop {held : Held} {rest : List Held} :
      pool.inUse.Perm (held :: rest) → Step pool .drop ⟨rest, pool.allocated⟩
  /-- Both errors are used up, and the cells of the first are those of the causes of the result. -/
  | context {first second : Held} {rest : List Held} {result : Error} :
      pool.inUse.Perm (first :: second :: rest) →
      first.error.context second.error (second.ownership (first :: rest)) = .ok result →
      Step pool .context
        ⟨⟨result, pool.allocated, first.cells, .added first.origin second.origin⟩ :: rest,
          pool.allocated + 1⟩

/-- `Run actions pool` says that a program may come to a pool by some actions. -/
inductive Run : List Action → Pool → Prop where
  | start : Run [] ⟨[], 0⟩
  | step {actions : List Action} {action : Action} {pool next : Pool} :
      Run actions pool → Step pool action next → Run (actions ++ [action]) next

variable {actions : List Action} {action : Action} {pool next : Pool} {held : Held}

/-- The messages of an error in use are those that its origin keeps, after a step. -/
theorem Step.messages_eq_kept (h : Step pool action next)
    (hpool : ∀ held ∈ pool.inUse, held.error.messages = held.origin.kept) :
    ∀ held ∈ next.inUse, held.error.messages = held.origin.kept := by
  cases h with
  | make kind =>
      rw [List.forall_mem_cons]
      exact ⟨rfl, hpool⟩
  | clone hheld =>
      rw [List.forall_mem_cons]
      exact ⟨hpool _ hheld, hpool⟩
  | drop hperm =>
      exact fun held hheld => hpool held (hperm.mem_iff.mpr (List.mem_cons_of_mem _ hheld))
  | @context first second rest result hperm hresult =>
      have hall : ∀ held ∈ first :: second :: rest, held.error.messages = held.origin.kept :=
        fun held hheld => hpool held (hperm.mem_iff.mpr hheld)
      rw [List.forall_mem_cons, List.forall_mem_cons] at hall
      obtain ⟨hfirst, hsecond, hrest⟩ := hall
      rw [List.forall_mem_cons]
      refine ⟨?_, hrest⟩
      show result.messages = second.origin.kept.take 1 ++ first.origin.kept
      rw [(messages_of_context hresult).1, ← hsecond, ← hfirst]
      rfl

/-- The messages of an error in use are those that its origin keeps. -/
theorem Run.messages_eq_kept (h : Run actions pool) :
    ∀ held ∈ pool.inUse, held.error.messages = held.origin.kept := by
  induction h with
  | start => exact fun held hheld => False.elim (List.not_mem_nil hheld)
  | step _ hstep ih => exact hstep.messages_eq_kept ih

/-- An error displays all messages that went into it just if nothing that was added to it as
context had context itself. -/
theorem Run.display_eq_iff (h : Run actions pool) (hheld : held ∈ pool.inUse) :
    held.error.display = ": ".intercalate held.origin.messages ↔ held.origin.AddsBare := by
  show ": ".intercalate held.error.messages = _ ↔ _
  rw [h.messages_eq_kept held hheld,
    intercalate_eq_iff held.origin.kept_sublist_messages held.origin.kept_ne_nil,
    Origin.kept_eq_messages_iff]

/-! ## Programs that do not clone -/

/-- An error is not in use elsewhere if no other one refers to its cell. -/
theorem Held.ownership_eq_sole_iff {others : List Held} :
    held.ownership others = .sole ↔ ∀ other ∈ others, held.cell ∉ other.cells := by
  unfold ownership
  by_cases hshared : ∃ other ∈ others, held.cell ∈ other.cells
  · rw [if_pos (by simpa using hshared)]
    exact ⟨fun h => Ownership.noConfusion h, fun h => False.elim
      (let ⟨other, hother, hcell⟩ := hshared; h other hother hcell)⟩
  · rw [if_neg (by simpa using hshared)]
    simpa using hshared

/-- No two errors in use refer to one cell, and nothing was lost in any of them. -/
structure Unshared (pool : Pool) : Prop where
  allocated : ∀ held ∈ pool.inUse, ∀ cell ∈ held.cells, cell < pool.allocated
  disjoint : pool.inUse.Pairwise fun held other => held.cells.Disjoint other.cells
  bare : ∀ held ∈ pool.inUse, held.origin.AddsBare

namespace Unshared

variable {inUse : List Held} {limit : Nat}

/-- The order of the errors in use makes no difference. -/
theorem of_perm (h : Unshared pool) (hperm : pool.inUse.Perm inUse) :
    Unshared ⟨inUse, pool.allocated⟩ where
  allocated other hother := h.allocated other (hperm.mem_iff.mpr hother)
  disjoint := (hperm.pairwise_iff List.disjoint_comm.mp).mp h.disjoint
  bare other hother := h.bare other (hperm.mem_iff.mpr hother)

/-- One error less is in use. -/
theorem of_cons (h : Unshared ⟨held :: inUse, limit⟩) : Unshared ⟨inUse, limit⟩ where
  allocated other hother := h.allocated other (List.mem_cons_of_mem _ hother)
  disjoint := List.Pairwise.of_cons h.disjoint
  bare other hother := h.bare other (List.mem_cons_of_mem _ hother)

/-- No error in use refers to a cell that is not allocated yet. -/
theorem fresh (h : Unshared ⟨inUse, limit⟩) : ∀ other ∈ inUse, limit ∉ other.cells :=
  fun other hother hcell => Nat.lt_irrefl _ (h.allocated other hother limit hcell)

/-- One more error is in use, with a new cell in front of some that belong to no other error. -/
theorem cons (h : Unshared ⟨inUse, limit⟩) (hcell : held.cell = limit)
    (hbelow : ∀ cell ∈ held.below, cell < limit)
    (hdisjoint : ∀ other ∈ inUse, held.below.Disjoint other.cells)
    (hbare : held.origin.AddsBare) : Unshared ⟨held :: inUse, limit + 1⟩ where
  allocated := by
    rw [List.forall_mem_cons, Held.cells, List.forall_mem_cons, hcell]
    refine ⟨⟨Nat.lt_succ_self _, fun cell hmem => Nat.lt_succ_of_lt (hbelow cell hmem)⟩, ?_⟩
    exact fun other hother cell hmem => Nat.lt_succ_of_lt (h.allocated other hother cell hmem)
  disjoint := by
    refine .cons (fun other hother => ?_) h.disjoint
    rw [Held.cells, hcell]
    exact List.disjoint_cons_left.mpr ⟨h.fresh other hother, hdisjoint other hother⟩
  bare := List.forall_mem_cons.mpr ⟨hbare, h.bare⟩

end Unshared

/-- Errors come to share cells only when one of them is cloned, and what shares no cell and has
context cannot be added as context. -/
theorem Step.unshared (h : Step pool action next) (hclone : action ≠ .clone)
    (hmessages : ∀ held ∈ pool.inUse, held.error.messages = held.origin.kept)
    (hpool : Unshared pool) : Unshared next := by
  cases h with
  | make kind =>
      exact hpool.cons rfl (fun _ hcell => False.elim (List.not_mem_nil hcell))
        (fun _ _ => List.disjoint_nil_left _) (.made kind)
  | clone => exact False.elim (hclone rfl)
  | drop hperm => exact (hpool.of_perm hperm).of_cons
  | @context first second rest result hperm hresult =>
      have hboth := hpool.of_perm hperm
      have hfirst := List.pairwise_cons.mp hboth.disjoint
      have hsecond := List.pairwise_cons.mp hfirst.2
      -- nothing else refers to the cell of the context, so it has no causes and was made
      have hsole : second.ownership (first :: rest) = .sole := by
        rw [Held.ownership_eq_sole_iff, List.forall_mem_cons]
        exact ⟨fun hcell => hfirst.1 second List.mem_cons_self hcell List.mem_cons_self,
          fun other hother => hsecond.1 other hother List.mem_cons_self⟩
      have hcauses := (messages_of_context hresult).2 hsole
      have hlength : second.origin.kept.length = 1 := by
        rw [← hmessages second (hperm.mem_iff.mpr (by simp)), messages, kinds, hcauses]
        rfl
      obtain ⟨kind, hmade⟩ := Origin.exists_made_of_length_kept hlength
      refine hboth.of_cons.of_cons.cons rfl
        (hboth.allocated first List.mem_cons_self)
        (fun other hother => hfirst.1 other (List.mem_cons_of_mem _ hother)) ?_
      rw [hmade]
      exact .added kind (hboth.bare first List.mem_cons_self)

/-- In a program that clones nothing, no errors share cells. -/
theorem Run.unshared (h : Run actions pool) (hclone : Action.clone ∉ actions) :
    Unshared pool := by
  induction h with
  | start =>
      exact ⟨fun _ hheld => False.elim (List.not_mem_nil hheld), .nil,
        fun _ hheld => False.elim (List.not_mem_nil hheld)⟩
  | step hrun hstep ih =>
      rw [List.mem_append, List.mem_singleton, not_or] at hclone
      exact hstep.unshared (Ne.symm hclone.2) hrun.messages_eq_kept (ih hclone.1)

/-! ## What is displayed -/

/-- What a program displays. Context that was added to an error stands before it unless it had
context itself and was in use elsewhere; then only its outermost message does. So an error displays
all messages that went into it just if nothing that was added to it as context had context itself,
and always in a program that clones nothing. -/
theorem run_displays_messages {actions : List Action} {pool : Pool} (hrun : Run actions pool) :
    (∀ first second rest result, pool.inUse.Perm (first :: second :: rest) →
      first.error.context second.error (second.ownership (first :: rest)) = .ok result →
      (result.display = second.error.display ++ ": " ++ first.error.display ↔
        second.error.causes = []) ∧
      (second.error.causes ≠ [] → second.ownership (first :: rest) = .shared ∧
        result.display = second.error.kind.display ++ ": " ++ first.error.display)) ∧
    (∀ held ∈ pool.inUse,
      held.error.display = ": ".intercalate held.origin.messages ↔ held.origin.AddsBare) ∧
    (Action.clone ∉ actions → ∀ held ∈ pool.inUse,
      held.error.display = ": ".intercalate held.origin.messages) := by
  refine ⟨?_, fun held hheld => hrun.display_eq_iff hheld, ?_⟩
  · intro first second rest result hperm hresult
    refine ⟨display_of_context_iff hresult, fun hcauses => ⟨?_, ?_⟩⟩
    · cases howned : second.ownership (first :: rest) with
      | shared => rfl
      | sole => exact False.elim (hcauses ((messages_of_context hresult).2 howned))
    · show ": ".intercalate result.messages = _
      rw [(messages_of_context hresult).1]
      exact String.intercalate_cons_of_ne_nil (List.cons_ne_nil _ _)
  · intro hclone held hheld
    exact (hrun.display_eq_iff hheld).mpr ((hrun.unshared hclone).bare held hheld)

/-! ## An example -/

/-- Something is wrong with a text. -/
def badJson : Held := ⟨adhoc "bad json", 0, [], .made (.adhoc "bad json")⟩

/-- A file is missing. -/
def missingFile : Held :=
  ⟨adhoc "schema.json is missing", 1, [], .made (.adhoc "schema.json is missing")⟩

/-- A schema was being loaded. -/
def loading : Held := ⟨adhoc "loading schema", 2, [], .made (.adhoc "loading schema")⟩

/-- A file was missing while a schema was being loaded. -/
def loadingFault : Held :=
  ⟨(adhoc "schema.json is missing").within "loading schema", 3, [1],
    .added missingFile.origin loading.origin⟩

/-- A program makes three errors. -/
theorem run_loading : Run [.make, .make, .make] ⟨[loading, missingFile, badJson], 3⟩ :=
  ((Run.start.step (.make (.adhoc "bad json"))).step
    (.make (.adhoc "schema.json is missing"))).step (.make (.adhoc "loading schema"))

/-- It adds one of them to another as context. -/
theorem run_loadingFault :
    Run [.make, .make, .make, .context] ⟨[loadingFault, badJson], 4⟩ := by
  have hperm : (⟨[loading, missingFile, badJson], 3⟩ : Pool).inUse.Perm
      (missingFile :: loading :: [badJson]) := .swap ..
  have hresult : missingFile.error.context loading.error
      (loading.ownership [missingFile, badJson]) = .ok loadingFault.error := rfl
  have hstep := Step.context hperm hresult
  exact run_loading.step hstep

/-- Context that has none itself is displayed before the error, and as nothing was cloned, all
messages are. -/
theorem run_displays_messages_loadingFault :
    Run [.make, .make, .make, .context] ⟨[loadingFault, badJson], 4⟩ ∧
      missingFile.error.context loading.error (loading.ownership [missingFile, badJson]) =
        .ok loadingFault.error ∧
      loadingFault.error.display = loading.error.display ++ ": " ++ missingFile.error.display ∧
      loadingFault.origin.AddsBare ∧
      loadingFault.error.display =
        ": ".intercalate ["loading schema", "schema.json is missing"] := by
  obtain ⟨hcontext, _, _⟩ := run_displays_messages run_loading
  obtain ⟨_, hmessages, hcloneFree⟩ := run_displays_messages run_loadingFault
  have hdisplay := hcloneFree (by decide) loadingFault List.mem_cons_self
  exact ⟨run_loadingFault, rfl, (hcontext missingFile loading [badJson] _ (.swap ..) rfl).1.mpr rfl,
    (hmessages loadingFault List.mem_cons_self).mp hdisplay, hdisplay⟩

/-- Once it is cloned, the error of the missing file is added to another one as context without
saying that a file is missing. -/
theorem cloned_context_loses_message :
    Run [.make, .make, .make, .context, .clone] ⟨[loadingFault, loadingFault, badJson], 4⟩ ∧
      ∃ result,
        badJson.error.context loadingFault.error
          (loadingFault.ownership [badJson, loadingFault]) = .ok result ∧
        result.display = "loading schema: bad json" ∧
        loadingFault.error.display ++ ": " ++ badJson.error.display =
          "loading schema: schema.json is missing: bad json" ∧
        result.display ≠ loadingFault.error.display ++ ": " ++ badJson.error.display := by
  refine ⟨run_loadingFault.step (.clone List.mem_cons_self), _, rfl, ?_⟩
  decide +kernel

end FieldProjection.Error
