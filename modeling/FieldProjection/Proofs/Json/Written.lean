import FieldProjection.OrderedMap
import FieldProjection.Proofs.Json.StringLiteral

/-!
# Reading written objects

How the loop over the members of an object reads what the writer made of them. `Takes` says what a
step does with members that stand one after the other as they are written; `members_body` says that
the loop does the same with the written object, and stops in front of its closing brace. `Worded`
values are those made of strings and objects only. They are read back from their text with the
lines and the indentation that the writer gave it: `ofText_prettyText`.
-/

namespace FieldProjection.Json

open Reader

/-! ## Blanks -/

/-- A character that is no blank ends the blanks. -/
theorem Reader.skipBlanks_of_not_isBlank {char : Char} (h : isBlank char = false) (rest : Input) :
    skipBlanks (char :: rest) = char :: rest := by
  rw [skipBlanks, List.dropWhile_cons, if_neg (by rw [h]; exact Bool.false_ne_true)]

/-- A new line is made of blanks. -/
theorem Writer.isBlank_of_mem_newLine {level : Nat} {char : Char} (h : char ∈ newLine level) :
    isBlank char = true := by
  rcases List.mem_cons.mp h with rfl | hspace
  · rfl
  · obtain ⟨_, rfl⟩ := List.mem_replicate.mp hspace
    rfl

/-- What follows a new line and is no blank is reached. -/
theorem Reader.skipBlanks_newLine (level : Nat) {char : Char} (h : isBlank char = false)
    (rest : Input) : skipBlanks (Writer.newLine level ++ char :: rest) = char :: rest := by
  have hblanks : skipBlanks (Writer.newLine level ++ char :: rest) = skipBlanks (char :: rest) :=
    List.dropWhile_append_of_pos fun _ => Writer.isBlank_of_mem_newLine
  rw [hblanks, skipBlanks_of_not_isBlank h]

/-! ## Written members -/

namespace Writer

/-- A member on a line of its own. -/
def member (level : Nat) (member : String × Json) : List Char :=
  newLine (level + 1) ++ string member.1 ++ ':' :: ' ' :: pretty (level + 1) member.2

/-- An object behind its opening brace. -/
def body (level : Nat) : List (String × Json) → List Char
  | [] => ['}']
  | first :: rest => member level first ++ prettyMembers level rest

/-- An object is its opening brace and the rest. -/
theorem pretty_object (level : Nat) (members : List (String × Json)) :
    pretty level (.object members) = '{' :: body level members := by
  cases members with
  | nil => rfl
  | cons first rest => simp [pretty, body, member]

/-- Every member but the first stands behind a comma. -/
theorem prettyMembers_cons (level : Nat) (first : String × Json) (rest : List (String × Json)) :
    prettyMembers level (first :: rest) = ',' :: (member level first ++ prettyMembers level rest) :=
  by simp [prettyMembers, member]

/-- A member is longer than its value. -/
theorem length_lt_member (level : Nat) (first : String × Json) :
    (pretty (level + 1) first.2).length < (member level first).length := by
  simp only [member, List.length_append, List.length_cons]
  omega

/-- There are more characters than members. -/
theorem length_lt_prettyMembers (level : Nat) (members : List (String × Json)) :
    members.length < (prettyMembers level members).length := by
  induction members with
  | nil => exact Nat.zero_lt_succ _
  | cons first rest ih =>
      rw [prettyMembers_cons, List.length_cons, List.length_cons, List.length_append]
      omega

/-- Members are longer than the value of each of them. -/
theorem length_value_lt_prettyMembers {level : Nat} {members : List (String × Json)}
    {first : String × Json} (h : first ∈ members) :
    (pretty (level + 1) first.2).length < (prettyMembers level members).length := by
  induction members with
  | nil => exact False.elim (List.not_mem_nil h)
  | cons other rest ih =>
      rw [prettyMembers_cons, List.length_cons, List.length_append]
      rcases List.mem_cons.mp h with rfl | hrest
      · have hfirst := length_lt_member level first
        omega
      · have hlater := ih hrest
        omega

/-- An object has at least as many characters behind its opening brace as it has members. -/
theorem length_le_body (level : Nat) (members : List (String × Json)) :
    members.length ≤ (body level members).length := by
  cases members with
  | nil => exact Nat.zero_le _
  | cons first rest =>
      have hmembers := length_lt_prettyMembers level (first :: rest)
      rw [prettyMembers_cons] at hmembers
      exact Nat.le_of_lt_succ hmembers

/-- An object is not shorter behind its opening brace than the value of a member. -/
theorem length_value_le_body {level : Nat} {members : List (String × Json)}
    {first : String × Json} (h : first ∈ members) :
    (pretty (level + 1) first.2).length ≤ (body level members).length := by
  cases members with
  | nil => exact False.elim (List.not_mem_nil h)
  | cons other rest =>
      have hvalue : (pretty (level + 1) first.2).length <
          (prettyMembers level (other :: rest)).length := length_value_lt_prettyMembers h
      rw [prettyMembers_cons] at hvalue
      exact Nat.le_of_lt_succ hvalue

end Writer

/-! ## The loop over the members -/

namespace Reader

/-- A written member is found with its name, its value follows the colon. -/
theorem skipBlanks_member (level : Nat) (key : String) (value : Json) (rest : Input) :
    ∃ quoted, skipBlanks (Writer.member level (key, value) ++ rest) = '"' :: quoted ∧
      string quoted = .ok (key, ':' :: ' ' :: Writer.pretty (level + 1) value ++ rest) := by
  obtain ⟨quoted, hquoted, hstring⟩ :=
    string_literal key (':' :: ' ' :: Writer.pretty (level + 1) value ++ rest)
  refine ⟨quoted, ?_, hstring⟩
  rw [Writer.member, List.append_assoc, List.append_assoc, hquoted]
  exact skipBlanks_newLine (level + 1) rfl quoted

/-- The first member of an object is found. -/
theorem nextMember?_first (level : Nat) (key : String) (value : Json) (rest : Input) :
    nextMember? true (Writer.member level (key, value) ++ rest) =
      .ok (some (key, ':' :: ' ' :: Writer.pretty (level + 1) value ++ rest)) := by
  obtain ⟨quoted, hquoted, hstring⟩ := skipBlanks_member level key value rest
  rw [nextMember?, hquoted]
  exact bind_eq hstring _

/-- A member behind a comma is found. -/
theorem nextMember?_next (level : Nat) (key : String) (value : Json) (rest : Input) :
    nextMember? false (',' :: (Writer.member level (key, value) ++ rest)) =
      .ok (some (key, ':' :: ' ' :: Writer.pretty (level + 1) value ++ rest)) := by
  obtain ⟨quoted, hquoted, hstring⟩ := skipBlanks_member level key value rest
  rw [nextMember?, skipBlanks_of_not_isBlank rfl]
  -- the comma is no closing brace, and a member that is not the first must stand behind one
  show (if false = true then _ else if ',' = ',' then _ else _) = _
  rw [if_neg Bool.false_ne_true, if_pos rfl, hquoted]
  exact bind_eq hstring _

variable {σ : Type}

/-- `Takes step level state members result` says that a step leads from one state to another when
it is given the members, one after the other, as they are written. -/
inductive Takes (step : σ → String → Scan σ) (level : Nat) :
    σ → List (String × Json) → σ → Prop where
  | nil (state) : Takes step level state [] state
  | cons {key : String} {value : Json} {members : List (String × Json)} {state next result : σ} :
      (∀ rest, step state key (':' :: ' ' :: Writer.pretty (level + 1) value ++ rest) =
        .ok (next, rest)) →
      Takes step level next members result →
      Takes step level state ((key, value) :: members) result

variable {step : σ → String → Scan σ} {level : Nat} {state result : σ}
  {listed : List (String × Json)}

/-- The loop goes on behind a member that the step has read. -/
theorem members_of_nextMember? {isFirst : Bool} {key : String} {next : σ}
    {input behind rest : Input} (hnext : nextMember? isFirst input = .ok (some (key, behind)))
    (hstep : step state key behind = .ok (next, rest)) (bound : Nat) :
    members step (bound + 1) isFirst state input = members step bound false next rest := by
  rw [members, hnext]
  exact bind_eq hstep _

/-- The loop takes the members behind the first one and stops in front of the closing brace. -/
theorem members_prettyMembers (h : Takes step level state listed result) {bound : Nat}
    (hbound : listed.length < bound) (rest : Input) :
    ∃ closing, members step bound false state (Writer.prettyMembers level listed ++ rest) =
      .ok (result, closing) ∧ objectEnd closing = .ok rest := by
  induction h generalizing bound with
  | nil state =>
      obtain ⟨bound, rfl⟩ := Nat.exists_eq_add_one_of_ne_zero (Nat.ne_of_gt hbound)
      have hclosing : skipBlanks (Writer.prettyMembers level [] ++ rest) = '}' :: rest := by
        rw [Writer.prettyMembers, List.append_assoc]
        exact skipBlanks_newLine level rfl rest
      refine ⟨Writer.prettyMembers level [] ++ rest, ?_, ?_⟩
      · rw [members, nextMember?, hclosing]
        rfl
      · rw [objectEnd, hclosing]
        rfl
  | @cons key value members state next result hstep _ ih =>
      rw [List.length_cons] at hbound
      obtain ⟨bound, rfl⟩ := Nat.exists_eq_add_one_of_ne_zero (Nat.ne_zero_of_lt hbound)
      obtain ⟨closing, hmembers, hclosing⟩ := ih (Nat.lt_of_succ_lt_succ hbound)
      refine ⟨closing, ?_, hclosing⟩
      rw [Writer.prettyMembers_cons, List.cons_append, List.append_assoc,
        members_of_nextMember? (nextMember?_next level key value _) (hstep _)]
      exact hmembers

/-- The loop takes the members of an object and stops in front of its closing brace. -/
theorem members_body (h : Takes step level state listed result) {bound : Nat}
    (hbound : listed.length < bound) (rest : Input) :
    ∃ closing, members step bound true state (Writer.body level listed ++ rest) =
      .ok (result, closing) ∧ objectEnd closing = .ok rest := by
  cases h with
  | nil =>
      obtain ⟨bound, rfl⟩ := Nat.exists_eq_add_one_of_ne_zero (Nat.ne_of_gt hbound)
      exact ⟨'}' :: rest, rfl, rfl⟩
  | @cons key value members _ next _ hstep hmore =>
      rw [List.length_cons] at hbound
      obtain ⟨bound, rfl⟩ := Nat.exists_eq_add_one_of_ne_zero (Nat.ne_zero_of_lt hbound)
      obtain ⟨closing, hmembers, hclosing⟩ :=
        members_prettyMembers hmore (Nat.lt_of_succ_lt_succ hbound) rest
      refine ⟨closing, ?_, hclosing⟩
      rw [Writer.body, List.append_assoc,
        members_of_nextMember? (nextMember?_first level key value _) (hstep _)]
      exact hmembers

/-- What stands behind the opening brace of a written object is longer than its list of members. -/
theorem length_lt_body_append (level : Nat) (listed : List (String × Json)) (rest : Input) :
    listed.length < (Writer.body level listed ++ rest).length + 1 := by
  have hbody := Writer.length_le_body level listed
  rw [List.length_append]
  omega

/-- An object is read behind its opening brace. -/
theorem object_body (h : Takes step level state listed result) (rest : Input) :
    object step state (Writer.body level listed ++ rest) = .ok (result, rest) := by
  obtain ⟨closing, hmembers, hclosing⟩ :=
    members_body h (length_lt_body_append level listed rest) rest
  rw [object, hmembers]
  exact bind_eq hclosing _

/-- A step that appends each member takes them all. -/
theorem takes_appendMember {content : Scan Json}
    (hcontent : ∀ member ∈ listed, ∀ rest,
      content (' ' :: Writer.pretty (level + 1) member.2 ++ rest) = .ok (member.2, rest))
    (found : List (String × Json)) :
    Takes (appendMember content) level found listed (found ++ listed) := by
  induction listed generalizing found with
  | nil =>
      rw [List.append_nil]
      exact .nil found
  | cons first rest ih =>
      obtain ⟨key, value⟩ := first
      have hrest := ih (fun member hmem => hcontent member (List.mem_cons_of_mem _ hmem))
        (found ++ [(key, value)])
      rw [List.append_assoc] at hrest
      refine .cons (fun after => ?_) hrest
      exact bind_eq (hcontent (key, value) List.mem_cons_self after) _

end Reader

/-! ## Values of strings and objects -/

/-- A value made of strings, and of objects in which no name is repeated. -/
inductive Worded : Json → Prop where
  | string (text : String) : Worded (.string text)
  | object {members : List (String × Json)} :
      (Entries.keys members).Nodup → (∀ member ∈ members, Worded member.2) →
      Worded (.object members)

/-- The deepest value decides whether the members keep within a depth. -/
theorem depthMembers_le_iff {members : List (String × Json)} {bound : Nat} :
    depthMembers members ≤ bound ↔ ∀ member ∈ members, member.2.depth ≤ bound := by
  induction members with
  | nil => simp [depthMembers]
  | cons first rest ih =>
      obtain ⟨key, value⟩ := first
      rw [depthMembers, Nat.max_le, ih, List.forall_mem_cons]

/-- A member's value is less deep than the object. -/
theorem depth_lt_of_mem {members : List (String × Json)} {key : String} {value : Json}
    (hmem : (key, value) ∈ members) : value.depth < (Json.object members).depth := by
  rw [Json.depth]
  exact Nat.lt_succ_of_le (depthMembers_le_iff.mp (Nat.le_refl _) (key, value) hmem)

/-- An item is less deep than the list. -/
theorem depth_lt_of_mem_items {items : List Json} {item : Json} (hmem : item ∈ items) :
    item.depth < (Json.array items).depth := by
  rw [Json.depth]
  refine Nat.lt_succ_of_le ?_
  induction items with
  | nil => cases hmem
  | cons first rest ih =>
      rw [depthItems]
      rcases List.mem_cons.mp hmem with rfl | hrest
      · exact Nat.le_max_left _ _
      · exact Nat.le_trans (ih hrest) (Nat.le_max_right _ _)

/-- An object takes up one level, and its members may be nested as deep as is left. -/
theorem exists_of_depth_object_le {members : List (String × Json)} {depth : Nat}
    (h : (Json.object members).depth ≤ depth) :
    ∃ left, depth = left + 1 ∧ ∀ member ∈ members, member.2.depth ≤ left := by
  rw [Json.depth] at h
  obtain ⟨left, rfl⟩ := Nat.exists_eq_add_one_of_ne_zero (Nat.ne_zero_of_lt h)
  exact ⟨left, rfl, depthMembers_le_iff.mp (Nat.le_of_lt_succ h)⟩

/-- Members are left as they are if each value is. -/
theorem unifyMembers_eq_self {members : List (String × Json)}
    (h : ∀ member ∈ members, member.2.unify = member.2) : unifyMembers members = members := by
  induction members with
  | nil => rfl
  | cons first rest ih =>
      rw [unifyMembers, h first List.mem_cons_self,
        ih fun member hmem => h member (List.mem_cons_of_mem _ hmem)]

namespace Worded

variable {value : Json}

/-- A written value starts with a quote or a brace. -/
theorem skipBlanks_pretty (h : value.Worded) (level : Nat) (rest : Input) :
    skipBlanks (Writer.pretty level value ++ rest) = Writer.pretty level value ++ rest := by
  cases h with
  | string text => exact skipBlanks_of_not_isBlank rfl _
  | object =>
      rw [Writer.pretty_object]
      exact skipBlanks_of_not_isBlank rfl _

/-- Behind the colon of a member, blanks lead to its value. -/
theorem skipBlanks_space (h : value.Worded) (level : Nat) (rest : Input) :
    skipBlanks (' ' :: Writer.pretty level value ++ rest) = Writer.pretty level value ++ rest :=
  h.skipBlanks_pretty level rest

/-- No name is repeated, so there is nothing to unify. -/
theorem unify_eq (h : value.Worded) : value.unify = value := by
  induction h with
  | string text => rfl
  | object hnodup _ ih =>
      rw [unify, unifyMembers_eq_self ih]
      exact congrArg Json.object (OrderedMap.entries_ofList hnodup)

/-- No value is nested deeper than its text is long. -/
theorem depth_le_length (h : value.Worded) (level : Nat) :
    value.depth ≤ (Writer.pretty level value).length := by
  induction h generalizing level with
  | string text => exact Nat.zero_le _
  | @object members _ _ ih =>
      rw [Json.depth, Writer.pretty_object, List.length_cons]
      have hmembers : depthMembers members ≤ (Writer.body level members).length :=
        depthMembers_le_iff.mpr fun member hmem =>
          Nat.le_trans (ih member hmem (level + 1)) (Writer.length_value_le_body hmem)
      omega

/-- A written value is read back if the text may be nested as deep as it is. -/
theorem value_pretty (h : value.Worded) {depth level : Nat} (hdepth : value.depth ≤ depth)
    {input rest : Input} (hinput : skipBlanks input = Writer.pretty level value ++ rest) :
    Reader.value depth input = .ok (value, rest) := by
  induction h generalizing depth level input rest with
  | string text =>
      obtain ⟨quoted, hquoted, hstring⟩ := string_literal text rest
      have hinput : skipBlanks input = '"' :: quoted := hinput.trans hquoted
      have hscalar : scalar ('"' :: quoted) = .ok (Json.string text, rest) := by
        simp only [scalar, hstring]
        rfl
      rw [Reader.value.eq_def, hinput]
      exact hscalar
  | @object members _ hworded ih =>
      obtain ⟨depth, rfl, hmembers⟩ := exists_of_depth_object_le hdepth
      have htakes : Takes (appendMember (Reader.value depth)) level [] members members :=
        takes_appendMember (fun member hmem rest =>
          ih member hmem (hmembers member hmem)
            ((hworded member hmem).skipBlanks_space (level + 1) rest)) []
      rw [Writer.pretty_object] at hinput
      rw [Reader.value, hinput]
      exact bind_eq (object_body htakes rest) _

end Worded

/-- A reader that reads the value of a text reads the whole text, if only blanks follow. -/
theorem Reader.whole_eq {α : Type} {reader : Scan α} {text : String} {found : α} {rest : Input}
    (h : reader text.toList = .ok (found, rest)) (hrest : skipBlanks rest = []) :
    whole reader text = .ok found := by
  have hfinish : finish rest = .ok () := by
    rw [finish, hrest]
  simp only [whole, h]
  show Except.mapError _ (do
    finish rest
    return found) = _
  rw [hfinish]
  rfl

/-- The characters of a value's lines and of the end of the last one. -/
theorem toList_prettyText (value : Json) :
    (value.prettyText ++ "\n").toList = Writer.pretty 0 value ++ ['\n'] := by
  rw [prettyText, String.toList_append, String.toList_ofList]
  rfl

/-- A value of strings and objects is read back from its lines. -/
theorem Worded.ofText_prettyText {value : Json} (h : value.Worded) :
    Json.ofText (value.prettyText ++ "\n") = .ok value := by
  have htext := toList_prettyText value
  have hlength : value.depth ≤ (value.prettyText ++ "\n").length := by
    rw [← String.length_toList, htext, List.length_append]
    exact Nat.le_trans (h.depth_le_length 0) (Nat.le_add_right _ _)
  have hvalue : Reader.value (value.prettyText ++ "\n").length
      (value.prettyText ++ "\n").toList = .ok (value, ['\n']) := by
    rw [htext]
    exact h.value_pretty hlength (h.skipBlanks_pretty 0 ['\n'])
  rw [Json.ofText, Reader.whole_eq hvalue rfl]
  exact congrArg Except.ok h.unify_eq

end FieldProjection.Json
