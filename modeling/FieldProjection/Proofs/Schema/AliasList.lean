import FieldProjection.Proofs.Text.Occurrence
import FieldProjection.Schema.AliasList
import Mathlib.Data.List.Infix

/-!
# Which alias list is found

`FirstClosed` says how a comment has to be cut for a list to be that of its first closed annotation.
Reading a comment finds a list just when the comment can be cut around it in this way, and that is
possible in one way at most (`FirstClosed.unique`). Names that were listed with a comma and a blank
between them are read back (`names_intercalate`). All of this is said of comments in
`parse?_firstClosed`.
-/

namespace FieldProjection.AliasList

/-- `FirstClosed text front list rest` says that a text is an annotation with a list, between what
stands in front of it and the rest, that the list ends on its own line at the first closing mark,
and that no opening mark in front of it has a closing mark behind it on its line. -/
structure FirstClosed (text front list rest : List Char) : Prop where
  split : text = front ++ opening ++ list ++ closing ++ rest
  line : '\n' ∉ list
  unclosed : ¬ closing <:+: list
  earlier : ∀ before after, text = before ++ opening ++ after → before.length < front.length →
    ¬ closing <:+: after.takeWhile (· ≠ '\n')

/-- The start of an annotation is no part of itself but the whole. -/
theorem startsOnce_opening : Text.StartsOnce opening :=
  show '@' ∉ "PrismaSelect.map([".toList by decide

/-- The end of an annotation is no part of itself but the whole. -/
theorem startsOnce_closing : Text.StartsOnce closing :=
  show ']' ∉ [')'] by decide

variable {text front list rest : List Char} {aliases : AliasList}

/-! ## A single annotation -/

/-- What stands behind a list without line breaks does not belong to the line in front of it. -/
theorem takeWhile_closing (hline : '\n' ∉ list) (rest : List Char) :
    (list ++ closing ++ rest).takeWhile (· ≠ '\n') =
      list ++ closing ++ rest.takeWhile (· ≠ '\n') := by
  apply List.takeWhile_append_of_pos
  intro char hchar
  rw [decide_eq_true_iff]
  rintro rfl
  rcases List.mem_append.mp hchar with hlist | hclosing
  · exact hline hlist
  · exact absurd hclosing (by decide)

/-- An annotation is not closed just when no closing mark is left on its line. -/
theorem closed?_eq_none_iff :
    closed? text = none ↔ ¬ closing <:+: text.takeWhile (· ≠ '\n') := by
  rw [closed?, Option.map_eq_none_iff, Text.before?_eq_none_iff]

/-- A list without line breaks and closing marks is that of the annotation that is closed behind
it. -/
theorem closed?_append (hline : '\n' ∉ list) (hunclosed : ¬ closing <:+: list)
    (rest : List Char) : closed? (list ++ closing ++ rest) = some ⟨list⟩ := by
  rw [closed?, takeWhile_closing hline, Text.before?_append startsOnce_closing hunclosed,
    Option.map_some]

/-- The list of an annotation has neither line breaks nor closing marks and is closed. -/
theorem exists_append_of_closed? (h : closed? text = some aliases) :
    '\n' ∉ aliases.text ∧ ¬ closing <:+: aliases.text ∧
      ∃ rest, text = aliases.text ++ closing ++ rest := by
  obtain ⟨list, hlist, rfl⟩ := Option.map_eq_some_iff.mp h
  obtain ⟨tail, hline⟩ := Text.before?_sound hlist
  refine ⟨?_, Text.not_infix_of_before? startsOnce_closing.ne_nil hlist, ?_⟩
  · intro hbreak
    have hmem : '\n' ∈ text.takeWhile (· ≠ '\n') := by
      rw [hline]
      exact List.mem_append_left _ (List.mem_append_left _ hbreak)
    have hother := List.mem_takeWhile_imp hmem
    exact of_decide_eq_true hother rfl
  · refine ⟨tail ++ text.dropWhile (· ≠ '\n'), ?_⟩
    rw [← List.append_assoc, ← hline, List.takeWhile_append_dropWhile]

/-- A closed annotation starts a text just when the text is its opening mark with a closed list
behind it. -/
theorem bind_closed?_eq_some_iff :
    (opening.isPrefixOf? text).bind closed? = some aliases ↔
      ∃ after, text = opening ++ after ∧ closed? after = some aliases := by
  rw [Option.bind_eq_some_iff]
  refine exists_congr fun after => and_congr_left fun _ => ?_
  rw [List.isPrefixOf?_eq_some_iff_append_eq, eq_comm]

/-- No closed annotation starts a text just when the text does not start with an opening mark, or
with one that has no closing mark behind it on its line. -/
theorem bind_closed?_eq_none_iff :
    (opening.isPrefixOf? text).bind closed? = none ↔
      ∀ after, text = opening ++ after → ¬ closing <:+: after.takeWhile (· ≠ '\n') := by
  rw [Option.bind_eq_none_iff]
  refine forall_congr' fun after => ?_
  rw [List.isPrefixOf?_eq_some_iff_append_eq, closed?_eq_none_iff, eq_comm]

/-! ## The first closed annotation -/

/-- Behind the opening mark of the first closed annotation stands its list. -/
theorem FirstClosed.behind_opening (h : FirstClosed text front list rest) :
    text = front ++ opening ++ (list ++ closing ++ rest) := by
  rw [h.split, List.append_assoc (front ++ opening), List.append_assoc (front ++ opening)]

/-- The first closed annotation starts the text just when the text is an opening mark with a closed
list behind it. -/
theorem firstClosed_nil_iff : FirstClosed text [] list rest ↔
    text = opening ++ (list ++ closing ++ rest) ∧ '\n' ∉ list ∧ ¬ closing <:+: list := by
  constructor
  · intro h
    exact ⟨h.behind_opening, h.line, h.unclosed⟩
  · rintro ⟨hsplit, hline, hunclosed⟩
    refine ⟨?_, hline, hunclosed, ?_⟩
    · rw [hsplit, List.nil_append, List.append_assoc, List.append_assoc, List.append_assoc]
    · intro before after _ hlt
      exact False.elim (Nat.not_lt_zero _ hlt)

/-- Behind the first character stands the first closed annotation just when it is that of the rest
of the text and no closed annotation starts at that character. -/
theorem firstClosed_cons_iff {char : Char} :
    FirstClosed (char :: text) (char :: front) list rest ↔
      (opening.isPrefixOf? (char :: text)).bind closed? = none ∧
        FirstClosed text front list rest := by
  constructor
  · intro h
    refine ⟨?_, (List.cons.inj h.split).2, h.line, h.unclosed, ?_⟩
    · refine bind_closed?_eq_none_iff.mpr fun after hafter => ?_
      exact h.earlier [] after hafter (Nat.zero_lt_succ _)
    · intro before after hsplit hlt
      rw [hsplit] at h
      exact h.earlier (char :: before) after rfl (Nat.succ_lt_succ hlt)
  · rintro ⟨hhere, h⟩
    refine ⟨congrArg (char :: ·) h.split, h.line, h.unclosed, ?_⟩
    intro before after hsplit hlt
    cases before with
    | nil => exact bind_closed?_eq_none_iff.mp hhere after hsplit
    | cons first more =>
        obtain ⟨_, hsplit⟩ := List.cons.inj hsplit
        exact h.earlier more after hsplit (Nat.lt_of_succ_lt_succ hlt)

/-- The list that is found is that of the first closed annotation. -/
theorem exists_firstClosed_of_find? (h : find? text = some aliases) :
    ∃ front rest, FirstClosed text front aliases.text rest := by
  induction text with
  | nil => exact False.elim (Option.some_ne_none _ h.symm)
  | cons char text ih =>
      rw [find?] at h
      split at h
      · next found hfound =>
          obtain rfl := Option.some.inj h
          obtain ⟨after, hsplit, hclosed⟩ := bind_closed?_eq_some_iff.mp hfound
          obtain ⟨hline, hunclosed, rest, rfl⟩ := exists_append_of_closed? hclosed
          exact ⟨[], rest, firstClosed_nil_iff.mpr ⟨hsplit, hline, hunclosed⟩⟩
      · next hnone =>
          obtain ⟨front, rest, hfirst⟩ := ih h
          exact ⟨char :: front, rest, firstClosed_cons_iff.mpr ⟨hnone, hfirst⟩⟩

/-- The list of the first closed annotation is found. -/
theorem FirstClosed.find?_eq_some (h : FirstClosed text front list rest) :
    find? text = some ⟨list⟩ := by
  induction text generalizing front with
  | nil =>
      have hsplit := h.split
      simp [startsOnce_opening.ne_nil] at hsplit
  | cons char text ih =>
      cases front with
      | nil =>
          obtain ⟨hsplit, hline, hunclosed⟩ := firstClosed_nil_iff.mp h
          have hhere : (opening.isPrefixOf? (char :: text)).bind closed? = some ⟨list⟩ :=
            bind_closed?_eq_some_iff.mpr ⟨_, hsplit, closed?_append hline hunclosed rest⟩
          rw [AliasList.find?, hhere]
      | cons first front =>
          obtain rfl : char = first := (List.cons.inj h.split).1
          obtain ⟨hhere, hlater⟩ := firstClosed_cons_iff.mp h
          rw [AliasList.find?, hhere]
          exact ih hlater

/-- Reading a text finds a list just when it is that of the first closed annotation. -/
theorem find?_eq_some_iff :
    find? text = some aliases ↔ ∃ front rest, FirstClosed text front aliases.text rest := by
  constructor
  · exact exists_firstClosed_of_find?
  · rintro ⟨front, rest, h⟩
    exact h.find?_eq_some

/-- No closed annotation stands in front of the first one. -/
theorem FirstClosed.length_le (h : FirstClosed text front list rest) {other more last : List Char}
    (hother : FirstClosed text other more last) : front.length ≤ other.length := by
  by_contra hlt
  have hopen := h.earlier other _ hother.behind_opening (Nat.lt_of_not_le hlt)
  rw [takeWhile_closing hother.line] at hopen
  exact hopen (List.infix_append more closing _)

/-- A text is cut around its first closed annotation in one way only. -/
theorem FirstClosed.unique (h : FirstClosed text front list rest) {other more last : List Char}
    (hother : FirstClosed text other more last) : front = other ∧ list = more ∧ rest = last := by
  have hlist : list = more := by
    have hsame := h.find?_eq_some.symm.trans hother.find?_eq_some
    exact congrArg AliasList.text (Option.some.inj hsame)
  subst hlist
  have hlength := Nat.le_antisymm (h.length_le hother) (hother.length_le h)
  have hsplit := h.split.symm.trans hother.split
  simp only [List.append_assoc] at hsplit
  obtain ⟨rfl, hbehind⟩ := List.append_inj hsplit hlength
  refine ⟨rfl, rfl, ?_⟩
  exact List.append_cancel_left (List.append_cancel_left (List.append_cancel_left hbehind))

/-! ## The names of a list -/

/-- `IsName name` says that a name can be listed: it has characters, no blanks around them, and
neither a comma nor what ends a list or its line. -/
structure IsName (name : String) : Prop where
  nonempty : name ≠ ""
  first : name.toList.head?.any Text.isBlank = false
  last : name.toList.getLast?.any Text.isBlank = false
  comma : ',' ∉ name.toList
  line : '\n' ∉ name.toList
  unclosed : ¬ closing <:+: name.toList

/-- The names on both sides of a comma are the names of the whole list. -/
theorem names_append (front rest : List Char) :
    names ⟨front ++ ',' :: rest⟩ = names ⟨front⟩ ++ names ⟨rest⟩ := by
  simp only [names, Text.split_append, List.map_append, List.filter_append]

/-- A blank in front of a list does not matter. -/
theorem names_cons {char : Char} (hblank : Text.isBlank char = true) (hcomma : char ≠ ',')
    (text : List Char) : names ⟨char :: text⟩ = names ⟨text⟩ := by
  simp only [names, Text.split, if_neg hcomma]
  cases hparts : Text.split ',' text with
  | nil => exact False.elim (Text.split_ne_nil ',' text hparts)
  | cons part parts => simp only [List.map_cons, Text.trim_cons hblank]

/-- A name alone is the only one of its list. -/
theorem IsName.names_eq {name : String} (h : IsName name) : names ⟨name.toList⟩ = [name] := by
  have hnonempty : name.toList ≠ [] := fun hnil => h.nonempty (String.toList_eq_nil_iff.mp hnil)
  simp [names, Text.split_of_not_mem h.comma, Text.trim_eq_self h.first h.last, hnonempty]

/-- The first of several names is followed by a comma and a blank. -/
theorem toList_intercalate_cons_cons (name next : String) (more : List String) :
    (", ".intercalate (name :: next :: more)).toList =
      name.toList ++ ',' :: ' ' :: (", ".intercalate (next :: more)).toList := by
  rw [String.toList_intercalate, String.toList_intercalate, List.map_cons, List.map_cons,
    List.intercalate_cons_cons, List.append_assoc]
  rfl

/-- Names that were joined by commas and blanks are the names of the list. -/
theorem names_intercalate {listed : List String} (h : ∀ name ∈ listed, IsName name) :
    names ⟨(", ".intercalate listed).toList⟩ = listed := by
  induction listed with
  | nil => rfl
  | cons name more ih =>
      cases more with
      | nil => exact (h name List.mem_cons_self).names_eq
      | cons next more =>
          have hrest := ih fun other hother => h other (List.mem_cons_of_mem name hother)
          rw [toList_intercalate_cons_cons, names_append, names_cons (by decide) (by decide), hrest,
            (h name List.mem_cons_self).names_eq, List.singleton_append]

/-- What occurs in none of several names, and has neither commas nor blanks, does not occur in the
joined names. -/
theorem not_infix_intercalate {pattern : List Char} (hpattern : pattern ≠ [])
    (hcomma : ',' ∉ pattern) (hblank : ' ' ∉ pattern) {listed : List String}
    (h : ∀ name ∈ listed, ¬ pattern <:+: name.toList) :
    ¬ pattern <:+: (", ".intercalate listed).toList := by
  induction listed with
  | nil =>
      show ¬ pattern <:+: []
      rwa [List.infix_nil]
  | cons name more ih =>
      have hname := h name List.mem_cons_self
      cases more with
      | nil => exact hname
      | cons next more =>
          have hrest := ih fun other hother => h other (List.mem_cons_of_mem name hother)
          -- the comma belongs to the text in front of the blank, which is then cut at the comma
          rw [toList_intercalate_cons_cons, List.append_cons, Text.infix_append_cons_iff hblank,
            Text.infix_append_cons_iff hcomma, List.infix_nil]
          rintro ((hfirst | hnil) | hlater)
          · exact hname hfirst
          · exact hpattern hnil
          · exact hrest hlater

/-- An annotation with joined names is the first closed one if no other is opened in front of it. -/
theorem firstClosed_intercalate {listed : List String} (h : ∀ name ∈ listed, IsName name)
    (hfront : ¬ opening <:+: front) (rest : List Char) :
    FirstClosed (front ++ opening ++ (", ".intercalate listed).toList ++ closing ++ rest) front
      (", ".intercalate listed).toList rest where
  split := rfl
  line := by
    rw [← List.singleton_infix_iff]
    refine not_infix_intercalate (List.cons_ne_nil _ _) (by decide) (by decide) ?_
    intro name hname
    rw [List.singleton_infix_iff]
    exact (h name hname).line
  unclosed := not_infix_intercalate startsOnce_closing.ne_nil (by decide) (by decide)
    fun name hname => (h name hname).unclosed
  earlier := by
    intro before after hsplit hlt
    rw [List.append_assoc (front ++ opening), List.append_assoc (front ++ opening)] at hsplit
    obtain ⟨between, rfl⟩ :=
      Text.exists_append_of_length_lt startsOnce_opening hsplit.symm hlt
    exact False.elim (hfront (List.infix_append before opening between))

/-- Reading a comment finds the list of its first closed annotation, around which the comment is cut
in one way only, and nothing if there is no way to cut it so. Names that were joined by commas and
blanks and written as the list of an annotation, behind a text without the opening mark and in front
of any text, are read back, and no other name is contained in the list. -/
theorem parse?_firstClosed (documentation : String) :
    (∀ aliases, parse? documentation = some aliases ↔
      ∃ front rest, FirstClosed documentation.toList front aliases.text rest) ∧
    (∀ front list rest other more last, FirstClosed documentation.toList front list rest →
      FirstClosed documentation.toList other more last →
      front = other ∧ list = more ∧ rest = last) ∧
    (parse? documentation = none ↔
      ∀ front list rest, ¬ FirstClosed documentation.toList front list rest) ∧
    ∀ (front rest : String) (listed : List String), (∀ name ∈ listed, IsName name) →
      ¬ opening <:+: front.toList →
      documentation =
        front ++ "@PrismaSelect.map([" ++ ", ".intercalate listed ++ "])" ++ rest →
      ∃ aliases, parse? documentation = some aliases ∧ aliases.names = listed ∧
        ∀ name, aliases.contains name = true ↔ name ∈ listed := by
  refine ⟨fun aliases => find?_eq_some_iff, ?_, ?_, ?_⟩
  · intro front list rest other more last h hother
    exact h.unique hother
  · rw [Option.eq_none_iff_forall_ne_some]
    constructor
    · intro hnone front list rest h
      exact hnone ⟨list⟩ h.find?_eq_some
    · intro hnone aliases hfound
      obtain ⟨front, rest, h⟩ := exists_firstClosed_of_find? hfound
      exact hnone front aliases.text rest h
  · rintro front rest listed hlisted hfront rfl
    have hfound : find? _ = _ := (firstClosed_intercalate hlisted hfront rest.toList).find?_eq_some
    have hnames := names_intercalate hlisted
    refine ⟨_, ?_, hnames, ?_⟩
    · rw [parse?, String.toList_append, String.toList_append, String.toList_append,
        String.toList_append]
      exact hfound
    · intro name
      rw [contains, hnames, List.contains_iff_mem]

/-- The annotation on the first line is not closed there, so the one on the second line counts. What
stands in a list may look like the end of an annotation in part. -/
theorem parse?_firstClosed_article :
    let lines := "@PrismaSelect.map([Broken\n@PrismaSelect.map([Article]) @PrismaSelect.map([Post])"
    let comment := "Posts: @PrismaSelect.map([Article, Blog]]), and more])"
    (∃ front rest, FirstClosed lines.toList front "Article".toList rest) ∧
    (∀ name ∈ ["Article", "Blog]"], IsName name) ∧ ¬ opening <:+: "Posts: ".toList ∧
    ∃ aliases, parse? comment = some aliases ∧ aliases.names = ["Article", "Blog]"] ∧
      ∀ name, aliases.contains name = true ↔ name ∈ ["Article", "Blog]"] := by
  intro lines comment
  have hlines : parse? lines = some ⟨"Article".toList⟩ := by decide +kernel
  have hlisted : ∀ name ∈ ["Article", "Blog]"], IsName name := by
    simp only [List.forall_mem_cons]
    refine ⟨?_, ?_, List.forall_mem_nil _⟩
    all_goals
      exact ⟨by decide, by decide, by decide, by decide, by decide,
        Text.before?_eq_none_iff.mp (by decide)⟩
  have hfront : ¬ opening <:+: "Posts: ".toList := Text.before?_eq_none_iff.mp (by decide)
  have hcomment : comment = "Posts: " ++ "@PrismaSelect.map([" ++
      ", ".intercalate ["Article", "Blog]"] ++ "])" ++ ", and more])" := rfl
  obtain ⟨hfound, _⟩ := parse?_firstClosed lines
  obtain ⟨_, _, _, hjoined⟩ := parse?_firstClosed comment
  exact ⟨(hfound ⟨"Article".toList⟩).mp hlines, hlisted, hfront,
    hjoined "Posts: " ", and more])" _ hlisted hfront hcomment⟩

end FieldProjection.AliasList
