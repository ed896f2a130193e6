import FieldProjection.Text.Search
import Mathlib.Data.List.TakeWhile

/-!
# First occurrences of a pattern

`Text.before?` gives what stands before the first occurrence of a pattern. It gives nothing just
when the pattern does not occur (`before?_eq_none_iff`). When the first character of a pattern
occurs nowhere else in it, its occurrences do not overlap, and then a text is cut in front of the
pattern in one way only, given that the pattern does not occur in what is cut off:
`append_pattern_inj`.
-/

namespace FieldProjection.Text

/-- The first character of a pattern occurs nowhere else in it. -/
def StartsOnce : List Char → Prop
  | [] => False
  | char :: rest => char ∉ rest

variable {pattern text front rest : List Char}

/-- A pattern that starts has a first character. -/
theorem StartsOnce.ne_nil (h : StartsOnce pattern) : pattern ≠ [] := by
  rintro rfl
  exact h

/-- Nothing is found just when the pattern does not occur. -/
theorem before?_eq_none_iff : before? pattern text = none ↔ ¬ pattern <:+: text := by
  induction text with
  | nil =>
      rw [before?, List.infix_nil]
      split <;> simp_all
  | cons char rest ih =>
      rw [before?, List.infix_cons_iff]
      by_cases hprefix : pattern.isPrefixOf (char :: rest) = true
      · rw [if_pos hprefix]
        simp [List.isPrefixOf_iff_prefix.mp hprefix]
      · rw [if_neg hprefix, Option.map_eq_none_iff, ih]
        rw [List.isPrefixOf_iff_prefix] at hprefix
        exact ⟨fun h hor => hor.elim hprefix h, fun h hinfix => h (.inr hinfix)⟩

/-- What stands before the first occurrence of a pattern does not contain it. -/
theorem not_infix_of_before? (hpattern : pattern ≠ []) (h : before? pattern text = some front) :
    ¬ pattern <:+: front := by
  induction text generalizing front with
  | nil => simp [before?, hpattern] at h
  | cons char rest ih =>
      rw [before?] at h
      split at h
      · obtain rfl := Option.some.inj h
        rwa [List.infix_nil]
      · next hprefix =>
          obtain ⟨inner, hinner, rfl⟩ := Option.map_eq_some_iff.mp h
          obtain ⟨tail, hrest⟩ := before?_sound hinner
          rw [List.infix_cons_iff]
          rintro (hfirst | hlater)
          · -- an occurrence at the front would have been found there
            apply hprefix
            rw [List.isPrefixOf_iff_prefix, hrest, List.append_assoc]
            exact hfirst.trans (List.prefix_append (char :: inner) _)
          · exact ih hinner hlater

/-- Of two occurrences of a pattern that starts once, the earlier one ends before the other
starts. -/
theorem exists_append_of_length_lt (hpattern : StartsOnce pattern) {before after : List Char}
    (h : before ++ pattern ++ after = front ++ pattern ++ rest)
    (hlt : before.length < front.length) : ∃ between, front = before ++ pattern ++ between := by
  rw [List.append_assoc, List.append_assoc] at h
  rcases List.append_eq_append_iff.mp h with ⟨gap, hfront, hgap⟩ | ⟨gap, hbefore, _⟩
  · rcases List.append_eq_append_iff.mp hgap with ⟨between, hbetween, _⟩ | ⟨overlap, hsplit, hrest⟩
    · exact ⟨between, by rw [hfront, hbetween, List.append_assoc]⟩
    · subst hsplit
      cases gap with
      | nil => simp [hfront] at hlt
      | cons char more =>
          cases overlap with
          | nil => exact ⟨[], by rw [hfront, List.append_nil, List.append_nil]⟩
          | cons other last =>
              -- the later occurrence would start within the earlier one
              obtain rfl : char = other := (List.cons.inj hrest).1
              exact False.elim (hpattern (List.mem_append_right more List.mem_cons_self))
  · rw [hbefore, List.length_append] at hlt
    omega

/-- A text is cut in front of a pattern that starts once in one way only, if the pattern does not
occur in what is cut off. -/
theorem append_pattern_inj (hpattern : StartsOnce pattern) {other after : List Char}
    (hfront : ¬ pattern <:+: front) (hother : ¬ pattern <:+: other)
    (h : front ++ pattern ++ rest = other ++ pattern ++ after) : front = other ∧ rest = after := by
  have hlength : front.length = other.length := by
    rcases Nat.lt_trichotomy front.length other.length with hlt | heq | hgt
    · obtain ⟨between, rfl⟩ := exists_append_of_length_lt hpattern h hlt
      exact False.elim (hother (List.infix_append front pattern between))
    · exact heq
    · obtain ⟨between, rfl⟩ := exists_append_of_length_lt hpattern h.symm hgt
      exact False.elim (hfront (List.infix_append other pattern between))
  rw [List.append_assoc, List.append_assoc] at h
  obtain ⟨rfl, hrest⟩ := List.append_inj h hlength
  exact ⟨rfl, List.append_cancel_left hrest⟩

/-- In front of a pattern that starts once, all is found that does not contain the pattern. -/
theorem before?_append (hpattern : StartsOnce pattern) (hfront : ¬ pattern <:+: front)
    (rest : List Char) : before? pattern (front ++ pattern ++ rest) = some front := by
  cases hfound : before? pattern (front ++ pattern ++ rest) with
  | none => exact False.elim (before?_eq_none_iff.mp hfound (List.infix_append front pattern rest))
  | some found =>
      obtain ⟨tail, hsplit⟩ := before?_sound hfound
      have hclear := not_infix_of_before? hpattern.ne_nil hfound
      rw [(append_pattern_inj hpattern hfront hclear hsplit).1]

/-- A pattern cannot reach across a character that it does not contain. -/
theorem infix_append_cons_iff {char : Char} (hchar : char ∉ pattern) :
    pattern <:+: front ++ char :: rest ↔ pattern <:+: front ∨ pattern <:+: rest := by
  constructor
  · intro h
    rcases List.infix_append_iff.mp h with hfront | hlater | ⟨left, right, rfl, hleft, hright⟩
    · exact .inl hfront
    · rcases List.infix_cons_iff.mp hlater with hprefix | hrest
      · cases pattern with
        | nil => exact .inr List.nil_infix
        | cons first more =>
            obtain rfl := (List.cons_prefix_cons.mp hprefix).1
            exact False.elim (hchar List.mem_cons_self)
      · exact .inr hrest
    · cases right with
      | nil =>
          rw [List.append_nil]
          exact .inl hleft.isInfix
      | cons first more =>
          obtain rfl := (List.cons_prefix_cons.mp hright).1
          exact False.elim (hchar (List.mem_append_right left List.mem_cons_self))
  · rintro (hfront | hrest)
    · exact hfront.trans (List.prefix_append front _).isInfix
    · exact (hrest.trans (List.suffix_cons char rest).isInfix).trans
        (List.suffix_append front _).isInfix

/-! ## Blanks around a text -/

/-- A text that starts and ends with no blank has none around it. -/
theorem trim_eq_self (hfirst : text.head?.any isBlank = false)
    (hlast : text.getLast?.any isBlank = false) : trim text = text := by
  have hfront (part : List Char) (hpart : part.head?.any isBlank = false) :
      trimFront part = part := by
    cases part with
    | nil => rfl
    | cons char rest => exact List.dropWhile_cons_of_neg (Bool.eq_false_iff.mp hpart)
  have hback : trimFront text.reverse = text.reverse :=
    hfront text.reverse (by rw [List.head?_reverse, hlast])
  rw [trim, hfront text hfirst, hback, List.reverse_reverse]

/-- A blank in front of a text does not matter once it is trimmed. -/
theorem trim_cons {char : Char} (hblank : isBlank char = true) (text : List Char) :
    trim (char :: text) = trim text := by
  have hfront : trimFront (char :: text) = trimFront text := List.dropWhile_cons_of_pos hblank
  rw [trim, trim, hfront]

end FieldProjection.Text
