import FieldProjection.Proofs.Source.Lexeme
import Mathlib.Data.List.TakeWhile

/-!
# Identifiers and the texts that spell them

An identifier is described by its characters, and what a text spells is an identifier that stands
in the text. White space and comments around it are passed over, so several texts spell one
identifier, but only an identifier spells itself: `identifier?_eq_self_iff`. None of its characters
ends a word of source text.
-/

namespace FieldProjection

/-! ## Characters of identifiers -/

namespace Text

/-- Whether two lists of ranges have no number in common. -/
def areDisjoint (first second : List (Nat × Nat)) : Bool :=
  first.all fun range => second.all fun other => range.2 < other.1 || other.2 < range.1

/-- A character lies in one of two lists of ranges at most, if they have no number in common. -/
theorem inRanges_eq_false {first second : List (Nat × Nat)} (h : areDisjoint first second = true)
    {char : Char} (hfirst : inRanges first char = true) : inRanges second char = false := by
  obtain ⟨range, hrange, hin⟩ := List.any_eq_true.mp hfirst
  rw [Bool.and_eq_true, decide_eq_true_eq, decide_eq_true_eq] at hin
  refine List.any_eq_false.mpr fun other hother hand => ?_
  rw [Bool.and_eq_true, decide_eq_true_eq, decide_eq_true_eq] at hand
  have hapart := List.all_eq_true.mp (List.all_eq_true.mp h range hrange) other hother
  rw [Bool.or_eq_true, decide_eq_true_eq, decide_eq_true_eq] at hapart
  omega

/-- No character of an identifier lies in ranges that are disjoint from its tables. -/
theorem inRanges_of_isIdentifierContinue {ranges : List (Nat × Nat)}
    (hstarts : areDisjoint Property.identifierStart ranges = true)
    (hcontinues : areDisjoint Property.identifierContinue ranges = true) {char : Char}
    (h : isIdentifierContinue char = true) : inRanges ranges char = false := by
  rcases Bool.or_eq_true_iff.mp h with hstart | hcontinue
  · exact inRanges_eq_false hstarts hstart
  · exact inRanges_eq_false hcontinues hcontinue

/-- White space is in no identifier. -/
theorem isBlank_of_isIdentifierContinue {char : Char} (h : isIdentifierContinue char = true) :
    isBlank char = false :=
  inRanges_of_isIdentifierContinue (by decide +kernel) (by decide +kernel) h

end Text

namespace Source

/-- The code points of the marks that end a word, and of those of the writing direction. -/
def markRanges : List (Nat × Nat) :=
  [(0x22, 0x22), (0x28, 0x29), (0x2F, 0x2F), (0x5B, 0x5B), (0x5D, 0x5D), (0x7B, 0x7B),
    (0x7D, 0x7D), (0x200E, 0x200F)]

/-- A character that may be in an identifier goes on with a word. -/
theorem isWordChar_of_isIdentifierContinue {char : Char}
    (h : Text.isIdentifierContinue char = true) : isWordChar char = true := by
  have hmarks : Text.inRanges markRanges char = false :=
    Text.inRanges_of_isIdentifierContinue (by decide +kernel) (by decide +kernel) h
  have hne : ∀ mark, Text.inRanges markRanges mark = true → char ≠ mark := by
    intro mark hmark heq
    rw [heq, hmark] at hmarks
    cases hmarks
  have hseparator : isSeparator char = false := by
    simp [isSeparator, Text.isBlank_of_isIdentifierContinue h, hne '\u200e' (by decide),
      hne '\u200f' (by decide)]
  have hopening : opening? char = none := by
    unfold opening?
    split
    · exact False.elim (hne '(' (by decide) rfl)
    · exact False.elim (hne '[' (by decide) rfl)
    · exact False.elim (hne '\x7b' (by decide) rfl)
    · rfl
  have hclosing : closing? char = none := by
    unfold closing?
    split
    · exact False.elim (hne ')' (by decide) rfl)
    · exact False.elim (hne ']' (by decide) rfl)
    · exact False.elim (hne '\x7d' (by decide) rfl)
    · rfl
  simp [isWordChar, hseparator, hopening, hclosing, hne '"' (by decide), hne '/' (by decide)]

/-! ## Words -/

/-- A text that has the characters of a word. -/
def IsPlainWord (word : String) : Prop :=
  ∃ first rest, word.toList = first :: rest ∧ (first = '_' ∨ Text.isIdentifierStart first = true) ∧
    ∀ char ∈ rest, Text.isIdentifierContinue char = true

/-- Any character of a word may continue one. -/
theorem IsPlainWord.isIdentifierContinue {word : String} (h : IsPlainWord word) {char : Char}
    (hmem : char ∈ word.toList) : Text.isIdentifierContinue char = true := by
  obtain ⟨first, rest, hword, hfirst, hrest⟩ := h
  rw [hword] at hmem
  rcases List.mem_cons.mp hmem with rfl | hmem
  · rcases hfirst with rfl | hstart
    · decide +kernel
    · exact Text.isIdentifierContinue_of_isIdentifierStart hstart
  · exact hrest char hmem

/-- The word at the front of a text is a word that the text starts with. -/
theorem isPlainWord_of_word? {chars rest : List Char} {word : String}
    (h : word? chars = some (word, rest)) : IsPlainWord word ∧ chars = word.toList ++ rest := by
  cases chars with
  | nil => cases h
  | cons first more =>
      rw [word?] at h
      split at h
      · next hfirst =>
          obtain ⟨rfl, rfl⟩ := Prod.mk.inj (Option.some.inj h)
          refine ⟨⟨first, more.takeWhile Text.isIdentifierContinue, String.toList_ofList, hfirst,
            ?_⟩, ?_⟩
          · exact fun char hmem => List.all_eq_true.mp List.all_takeWhile char hmem
          · rw [String.toList_ofList, List.cons_append, List.takeWhile_append_dropWhile]
      · cases h

/-- Of a word the whole is read. -/
theorem IsPlainWord.word?_eq {word : String} (h : IsPlainWord word) :
    word? word.toList = some (word, []) := by
  obtain ⟨first, rest, hword, hfirst, hrest⟩ := h
  have htake : rest.takeWhile Text.isIdentifierContinue = rest :=
    List.takeWhile_eq_self_iff.mpr hrest
  have hdrop : rest.dropWhile Text.isIdentifierContinue = [] :=
    List.dropWhile_eq_nil_iff.mpr hrest
  rw [hword, word?, if_pos hfirst, htake, hdrop, ← hword, String.ofList_toList]

/-! ## Identifiers -/

/-- A text that is an identifier. -/
inductive IsIdentifier : String → Prop where
  /-- A word that is not reserved. -/
  | word {word : String} (hplain : IsPlainWord word) (hfree : word ∉ keywords) : IsIdentifier word
  /-- A word behind its mark that is not reserved even there. -/
  | marked {word : String} (hplain : IsPlainWord word) (hfree : word ∉ unmarkable) :
    IsIdentifier ("r#" ++ word)

namespace IsIdentifier

variable {name : String}

/-- An identifier is one word of source text. -/
theorem isWord (h : IsIdentifier name) : isWord name = true := by
  have hplain : ∀ {word : String}, IsPlainWord word →
      word ≠ "" ∧ word.toList.all isWordChar = true := by
    intro word hplain
    refine ⟨?_, List.all_eq_true.mpr fun char hmem =>
      isWordChar_of_isIdentifierContinue (hplain.isIdentifierContinue hmem)⟩
    rintro rfl
    obtain ⟨first, rest, hempty, -⟩ := hplain
    cases hempty
  cases h with
  | word hword hfree => simpa [Source.isWord] using hplain hword
  | marked hword hfree =>
      have hr : isWordChar 'r' = true := by decide
      have hhash : isWordChar '#' = true := by decide
      simpa [Source.isWord, hr, hhash] using (hplain hword).2

/-- An identifier starts with a character that may continue a word. -/
theorem exists_first (h : IsIdentifier name) :
    ∃ first rest, name.toList = first :: rest ∧ Text.isIdentifierContinue first = true := by
  cases h with
  | word hword hfree =>
      obtain ⟨first, rest, hname, -⟩ := id hword
      exact ⟨first, rest, hname, hword.isIdentifierContinue (hname ▸ List.mem_cons_self)⟩
  | @marked word hword hfree =>
      exact ⟨'r', '#' :: word.toList, by simp, by decide +kernel⟩

end IsIdentifier

/-- The identifier at the front of a text is an identifier that the text starts with. -/
theorem isIdentifier_of_identifierFront? {chars rest : List Char} {identifier : String}
    (h : identifierFront? chars = some (identifier, rest)) :
    IsIdentifier identifier ∧ chars = identifier.toList ++ rest := by
  unfold identifierFront? at h
  split at h
  · next after =>
      obtain ⟨⟨word, behind⟩, hword, hfree⟩ := Option.bind_eq_some_iff.mp h
      obtain ⟨hplain, rfl⟩ := isPlainWord_of_word? hword
      dsimp only at hfree
      split at hfree
      · cases hfree
      · next hnot =>
          obtain ⟨rfl, rfl⟩ := Prod.mk.inj (Option.some.inj hfree)
          exact ⟨.marked hplain fun hmem => hnot (List.contains_iff_mem.mpr hmem), by simp⟩
  · obtain ⟨⟨word, behind⟩, hword, hfree⟩ := Option.bind_eq_some_iff.mp h
    obtain ⟨hplain, rfl⟩ := isPlainWord_of_word? hword
    dsimp only at hfree
    split at hfree
    · cases hfree
    · next hnot =>
        obtain ⟨rfl, rfl⟩ := Prod.mk.inj (Option.some.inj hfree)
        exact ⟨.word hplain fun hmem => hnot (List.contains_iff_mem.mpr hmem), rfl⟩

/-- Of an identifier the whole is read. -/
theorem IsIdentifier.identifierFront?_eq {name : String} (h : IsIdentifier name) :
    identifierFront? name.toList = some (name, []) := by
  cases h with
  | word hplain hfree =>
      unfold identifierFront?
      split
      · next after hname =>
          -- the mark has a character that no word has
          have hhash : Text.isIdentifierContinue '#' = true :=
            hplain.isIdentifierContinue (by rw [hname]; simp)
          have hnot : Text.isIdentifierContinue '#' = false := by decide +kernel
          rw [hnot] at hhash
          cases hhash
      · rw [hplain.word?_eq]
        simp [hfree]
  | @marked word hplain hfree =>
      have hchars : ("r#" ++ word).toList = 'r' :: '#' :: word.toList := by simp
      rw [hchars, identifierFront?, hplain.word?_eq]
      simp [hfree]

/-! ## Texts around identifiers -/

/-- What follows the white space and comments at the front is the end of the text. -/
theorem isSuffix_of_skipTrivia {place : Place} {chars rest : List Char}
    (h : skipTrivia place chars = some rest) : rest <:+ chars := by
  fun_induction skipTrivia place chars <;> grind [List.suffix_cons_iff]

/-- There is nothing to pass over in front of a word. -/
theorem skipTrivia_of_isIdentifierContinue {first : Char}
    (h : Text.isIdentifierContinue first = true) (rest : List Char) :
    skipTrivia .between (first :: rest) = some (first :: rest) := by
  have hfirst := isWordChar_of_isIdentifierContinue h
  simp only [isWordChar, Bool.and_eq_true, Bool.not_eq_true', decide_eq_true_eq] at hfirst
  obtain ⟨⟨⟨⟨hseparator, -⟩, hslash⟩, -⟩, -⟩ := hfirst
  rw [skipTrivia, if_neg (by rw [hseparator]; exact Bool.false_ne_true)]
  · exact fun _ hand => False.elim (hslash hand)
  · exact fun _ hand => False.elim (hslash hand)

/-- The identifier that a text spells is an identifier, and it stands in the text. -/
theorem isIdentifier_of_identifier? {text identifier : String}
    (h : identifier? text = some identifier) :
    IsIdentifier identifier ∧ identifier.toList <:+: text.toList := by
  obtain ⟨front, hfront, hrest⟩ := Option.bind_eq_some_iff.mp h
  obtain ⟨⟨found, rest⟩, hfound, hend⟩ := Option.bind_eq_some_iff.mp hrest
  obtain ⟨behind, -, hlast⟩ := Option.bind_eq_some_iff.mp hend
  obtain ⟨hidentifier, rfl⟩ := isIdentifier_of_identifierFront? hfound
  have hmark : withoutMark text.toList <:+ text.toList := by
    unfold withoutMark
    split
    · next hchars => exact hchars ▸ List.suffix_cons _ _
    · exact List.suffix_rfl
  cases behind with
  | nil =>
      obtain rfl := Option.some.inj hlast
      have hprefix := List.prefix_append found.toList rest
      exact ⟨hidentifier,
        hprefix.isInfix.trans ((isSuffix_of_skipTrivia hfront).trans hmark).isInfix⟩
  | cons char more => cases hlast

/-- The texts that spell themselves are the identifiers. -/
theorem identifier?_eq_self_iff {name : String} :
    identifier? name = some name ↔ IsIdentifier name := by
  refine ⟨fun h => (isIdentifier_of_identifier? h).1, fun h => ?_⟩
  obtain ⟨first, rest, hname, hfirst⟩ := h.exists_first
  have hmark : withoutMark (first :: rest) = first :: rest := by
    unfold withoutMark
    split
    · next after hand =>
        have hnot : Text.isIdentifierContinue '\ufeff' = false := by decide +kernel
        rw [(List.cons.inj hand).1, hnot] at hfirst
        cases hfirst
    · rfl
  have hfront : skipTrivia .between (withoutMark name.toList) = some name.toList := by
    rw [hname, hmark, skipTrivia_of_isIdentifierContinue hfirst]
  simp only [identifier?, hfront, h.identifierFront?_eq, Option.bind_eq_bind, Option.bind_some]
  rfl

instance : DecidablePred IsIdentifier := fun _ => decidable_of_iff _ identifier?_eq_self_iff

end Source

end FieldProjection
