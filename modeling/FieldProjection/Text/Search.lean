import FieldProjection.Text.Property

/-!
# Searching and cutting text

Operations on lists of characters: what stands before the first occurrence of a pattern, the
parts between separators, and a text without the blanks around it.
-/

namespace FieldProjection.Text

/-- What stands before the first occurrence of a pattern. -/
def before? (pattern : List Char) : List Char → Option (List Char)
  | [] => if pattern = [] then some [] else none
  | char :: rest =>
    if pattern.isPrefixOf (char :: rest) then some []
    else (before? pattern rest).map (char :: ·)

/-- Whether a pattern occurs. -/
def occurs (pattern text : List Char) : Bool :=
  (before? pattern text).isSome

/-- The parts between the separators, of which there is one more than separators. -/
def split (separator : Char) : List Char → List (List Char)
  | [] => [[]]
  | char :: rest =>
    if char = separator then [] :: split separator rest
    else
      match split separator rest with
      | [] => [[char]]
      | part :: parts => (char :: part) :: parts

/-- A text without the blanks at its front. -/
def trimFront (text : List Char) : List Char :=
  text.dropWhile isBlank

/-- A text without the blanks at its front and its end. -/
def trim (text : List Char) : List Char :=
  (trimFront (trimFront text).reverse).reverse

/-- What stands before an occurrence is cut off in front of the pattern. -/
theorem before?_sound {pattern text front : List Char} (h : before? pattern text = some front) :
    ∃ rest, text = front ++ pattern ++ rest := by
  induction text generalizing front with
  | nil =>
    simp only [before?] at h
    split at h
    · next hp => exact ⟨[], by simp_all⟩
    · simp at h
  | cons char rest ih =>
    simp only [before?] at h
    split at h
    · next hp =>
      obtain ⟨tail, htail⟩ := List.isPrefixOf_iff_prefix.mp hp
      obtain rfl : [] = front := Option.some.inj h
      exact ⟨tail, htail.symm⟩
    · obtain ⟨inner, hinner, rfl⟩ := Option.map_eq_some_iff.mp h
      obtain ⟨tail, htail⟩ := ih hinner
      exact ⟨tail, by simp [htail]⟩

/-- There is always a part, if only an empty one. -/
theorem split_ne_nil (separator : Char) (text : List Char) : split separator text ≠ [] := by
  induction text with
  | nil => simp [split]
  | cons char rest ih =>
    simp only [split]
    split
    · simp
    · split <;> simp

/-- A text without separators is its only part. -/
theorem split_of_not_mem {separator : Char} {text : List Char} (h : separator ∉ text) :
    split separator text = [text] := by
  induction text with
  | nil => rfl
  | cons char rest ih =>
    simp only [List.mem_cons, not_or] at h
    simp [split, Ne.symm h.1, ih h.2]

/-- What stands before a separator is the first part. -/
theorem split_append_cons {separator : Char} {front : List Char} (h : separator ∉ front)
    (rest : List Char) : split separator (front ++ separator :: rest) =
      front :: split separator rest := by
  induction front with
  | nil => simp [split]
  | cons char front ih =>
    simp only [List.mem_cons, not_or] at h
    simp [split, Ne.symm h.1, ih h.2]

/-- The parts on both sides of a separator are the parts of the whole. -/
theorem split_append (separator : Char) (front rest : List Char) :
    split separator (front ++ separator :: rest) =
      split separator front ++ split separator rest := by
  induction front with
  | nil => simp [split]
  | cons char front ih =>
    rw [List.cons_append, split, split, ih]
    split
    · rfl
    · cases hparts : split separator front with
      | nil => exact absurd hparts (split_ne_nil separator front)
      | cons part parts => rfl

/-- Parts without separators are found again when they were joined by the separator. -/
theorem split_intercalate {separator : Char} (first : List Char) (more : List (List Char))
    (h : ∀ part ∈ first :: more, separator ∉ part) :
    split separator ([separator].intercalate (first :: more)) = first :: more := by
  induction more generalizing first with
  | nil => simp [split_of_not_mem (h first (by simp))]
  | cons next rest ih =>
    have hnext := ih next fun part hpart => h part (List.mem_cons_of_mem first hpart)
    simp [List.intercalate_cons_cons, split_append_cons (h first (by simp)), hnext]

end FieldProjection.Text
