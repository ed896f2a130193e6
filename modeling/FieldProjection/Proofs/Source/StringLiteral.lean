import FieldProjection.Json.Reader
import FieldProjection.Source.Literal

/-!
# Reading string literals of source text

`unquote?` reads a string literal by the rules of the language: a character stands for itself, or a
backslash starts an escape. It reads more escapes than `literal` writes. What is written for a text
is read as this text: `unquote?_literal`. Each character is written as itself or as one escape;
`written_cases` says of both what a reader needs to know.
-/

namespace FieldProjection.Source

open Json.Reader (hexDigit?)

/-! ## The rules -/

/-- Where in a string literal a reader is. -/
inductive LiteralPlace where
  /-- In front of a character or an escape, and perhaps behind a line that was continued. -/
  | text (continued : Bool)
  /-- Behind a backslash. -/
  | escape
  /-- In front of the first or the second digit of a byte. -/
  | byte (high : Option Nat)
  /-- In front of the brace of a code point. -/
  | brace
  /-- Between the braces of a code point, behind some digits. -/
  | codePoint (digits value : Nat)

/-- The character of an escape of two characters. -/
def shortEscape? : Char → Option Char
  | 'n' => some '\n'
  | 'r' => some '\r'
  | 't' => some '\t'
  | '\\' => some '\\'
  | '0' => some '\x00'
  | '\x27' => some '\x27'
  | '"' => some '"'
  | _ => none

/-- Reads the characters of a string literal, the closing quote included. -/
def readLiteral : LiteralPlace → List Char → Option (List Char)
  | _, [] => none
  | .text continued, char :: rest =>
    if continued ∧ Json.Reader.isBlank char then readLiteral (.text true) rest
    else if char = '"' then if rest = [] then some [] else none
    else if char = '\\' then readLiteral .escape rest
    else if char = '\r' then none
    else (readLiteral (.text false) rest).map (char :: ·)
  | .escape, char :: rest =>
    if char = 'x' then readLiteral (.byte none) rest
    else if char = 'u' then readLiteral .brace rest
    else if char = '\n' then readLiteral (.text true) rest
    else (shortEscape? char).bind fun meant => (readLiteral (.text false) rest).map (meant :: ·)
  | .byte none, char :: rest =>
    (hexDigit? char).bind fun high =>
      if high < 8 then readLiteral (.byte (some high)) rest else none
  | .byte (some high), char :: rest =>
    (hexDigit? char).bind fun low =>
      (readLiteral (.text false) rest).map (Char.ofNat (high * 16 + low) :: ·)
  | .brace, char :: rest =>
    if char = '{' then readLiteral (.codePoint 0 0) rest else none
  | .codePoint digits value, char :: rest =>
    if char = '}' then
      if digits ≠ 0 ∧ value.isValidChar then
        (readLiteral (.text false) rest).map (Char.ofNat value :: ·)
      else none
    else if char = '_' ∧ digits ≠ 0 then readLiteral (.codePoint digits value) rest
    else
      (hexDigit? char).bind fun digit =>
        if digits < 6 then readLiteral (.codePoint (digits + 1) (value * 16 + digit)) rest
        else none

/-- The text that a string literal stands for. -/
def unquote? (written : String) : Option String :=
  match written.toList with
  | '"' :: rest => (readLiteral (.text false) rest).map String.ofList
  | _ => none

/-! ## Code points -/

/-- A hexadecimal digit is read, and it is no other character of an escape. -/
theorem hexDigit?_digitChar {digit : Nat} (h : digit < 16) :
    hexDigit? digit.digitChar = some digit ∧ digit.digitChar ≠ '}' ∧ digit.digitChar ≠ '_' ∧
      digit.digitChar ≠ '"' ∧ digit.digitChar ≠ '\\' := by
  have hall : ∀ digit < 16, hexDigit? digit.digitChar = some digit ∧ digit.digitChar ≠ '}' ∧
      digit.digitChar ≠ '_' ∧ digit.digitChar ≠ '"' ∧ digit.digitChar ≠ '\\' := by decide
  exact hall digit h

/-- One more digit is read behind fewer than six. -/
theorem readLiteral_digit {digits value digit : Nat} (hdigits : digits < 6) (h : digit < 16)
    (rest : List Char) :
    readLiteral (.codePoint digits value) (digit.digitChar :: rest) =
      readLiteral (.codePoint (digits + 1) (value * 16 + digit)) rest := by
  obtain ⟨hread, hbrace, hunderscore, -⟩ := hexDigit?_digitChar h
  rw [readLiteral, if_neg hbrace, if_neg fun hand => hunderscore hand.1, hread, Option.bind_some,
    if_pos hdigits]

/-- The digits of a number of at most six of them are read as the number. -/
theorem readLiteral_hexDigits {number : Nat} (h : number < 0x1000000) (rest : List Char) :
    readLiteral (.codePoint 0 0) (Text.hexDigits number ++ rest) =
      readLiteral (.codePoint (Text.hexDigits number).length number) rest := by
  induction number using Nat.strongRecOn generalizing rest with
  | ind number ih =>
      unfold Text.hexDigits at ih ⊢
      by_cases hsmall : number < 16
      · rw [Nat.toDigits_of_lt_base hsmall]
        show readLiteral (.codePoint 0 0) (number.digitChar :: rest) = _
        rw [readLiteral_digit (by decide) hsmall, Nat.zero_mul, Nat.zero_add number]
        rfl
      · -- the last digit comes behind those of the number without it
        have hsplit : Nat.toDigits 16 number =
            Nat.toDigits 16 (number / 16) ++ [(number % 16).digitChar] :=
          Nat.toDigits_of_base_le (by decide) (Nat.not_lt.mp hsmall)
        have hfront : number / 16 < 0x100000 := by omega
        have hlength : (Nat.toDigits 16 (number / 16)).length ≤ 5 :=
          (Nat.length_toDigits_le_iff (by decide) (by decide)).mpr hfront
        have hvalue : number / 16 * 16 + number % 16 = number := by omega
        rw [hsplit, List.append_assoc, ih (number / 16) (by omega) (by omega),
          List.singleton_append, readLiteral_digit (by omega) (by omega), hvalue,
          List.length_append]
        rfl

/-- The escape of a character by its code point is read. -/
theorem readLiteral_codePoint (char : Char) (rest : List Char) :
    readLiteral .escape (('u' :: '{' :: Text.hexDigits char.toNat ++ ['}']) ++ rest) =
      (readLiteral (.text false) rest).map (char :: ·) := by
  have hvalid : char.toNat.isValidChar := char.valid
  have hsmall : char.toNat < 0x1000000 := by
    rcases hvalid with h | ⟨-, h⟩ <;> omega
  have hdigits : (Text.hexDigits char.toNat).length ≠ 0 := Nat.ne_of_gt Nat.length_toDigits_pos
  show readLiteral (.codePoint 0 0) ((Text.hexDigits char.toNat ++ ['}']) ++ rest) = _
  rw [List.append_assoc, readLiteral_hexDigits hsmall, List.singleton_append, readLiteral,
    if_pos rfl, if_pos ⟨hdigits, hvalid⟩, Char.ofNat_toNat]

/-! ## Written characters -/

/-- What is written for a character in front of the rest of a text. -/
def written (char : Char) (rest : List Char) : List Char :=
  if char = '\x00' then if startsOctal rest then ['\\', 'x', '0', '0'] else ['\\', '0']
  else Text.escapeChar char

/-- A literal holds what is written for each character. -/
theorem literalBody_cons (char : Char) (rest : List Char) :
    literalBody (char :: rest) = written char rest ++ literalBody rest := rfl

/-- Whether a character stands for itself and neither ends a literal nor starts an escape. -/
def IsBare (char : Char) : Prop := char ≠ '"' ∧ char ≠ '\\'

/-- The digits of a number are bare. -/
theorem isBare_of_mem_hexDigits {number : Nat} {char : Char} (h : char ∈ Text.hexDigits number) :
    IsBare char := by
  induction number using Nat.strongRecOn with
  | ind number ih =>
      have hlast : IsBare (number % 16).digitChar := by
        obtain ⟨-, -, -, hquote, hbackslash⟩ :=
          hexDigit?_digitChar (Nat.mod_lt number (by decide : 16 > 0))
        exact ⟨hquote, hbackslash⟩
      unfold Text.hexDigits at ih h
      by_cases hsmall : number < 16
      · rw [Nat.toDigits_of_lt_base hsmall, List.mem_singleton] at h
        rw [Nat.mod_eq_of_lt hsmall] at hlast
        exact h ▸ hlast
      · rw [Nat.toDigits_of_base_le (by decide) (Nat.not_lt.mp hsmall), List.mem_append,
          List.mem_singleton] at h
        rcases h with hfront | hdigit
        · exact ih (number / 16) (by omega) hfront
        · exact hdigit ▸ hlast

/-- A character is written as itself, or as a backslash and what is read behind it as the
character; of this, only the first character may be a quote or another backslash. -/
theorem written_cases (char : Char) (rest : List Char) :
    (written char rest = [char] ∧ IsBare char ∧ char ≠ '\r') ∨
      ∃ second more, written char rest = '\\' :: second :: more ∧ (∀ other ∈ more, IsBare other) ∧
        ∀ after, readLiteral .escape (second :: more ++ after) =
          (readLiteral (.text false) after).map (char :: ·) := by
  have hnone : ∀ other ∈ ([] : List Char), IsBare other :=
    fun other hmem => False.elim (List.not_mem_nil hmem)
  unfold written
  split
  · next hnul =>
      subst hnul
      split
      · have hzero : IsBare '0' := ⟨by decide, by decide⟩
        refine .inr ⟨'x', ['0', '0'], rfl, ?_, fun after => rfl⟩
        exact List.forall_mem_cons.mpr ⟨hzero, List.forall_mem_singleton.mpr hzero⟩
      · exact .inr ⟨'0', [], rfl, hnone, fun after => rfl⟩
  · unfold Text.escapeChar
    split
    case h_1 | h_2 | h_3 | h_4 | h_5 => exact .inr ⟨_, [], rfl, hnone, fun after => rfl⟩
    case h_6 hreturn _ hbackslash hquote =>
      split
      · refine .inr ⟨'u', '{' :: Text.hexDigits char.toNat ++ ['}'], rfl, ?_,
          readLiteral_codePoint char⟩
        intro other hmem
        simp only [List.cons_append, List.mem_cons, List.mem_append, List.not_mem_nil,
          or_false] at hmem
        rcases hmem with rfl | hdigit | rfl
        · exact ⟨by decide, by decide⟩
        · exact isBare_of_mem_hexDigits hdigit
        · exact ⟨by decide, by decide⟩
      · exact .inl ⟨rfl, ⟨hquote, hbackslash⟩, hreturn⟩

/-- What is written for a text is read up to the closing quote. -/
theorem readLiteral_literalBody (chars : List Char) :
    readLiteral (.text false) (literalBody chars ++ ['"']) = some chars := by
  induction chars with
  | nil => rfl
  | cons char rest ih =>
      rw [literalBody_cons, List.append_assoc]
      rcases written_cases char rest with ⟨hself, ⟨hquote, hbackslash⟩, hreturn⟩ |
        ⟨second, more, hescape, -, hread⟩
      · rw [hself, List.singleton_append, readLiteral, if_neg (by simp), if_neg hquote,
          if_neg hbackslash, if_neg hreturn, ih]
        rfl
      · rw [hescape, List.cons_append, readLiteral, if_neg (by simp), if_neg (by decide),
          if_pos rfl, hread, ih]
        rfl

/-- The literal of a text stands for the text. -/
theorem unquote?_literal (text : String) : unquote? (literal text) = some text := by
  rw [unquote?, literal, String.toList_ofList]
  show (readLiteral (.text false) (literalBody text.toList ++ ['"'])).map String.ofList = _
  rw [readLiteral_literalBody, Option.map_some, String.ofList_toList]

end FieldProjection.Source
