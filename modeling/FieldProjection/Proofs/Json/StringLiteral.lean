import FieldProjection.Json.Reader
import FieldProjection.Json.Writer

/-!
# String literals

A string literal is read back as the string that it was written for, whatever characters the
string has: `string_literal`. Each character is written as itself or as an escape, and
`escapeChar_cases` says of both what the reader needs to know.
-/

namespace FieldProjection.Json

open Reader

/-- What has been read is handed on. -/
theorem Reader.bind_eq {ε α β : Type} {first : Except ε α} {found : α} (h : first = .ok found)
    (next : α → Except ε β) : first >>= next = next found := by
  rw [h]
  rfl

/-- A hexadecimal digit has the value that it was written for. -/
theorem Reader.hexDigit?_hexDigit {number : Nat} (h : number < 16) :
    Reader.hexDigit? (Writer.hexDigit number) = some number := by
  have hall : ∀ number < 16, Reader.hexDigit? (Writer.hexDigit number) = some number := by decide
  exact hall number h

/-- The digits of a number below 256, with two zeros in front, spell the number. -/
theorem Reader.codeUnit?_hexDigits {number : Nat} (h : number < 256) :
    codeUnit? '0' '0' (Writer.hexDigit (number / 16)) (Writer.hexDigit (number % 16)) =
      some number := by
  have hzero : Reader.hexDigit? '0' = some 0 := rfl
  have hhigh : Reader.hexDigit? (Writer.hexDigit (number / 16)) = some (number / 16) :=
    hexDigit?_hexDigit (by omega)
  have hlow : Reader.hexDigit? (Writer.hexDigit (number % 16)) = some (number % 16) :=
    hexDigit?_hexDigit (by omega)
  have hvalue : ((0 * 16 + 0) * 16 + number / 16) * 16 + number % 16 = number := by omega
  simp only [codeUnit?, hzero, hhigh, hlow, Option.bind_eq_bind, Option.bind_some]
  exact congrArg some hvalue

/-- The escape of a control character is read as the character. -/
theorem Reader.escape_control {char : Char} (h : char.toNat < 0x20) (rest : Input) :
    escape ('u' :: '0' :: '0' :: Writer.hexDigit (char.toNat / 16) ::
      Writer.hexDigit (char.toNat % 16) :: rest) = .ok (char, rest) := by
  have hlow : isLowSurrogate char.toNat = false := by
    simp only [isLowSurrogate, Bool.and_eq_false_iff, decide_eq_false_iff_not]
    omega
  have hhigh : isHighSurrogate char.toNat = false := by
    simp only [isHighSurrogate, Bool.and_eq_false_iff, decide_eq_false_iff_not]
    omega
  have hunit : codeUnit? '0' '0' (Writer.hexDigit (char.toNat / 16))
      (Writer.hexDigit (char.toNat % 16)) = some char.toNat :=
    codeUnit?_hexDigits (by omega)
  simp only [escape, codeUnit, hunit]
  show (if isLowSurrogate char.toNat then _ else _) = _
  rw [hlow, hhigh]
  show Except.ok (Char.ofNat char.toNat, rest) = _
  rw [Char.ofNat_toNat]

/-- A character of a string literal stands for itself, or is written as a backslash and what the
reader of escapes reads as that character. -/
theorem Writer.escapeChar_cases (char : Char) :
    (escapeChar char = [char] ∧ char ≠ '"' ∧ char ≠ '\\' ∧ ¬char.toNat < 0x20) ∨
      ∃ body, escapeChar char = '\\' :: body ∧
        ∀ rest, Reader.escape (body ++ rest) = .ok (char, rest) := by
  unfold escapeChar
  split
  case h_1 | h_2 | h_3 | h_4 | h_5 | h_6 | h_7 => exact .inr ⟨_, rfl, fun _ => rfl⟩
  case h_8 hquote hbackslash _ _ _ _ _ =>
    split
    · next hcontrol => exact .inr ⟨_, rfl, fun rest => escape_control hcontrol rest⟩
    · next hcontrol => exact .inl ⟨rfl, hquote, hbackslash, hcontrol⟩

/-- A string literal is at least as long as its string. -/
theorem Writer.length_le_flatMap_escapeChar (chars : List Char) :
    chars.length ≤ (chars.flatMap escapeChar).length := by
  induction chars with
  | nil => exact Nat.le_refl _
  | cons char more ih =>
      have hchar : 1 ≤ (escapeChar char).length := by
        rcases escapeChar_cases char with ⟨hself, _⟩ | ⟨body, hbody, _⟩
        · rw [hself]
          exact Nat.le_refl _
        · rw [hbody, List.length_cons]
          omega
      rw [List.flatMap_cons, List.length_append, List.length_cons]
      omega

/-- The characters of a string literal are read up to the closing quote. -/
theorem Reader.stringChars_literal (chars : List Char) {bound : Nat} (h : chars.length < bound)
    (rest : Input) :
    stringChars bound (chars.flatMap Writer.escapeChar ++ '"' :: rest) = .ok (chars, rest) := by
  induction chars generalizing bound with
  | nil =>
      obtain ⟨bound, rfl⟩ := Nat.exists_eq_add_one_of_ne_zero (Nat.ne_of_gt h)
      rfl
  | cons char more ih =>
      rw [List.length_cons] at h
      obtain ⟨bound, rfl⟩ := Nat.exists_eq_add_one_of_ne_zero (Nat.ne_zero_of_lt h)
      have hbound : more.length < bound := Nat.lt_of_succ_lt_succ h
      have hmore := ih hbound
      rw [List.flatMap_cons, List.append_assoc]
      rcases Writer.escapeChar_cases char with ⟨hself, hquote, hbackslash, hcontrol⟩ |
        ⟨body, hbody, hescape⟩
      · rw [hself]
        show stringChars (bound + 1) (char :: (_ ++ '"' :: rest)) = _
        rw [stringChars, if_neg hquote, if_neg hbackslash, if_neg hcontrol, hmore]
        rfl
      · rw [hbody]
        show stringChars (bound + 1) ('\\' :: (body ++ (_ ++ '"' :: rest))) = _
        rw [stringChars, if_neg (by decide), if_pos rfl, hescape]
        exact bind_eq hmore _

/-- A string literal starts with a quote, behind which its string is read. -/
theorem Reader.string_literal (text : String) (rest : Input) :
    ∃ body, Writer.string text ++ rest = '"' :: body ∧ Reader.string body = .ok (text, rest) := by
  refine ⟨text.toList.flatMap Writer.escapeChar ++ '"' :: rest, ?_, ?_⟩
  · simp [Writer.string]
  · have hlength := Writer.length_le_flatMap_escapeChar text.toList
    have hbound : text.toList.length <
        (text.toList.flatMap Writer.escapeChar ++ '"' :: rest).length + 1 := by
      rw [List.length_append]
      omega
    rw [Reader.string, stringChars_literal text.toList hbound rest]
    show Except.ok (String.ofList text.toList, rest) = _
    rw [String.ofList_toList]

end FieldProjection.Json
