import FieldProjection.Proofs.Source.StringLiteral
import FieldProjection.Source.Schema

/-!
# Reading source text as tokens

Source text is cut into lexemes: words and marks, string literals, and the delimiters of groups. A
word goes on to the next blank or delimiter, which is how generated source separates them, and what
follows two slashes on their line is passed over. The lexemes of groups are then put together, so
the tokens that a text was rendered from are found again: `ofText?_renderAll`.
-/

namespace FieldProjection.Source

/-! ## Lexemes -/

/-- A part of source text: a word or mark, a string literal in its written form, or one of the
delimiters of a group. -/
inductive Lexeme where
  | word (text : String)
  | literal (text : String)
  | opening (delimiter : Delimiter)
  | closing (delimiter : Delimiter)

/-- The delimiter that a character opens. -/
def opening? : Char → Option Delimiter
  | '(' => some .parenthesis
  | '[' => some .bracket
  | '\x7b' => some .brace
  | _ => none

/-- The delimiter that a character closes. -/
def closing? : Char → Option Delimiter
  | ')' => some .parenthesis
  | ']' => some .bracket
  | '\x7d' => some .brace
  | _ => none

/-- Where in source text a scan is. What it has read of a word or a literal is kept in reverse. -/
inductive Scanning where
  /-- Within a word, or between words if nothing of one was read. -/
  | word (front : List Char)
  /-- Within a string literal: whether it has no escapes, and whether a backslash was just read. -/
  | literal (raw : Bool) (front : List Char) (escaped : Bool)
  /-- Within a comment. -/
  | comment

/-- The word that was read, if something of one was. -/
def wordOf : List Char → List Lexeme
  | [] => []
  | front => [.word (String.ofList front.reverse)]

/-- The lexemes of source text. -/
def lexemes? : Scanning → List Char → Option (List Lexeme)
  | .word front, [] => some (wordOf front)
  | .literal .., [] => none
  | .comment, [] => some []
  | .word front, char :: rest =>
    if isSeparator char then (lexemes? (.word []) rest).map (wordOf front ++ ·)
    else if char = '"' then lexemes? (.literal (front = ['r']) (char :: front) false) rest
    else if char = '/' ∧ front = ['/'] then lexemes? .comment rest
    else
      match opening? char, closing? char with
      | some delimiter, _ =>
        (lexemes? (.word []) rest).map (wordOf front ++ .opening delimiter :: ·)
      | none, some delimiter =>
        (lexemes? (.word []) rest).map (wordOf front ++ .closing delimiter :: ·)
      | none, none => lexemes? (.word (char :: front)) rest
  | .literal raw front escaped, char :: rest =>
    if escaped then lexemes? (.literal raw (char :: front) false) rest
    else if char = '"' then
      (lexemes? (.word []) rest).map (.literal (String.ofList (char :: front).reverse) :: ·)
    else lexemes? (.literal raw (char :: front) (char = '\\' ∧ ¬raw)) rest
  | .comment, char :: rest => lexemes? (if char = '\n' then .word [] else .comment) rest

/-! ## Groups -/

/-- Puts lexemes together to tokens. The tokens read so far in the innermost group are kept in
reverse, and so are those in front of each group that is open. -/
def groups? : List Lexeme → List Token → List (Delimiter × List Token) → Option (List Token)
  | [], tokens, [] => some tokens.reverse
  | [], _, _ :: _ => none
  | .word text :: rest, tokens, enclosing => groups? rest (.plain text :: tokens) enclosing
  | .literal text :: rest, tokens, enclosing => groups? rest (.literal text :: tokens) enclosing
  | .opening delimiter :: rest, tokens, enclosing =>
    groups? rest [] ((delimiter, tokens) :: enclosing)
  | .closing _ :: _, _, [] => none
  | .closing delimiter :: rest, tokens, (opened, outer) :: enclosing =>
    if opened = delimiter then groups? rest (.group delimiter tokens.reverse :: outer) enclosing
    else none

namespace Token

/-- The tokens of source text. -/
def ofText? (text : String) : Option (List Token) :=
  (lexemes? (.word []) text.toList).bind fun lexemes => groups? lexemes [] []

mutual

/-- The lexemes of a token. -/
def lexemes : Token → List Lexeme
  | .plain text => [.word text]
  | .literal text => [.literal text]
  | .group delimiter content => .opening delimiter :: (lexemesAll content ++ [.closing delimiter])

/-- The lexemes of a list of tokens. -/
def lexemesAll : List Token → List Lexeme
  | [] => []
  | token :: rest => lexemes token ++ lexemesAll rest

end

mutual

/-- The lexemes of a token are put together to the token. -/
theorem groups?_lexemes (token : Token) (rest : List Lexeme) (tokens : List Token)
    (enclosing : List (Delimiter × List Token)) :
    groups? (lexemes token ++ rest) tokens enclosing =
      groups? rest (token :: tokens) enclosing := by
  cases token with
  | plain text => rfl
  | literal text => rfl
  | group delimiter content =>
      rw [lexemes, List.cons_append, List.append_assoc, groups?,
        groups?_lexemesAll content _ [], List.append_nil, List.singleton_append, groups?,
        if_pos rfl, List.reverse_reverse]

/-- The lexemes of a list of tokens are put together to the tokens. -/
theorem groups?_lexemesAll (content : List Token) (rest : List Lexeme) (tokens : List Token)
    (enclosing : List (Delimiter × List Token)) :
    groups? (lexemesAll content ++ rest) tokens enclosing =
      groups? rest (content.reverse ++ tokens) enclosing := by
  cases content with
  | nil => rfl
  | cons token more =>
      rw [lexemesAll, List.append_assoc, groups?_lexemes token, groups?_lexemesAll more,
        List.reverse_cons, List.append_assoc, List.singleton_append]

end

end Token

/-! ## Lexemes of rendered tokens -/

/-- A character that goes on with a word. -/
def isWordChar (char : Char) : Bool :=
  !isSeparator char && char ≠ '"' && char ≠ '/' && (opening? char).isNone &&
    (closing? char).isNone

/-- A text that is one word. -/
def isWord (text : String) : Bool :=
  text ≠ "" && text.toList.all isWordChar

/-- The characters of a word are added to what was read of it. -/
theorem lexemes?_wordChars {chars : List Char} (h : ∀ char ∈ chars, isWordChar char = true)
    (front rest : List Char) :
    lexemes? (.word front) (chars ++ rest) = lexemes? (.word (chars.reverse ++ front)) rest := by
  induction chars generalizing front with
  | nil => rfl
  | cons char more ih =>
      rw [List.forall_mem_cons] at h
      have hchar := h.1
      simp only [isWordChar, Bool.and_eq_true, Bool.not_eq_true', decide_eq_true_eq,
        Option.isNone_iff_eq_none] at hchar
      obtain ⟨⟨⟨⟨hseparator, hquote⟩, hslash⟩, hopening⟩, hclosing⟩ := hchar
      rw [List.cons_append, lexemes?, if_neg (by rw [hseparator]; exact Bool.false_ne_true),
        if_neg hquote, if_neg fun hand => hslash hand.1, hopening, hclosing]
      show lexemes? (.word (char :: front)) (more ++ rest) = _
      rw [ih h.2, List.reverse_cons, List.append_assoc, List.singleton_append]

/-- An opening delimiter is a lexeme. -/
theorem lexemes?_opening {char : Char} {delimiter : Delimiter}
    (h : opening? char = some delimiter) (rest : List Char) :
    lexemes? (.word []) (char :: rest) =
      (lexemes? (.word []) rest).map (.opening delimiter :: ·) := by
  unfold opening? at h
  split at h <;> cases h <;> rfl

/-- A closing delimiter is a lexeme. -/
theorem lexemes?_closing {char : Char} {delimiter : Delimiter}
    (h : closing? char = some delimiter) (rest : List Char) :
    lexemes? (.word []) (char :: rest) =
      (lexemes? (.word []) rest).map (.closing delimiter :: ·) := by
  unfold closing? at h
  split at h <;> cases h <;> rfl

/-- A blank is passed over. -/
theorem lexemes?_space (rest : List Char) :
    lexemes? (.word []) (' ' :: rest) = lexemes? (.word []) rest := by
  show (lexemes? (.word []) rest).map (fun lexemes => [] ++ lexemes) = _
  exact Option.map_id'

/-- What follows a rendered token: the end of the text, a blank or the end of a group. -/
def EndsWord (rest : List Char) : Prop :=
  rest = [] ∨ ∃ char more, rest = char :: more ∧ char ∈ [' ', '\n', ')', ']']

/-- A word ends in front of such a text. -/
theorem lexemes?_of_endsWord {rest : List Char} (h : EndsWord rest) (front : List Char) :
    lexemes? (.word front) rest = (lexemes? (.word []) rest).map (wordOf front ++ ·) := by
  rcases h with rfl | ⟨char, more, rfl, hchar⟩
  · exact congrArg some (List.append_nil _).symm
  · have hblank : (lexemes? (.word []) more).map (wordOf front ++ ·) =
        ((lexemes? (.word []) more).map ([] ++ ·)).map (wordOf front ++ ·) := by
      rw [Option.map_map]
      rfl
    have hclosing : ∀ delimiter : Delimiter,
        (lexemes? (.word []) more).map (wordOf front ++ .closing delimiter :: ·) =
          ((lexemes? (.word []) more).map ([] ++ .closing delimiter :: ·)).map
            (wordOf front ++ ·) := by
      intro delimiter
      rw [Option.map_map]
      rfl
    simp only [List.mem_cons, List.not_mem_nil, or_false] at hchar
    rcases hchar with rfl | rfl | rfl | rfl
    · exact hblank
    · exact hblank
    · exact hclosing .parenthesis
    · exact hclosing .bracket

namespace Token

/-- The lexemes of a token are found in its rendered text, whatever follows that ends a word. -/
def Reads (token : Token) : Prop :=
  ∀ rest, EndsWord rest →
    lexemes? (.word []) (token.render.toList ++ rest) =
      (lexemes? (.word []) rest).map (token.lexemes ++ ·)

/-- A word is found. -/
theorem Reads.plain {text : String} (h : isWord text = true) : (Token.plain text).Reads := by
  intro rest hrest
  obtain ⟨hempty, hchars⟩ := Bool.and_eq_true_iff.mp h
  have hword : ∀ front ≠ [], wordOf front = [.word (String.ofList front.reverse)] := by
    intro front hfront
    cases front with
    | nil => exact False.elim (hfront rfl)
    | cons first more => rfl
  have hne : text.toList.reverse ≠ [] := fun hnil =>
    of_decide_eq_true hempty (String.toList_eq_nil_iff.mp (List.reverse_eq_nil_iff.mp hnil))
  rw [render, lexemes?_wordChars (List.all_eq_true.mp hchars), List.append_nil,
    lexemes?_of_endsWord hrest, hword _ hne, List.reverse_reverse, String.ofList_toList]
  rfl

/-- The lexemes of tokens are found in their rendered text. -/
theorem lexemes?_renderAll {tokens : List Token} (h : ∀ token ∈ tokens, token.Reads)
    {rest : List Char} (hrest : EndsWord rest) :
    lexemes? (.word []) ((renderAll tokens).toList ++ rest) =
      (lexemes? (.word []) rest).map (lexemesAll tokens ++ ·) := by
  induction tokens with
  | nil => exact Option.map_id'.symm
  | cons token more ih =>
      rw [List.forall_mem_cons] at h
      cases more with
      | nil =>
          rw [renderAll, h.1 rest hrest, lexemesAll, lexemesAll, List.append_nil]
      | cons next others =>
          have hspace : EndsWord (' ' :: ((renderAll (next :: others)).toList ++ rest)) :=
            .inr ⟨' ', _, rfl, List.mem_cons_self⟩
          have hlist : (renderAll (token :: next :: others)).toList ++ rest =
              token.render.toList ++ ' ' :: ((renderAll (next :: others)).toList ++ rest) := by
            simp [renderAll]
          rw [hlist, h.1 _ hspace, lexemes?_space, ih h.2, Option.map_map, lexemesAll]
          congr 1
          funext lexemes
          exact (List.append_assoc ..).symm

/-- The lexemes of tokens are found between the delimiters of a group. -/
theorem lexemes?_enclosed {content : List Token} {delimiter : Delimiter} {start finish : Char}
    (hstart : opening? start = some delimiter) (hfinish : closing? finish = some delimiter)
    {rest inside : List Char}
    (hinside : lexemes? (.word []) inside =
      (lexemes? (.word []) (finish :: rest)).map (lexemesAll content ++ ·)) :
    lexemes? (.word []) (start :: inside) =
      (lexemes? (.word []) rest).map ((Token.group delimiter content).lexemes ++ ·) := by
  rw [lexemes?_opening hstart, hinside, lexemes?_closing hfinish, Option.map_map, Option.map_map]
  congr 1
  funext lexemes
  simp [Token.lexemes]

/-- A group of tokens that are found is found. -/
theorem Reads.group (delimiter : Delimiter) {content : List Token}
    (h : ∀ token ∈ content, token.Reads) : (Token.group delimiter content).Reads := by
  intro rest _
  have hinside : ∀ char more, char ∈ [' ', '\n', ')', ']'] →
      lexemes? (.word []) ((renderAll content).toList ++ char :: more) =
        (lexemes? (.word []) (char :: more)).map (lexemesAll content ++ ·) :=
    fun char more hchar => lexemes?_renderAll h (.inr ⟨char, more, rfl, hchar⟩)
  cases delimiter with
  | parenthesis =>
      have hlist : (Token.group .parenthesis content).render.toList ++ rest =
          '(' :: ((renderAll content).toList ++ ')' :: rest) := by
        simp [render, enclose]
      rw [hlist]
      exact lexemes?_enclosed rfl rfl (hinside ')' rest (by decide))
  | bracket =>
      have hlist : (Token.group .bracket content).render.toList ++ rest =
          '[' :: ((renderAll content).toList ++ ']' :: rest) := by
        simp [render, enclose]
      rw [hlist]
      exact lexemes?_enclosed rfl rfl (hinside ']' rest (by decide))
  | brace =>
      have hspace := hinside ' ' ('\x7d' :: rest) (by decide)
      rw [lexemes?_space] at hspace
      by_cases hempty : renderAll content = ""
      · have hlist : (Token.group .brace content).render.toList ++ rest =
            '\x7b' :: ' ' :: '\x7d' :: rest := by
          simp [render, enclose, hempty]
        rw [hempty, String.toList_empty, List.nil_append, lexemes?_space] at hspace
        rw [hlist]
        exact lexemes?_enclosed rfl rfl ((lexemes?_space _).trans hspace)
      · have hlist : (Token.group .brace content).render.toList ++ rest =
            '\x7b' :: ' ' :: ((renderAll content).toList ++ ' ' :: '\x7d' :: rest) := by
          simp [render, enclose, hempty]
        rw [hlist]
        exact lexemes?_enclosed rfl rfl ((lexemes?_space _).trans hspace)

/-! ## String literals -/

/-- The bare characters of a literal are added to what was read of it. -/
theorem lexemes?_bareChars {chars : List Char} (h : ∀ char ∈ chars, IsBare char)
    (front rest : List Char) :
    lexemes? (.literal false front false) (chars ++ rest) =
      lexemes? (.literal false (chars.reverse ++ front) false) rest := by
  induction chars generalizing front with
  | nil => rfl
  | cons char more ih =>
      rw [List.forall_mem_cons] at h
      obtain ⟨hquote, hbackslash⟩ := h.1
      have hescape : decide (char = '\\' ∧ ¬(false = true)) = false := by
        simp [hbackslash]
      rw [List.cons_append, lexemes?, if_neg Bool.false_ne_true, if_neg hquote, hescape, ih h.2,
        List.reverse_cons, List.append_assoc, List.singleton_append]

/-- What is written for a text is added to what was read of a literal. -/
theorem lexemes?_literalBody (chars : List Char) (front rest : List Char) :
    lexemes? (.literal false front false) (literalBody chars ++ rest) =
      lexemes? (.literal false ((literalBody chars).reverse ++ front) false) rest := by
  induction chars generalizing front with
  | nil => rfl
  | cons char more ih =>
      have hwritten : ∀ front after, lexemes? (.literal false front false)
          (written char more ++ after) =
            lexemes? (.literal false ((written char more).reverse ++ front) false) after := by
        intro front after
        rcases written_cases char more with ⟨hself, hbare, -⟩ | ⟨second, others, hescape, hbare, -⟩
        · rw [hself]
          exact lexemes?_bareChars (List.forall_mem_singleton.mpr hbare) front after
        · -- behind the backslash any character goes on with the literal
          have hsecond : lexemes? (.literal false front false)
              ('\\' :: second :: (others ++ after)) =
                lexemes? (.literal false (second :: '\\' :: front) false) (others ++ after) := rfl
          rw [hescape, List.cons_append, List.cons_append, hsecond, lexemes?_bareChars hbare]
          simp
      rw [literalBody_cons, List.append_assoc, hwritten, ih, List.reverse_append,
        List.append_assoc]

/-- The literal of a text is found. -/
theorem Reads.literal (content : String) : (Token.literal (Source.literal content)).Reads := by
  intro rest _
  have hlist : (Token.literal (Source.literal content)).render.toList ++ rest =
      '"' :: (literalBody content.toList ++ '"' :: rest) := by
    simp [render, Source.literal]
  have hstart : lexemes? (.word []) ('"' :: (literalBody content.toList ++ '"' :: rest)) =
      lexemes? (.literal false ['"'] false) (literalBody content.toList ++ '"' :: rest) := rfl
  have hend : ∀ front, lexemes? (.literal false front false) ('"' :: rest) =
      (lexemes? (.word []) rest).map (.literal (String.ofList ('"' :: front).reverse) :: ·) :=
    fun _ => rfl
  rw [hlist, hstart, lexemes?_literalBody, hend]
  congr 1
  funext lexemes
  simp [Token.lexemes, Source.literal]

/-- The characters of a literal without escapes are added to what was read of it. -/
theorem lexemes?_rawChars {chars : List Char} (h : '"' ∉ chars) (front rest : List Char) :
    lexemes? (.literal true front false) (chars ++ rest) =
      lexemes? (.literal true (chars.reverse ++ front) false) rest := by
  induction chars generalizing front with
  | nil => rfl
  | cons char more ih =>
      rw [List.mem_cons, not_or] at h
      have hescape : decide (char = '\\' ∧ ¬(true = true)) = false := by
        simp
      rw [List.cons_append, lexemes?, if_neg Bool.false_ne_true, if_neg (Ne.symm h.1), hescape,
        ih h.2, List.reverse_cons, List.append_assoc, List.singleton_append]

/-- A literal without escapes is found. -/
theorem Reads.rawLiteral {content : String} (h : '"' ∉ content.toList) :
    (Token.literal ("r\"" ++ content ++ "\"")).Reads := by
  intro rest _
  have hlist : (Token.literal ("r\"" ++ content ++ "\"")).render.toList ++ rest =
      'r' :: '"' :: (content.toList ++ '"' :: rest) := by
    simp [render]
  have hstart : lexemes? (.word []) ('r' :: '"' :: (content.toList ++ '"' :: rest)) =
      lexemes? (.literal true ['"', 'r'] false) (content.toList ++ '"' :: rest) := rfl
  have hend : ∀ front, lexemes? (.literal true front false) ('"' :: rest) =
      (lexemes? (.word []) rest).map (.literal (String.ofList ('"' :: front).reverse) :: ·) :=
    fun _ => rfl
  have htext : String.ofList ('"' :: (content.toList.reverse ++ ['"', 'r'])).reverse =
      "r\"" ++ content ++ "\"" := by
    rw [← String.toList_inj, String.toList_ofList]
    simp
  rw [hlist, hstart, lexemes?_rawChars h, hend, htext]
  rfl

/-! ## Whole texts -/

/-- Two slashes start a comment. -/
theorem lexemes?_slashes (rest : List Char) :
    lexemes? (.word []) ('/' :: '/' :: rest) = lexemes? .comment rest := by
  have hfirst : lexemes? (.word []) ('/' :: '/' :: rest) =
      lexemes? (.word ['/']) ('/' :: rest) := by
    rw [lexemes?, if_neg (by decide), if_neg (by decide), if_neg (by decide)]
    rfl
  rw [hfirst, lexemes?, if_neg (by decide), if_neg (by decide), if_pos ⟨rfl, rfl⟩]

/-- A comment on a line is passed over. -/
theorem lexemes?_comment {line : List Char} (h : '\n' ∉ line) (rest : List Char) :
    lexemes? .comment (line ++ '\n' :: rest) = lexemes? (.word []) rest := by
  induction line with
  | nil => rfl
  | cons char more ih =>
      rw [List.mem_cons, not_or] at h
      rw [List.cons_append, lexemes?, if_neg (Ne.symm h.1)]
      exact ih h.2

/-- The header of a file is a comment and an empty line. -/
theorem file_eq (tokens : List Token) :
    ∃ line : String, '\n' ∉ line.toList ∧
      file tokens = "//" ++ line ++ "\n\n" ++ renderAll tokens ++ "\n" := by
  have hheader : "// @generated by " ++ generatorName ++ " v" ++ generatorVersion ++
      ". Do not edit.\n\n" =
        "//" ++ " @generated by prisma-select v0.1.0. Do not edit." ++ "\n\n" := by
    simp [generatorName, generatorVersion]
  have hline : '\n' ∉ " @generated by prisma-select v0.1.0. Do not edit.".toList := by simp
  exact ⟨_, hline, congrArg (· ++ renderAll tokens ++ "\n") hheader⟩

/-- The tokens that a file was made of are found in it. -/
theorem ofText?_file {tokens : List Token} (h : ∀ token ∈ tokens, token.Reads) :
    ofText? (file tokens) = some tokens := by
  obtain ⟨line, hline, hfile⟩ := file_eq tokens
  have hlist : (file tokens).toList = '/' :: '/' :: (line.toList ++
      '\n' :: '\n' :: ((renderAll tokens).toList ++ ['\n'])) := by
    rw [hfile]
    simp
  have hend : EndsWord ['\n'] := .inr ⟨'\n', [], rfl, by decide⟩
  have hempty : ∀ rest, lexemes? (.word []) ('\n' :: rest) =
      (lexemes? (.word []) rest).map ([] ++ ·) := fun _ => rfl
  have hlexemes : lexemes? (.word []) (file tokens).toList = some (lexemesAll tokens) := by
    rw [hlist, lexemes?_slashes, lexemes?_comment hline, hempty, lexemes?_renderAll h hend]
    exact congrArg some (List.append_nil _)
  have hgroups := groups?_lexemesAll tokens [] [] []
  rw [List.append_nil, List.append_nil] at hgroups
  rw [ofText?, hlexemes, Option.bind_some, hgroups, groups?, List.reverse_reverse]

end Token

end FieldProjection.Source
