import FieldProjection.Text.Property

/-!
# Identifiers in source text

The identifier that a text spells, if it spells nothing else. White space and comments around the
identifier are allowed, but no documentation comments, and a byte order mark in front of all.
Keywords are no identifiers, unless they are marked by `r#`.
-/

namespace FieldProjection.Source

/-- Where in the text between two tokens a scan is. -/
inductive Place where
  | between
  | lineComment
  | blockComment (enclosing : Nat)

/-- A character that separates tokens: white space or a mark of the writing direction. -/
def isSeparator (char : Char) : Bool :=
  Text.isBlank char || char = '\u200e' || char = '\u200f'

/-- Whether a line comment is documentation, given what follows its two slashes. -/
def isLineDocumentation : List Char → Bool
  | '!' :: _ => true
  | '/' :: '/' :: _ => false
  | '/' :: _ => true
  | _ => false

/-- Whether a block comment is documentation, given what follows its slash and star. -/
def isBlockDocumentation : List Char → Bool
  | '!' :: _ => true
  | '*' :: '*' :: _ => false
  | '*' :: '/' :: _ => false
  | '*' :: _ => true
  | _ => false

/-- What follows the white space and comments at the front, or nothing if one is not closed. -/
def skipTrivia : Place → List Char → Option (List Char)
  | .between, '/' :: '/' :: rest =>
    if isLineDocumentation rest then some ('/' :: '/' :: rest) else skipTrivia .lineComment rest
  | .between, '/' :: '*' :: rest =>
    if isBlockDocumentation rest then some ('/' :: '*' :: rest)
    else skipTrivia (.blockComment 0) rest
  | .between, char :: rest =>
    if isSeparator char then skipTrivia .between rest else some (char :: rest)
  | .lineComment, char :: rest =>
    if char = '\n' then skipTrivia .between rest else skipTrivia .lineComment rest
  | .blockComment enclosing, '*' :: '/' :: rest =>
    match enclosing with
    | 0 => skipTrivia .between rest
    | enclosing + 1 => skipTrivia (.blockComment enclosing) rest
  | .blockComment enclosing, '/' :: '*' :: rest =>
    skipTrivia (.blockComment (enclosing + 1)) rest
  | .blockComment enclosing, _ :: rest => skipTrivia (.blockComment enclosing) rest
  | .between, [] => some []
  | .lineComment, [] => some []
  | .blockComment _, [] => none

/-- The words that are reserved. -/
def keywords : List String :=
  ["_", "abstract", "as", "async", "await", "become", "box", "break", "const", "continue", "crate",
   "do", "dyn", "else", "enum", "extern", "false", "final", "fn", "for", "if", "impl", "in", "let",
   "loop", "macro", "match", "mod", "move", "mut", "override", "priv", "pub", "ref", "return",
   "Self", "self", "static", "struct", "super", "trait", "true", "try", "type", "typeof", "unsafe",
   "unsized", "use", "virtual", "where", "while", "yield"]

/-- The words that are reserved even with the mark `r#`. -/
def unmarkable : List String :=
  ["_", "super", "self", "Self", "crate"]

/-- The word at the front of a text and what follows it. -/
def word? : List Char → Option (String × List Char)
  | [] => none
  | first :: rest =>
    if first = '_' ∨ Text.isIdentifierStart first then
      some (String.ofList (first :: rest.takeWhile Text.isIdentifierContinue),
        rest.dropWhile Text.isIdentifierContinue)
    else none

/-- The identifier at the front of a text and what follows it. -/
def identifierFront? : List Char → Option (String × List Char)
  | 'r' :: '#' :: rest => do
    let (word, rest) ← word? rest
    if unmarkable.contains word then none else return ("r#" ++ word, rest)
  | text => do
    let (word, rest) ← word? text
    if keywords.contains word then none else return (word, rest)

/-- A text without the byte order mark in front. -/
def withoutMark : List Char → List Char
  | '\ufeff' :: rest => rest
  | text => text

/-- The identifier that a text spells. -/
def identifier? (text : String) : Option String := do
  let front ← skipTrivia .between (withoutMark text.toList)
  let (identifier, rest) ← identifierFront? front
  match ← skipTrivia .between rest with
  | [] => some identifier
  | _ => none

end FieldProjection.Source
