import FieldProjection.Text.Search

/-!
# Source text as tokens

Generated source is a list of tokens on one line, with single blanks between them. Parentheses and
brackets stand close to what they enclose, braces apart from it.
-/

namespace FieldProjection.Source

/-- What encloses a group. -/
inductive Delimiter where
  | parenthesis
  | bracket
  | brace
deriving DecidableEq

/-- A token: a word or mark, a string literal in its written form, or an enclosed group. -/
inductive Token where
  | plain (text : String)
  | literal (text : String)
  | group (delimiter : Delimiter) (content : List Token)

namespace Token

/-- Words and marks written with single blanks between them. -/
def phrase (text : String) : List Token :=
  (Text.split ' ' text.toList).map fun part => .plain (String.ofList part)

/-- A group in parentheses. -/
def parens (content : List Token) : Token := .group .parenthesis content

/-- A group in brackets. -/
def brackets (content : List Token) : Token := .group .bracket content

/-- A group in braces. -/
def braces (content : List Token) : Token := .group .brace content

/-- A group with what it encloses already written. -/
def enclose (delimiter : Delimiter) (content : String) : String :=
  match delimiter with
  | .parenthesis => "(" ++ content ++ ")"
  | .bracket => "[" ++ content ++ "]"
  | .brace => if content = "" then "\x7b \x7d" else "\x7b " ++ content ++ " \x7d"

mutual

/-- The text of a token. -/
def render : Token → String
  | .plain text => text
  | .literal text => text
  | .group delimiter content => enclose delimiter (renderAll content)

/-- The text of a list of tokens. -/
def renderAll : List Token → String
  | [] => ""
  | [token] => render token
  | token :: next :: rest => render token ++ " " ++ renderAll (next :: rest)

end

end Token

end FieldProjection.Source
