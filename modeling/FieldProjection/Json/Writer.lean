import FieldProjection.Json.Basic

/-!
# Writing JSON texts

`compact` writes a value without blanks, `pretty` with one item or member a line, indented by two
spaces a level. Strings escape the double quote, the backslash and the control characters below
U+0020; all other characters stand for themselves.
-/

namespace FieldProjection.Json.Writer

/-- A hexadecimal digit in lower case. -/
def hexDigit (number : Nat) : Char :=
  Nat.digitChar number

/-- A character as a string literal holds it. -/
def escapeChar (char : Char) : List Char :=
  match char with
  | '"' => ['\\', '"']
  | '\\' => ['\\', '\\']
  | '\x08' => ['\\', 'b']
  | '\x0c' => ['\\', 'f']
  | '\n' => ['\\', 'n']
  | '\r' => ['\\', 'r']
  | '\t' => ['\\', 't']
  | _ =>
    if char.toNat < 0x20 then
      ['\\', 'u', '0', '0', hexDigit (char.toNat / 16), hexDigit (char.toNat % 16)]
    else [char]

/-- A string literal. -/
def string (text : String) : List Char :=
  '"' :: text.toList.flatMap escapeChar ++ ['"']

/-- A scalar, or the empty list or object. -/
def scalar : Json → List Char
  | .null => ['n', 'u', 'l', 'l']
  | .bool true => ['t', 'r', 'u', 'e']
  | .bool false => ['f', 'a', 'l', 's', 'e']
  | .number value => value.chars
  | .string value => string value
  | .array _ => ['[', ']']
  | .object _ => ['{', '}']

mutual

/-- A value without blanks. -/
def compact : Json → List Char
  | .array (item :: rest) => '[' :: compact item ++ compactItems rest
  | .object ((key, value) :: rest) =>
    '{' :: string key ++ ':' :: compact value ++ compactMembers rest
  | value => scalar value

/-- The items after the first, and the closing bracket. -/
def compactItems : List Json → List Char
  | [] => [']']
  | item :: rest => ',' :: compact item ++ compactItems rest

/-- The members after the first, and the closing brace. -/
def compactMembers : List (String × Json) → List Char
  | [] => ['}']
  | (key, value) :: rest => ',' :: string key ++ ':' :: compact value ++ compactMembers rest

end

/-- A new line and the indentation of a level. -/
def newLine (level : Nat) : List Char :=
  '\n' :: List.replicate (2 * level) ' '

mutual

/-- A value that starts on a line of the given level. -/
def pretty (level : Nat) : Json → List Char
  | .array (item :: rest) =>
    '[' :: newLine (level + 1) ++ pretty (level + 1) item ++ prettyItems level rest
  | .object ((key, value) :: rest) =>
    '{' :: newLine (level + 1) ++ string key ++ ':' :: ' ' :: pretty (level + 1) value ++
      prettyMembers level rest
  | value => scalar value

/-- The items after the first, and the closing bracket. -/
def prettyItems (level : Nat) : List Json → List Char
  | [] => newLine level ++ [']']
  | item :: rest =>
    ',' :: newLine (level + 1) ++ pretty (level + 1) item ++ prettyItems level rest

/-- The members after the first, and the closing brace. -/
def prettyMembers (level : Nat) : List (String × Json) → List Char
  | [] => newLine level ++ ['}']
  | (key, value) :: rest =>
    ',' :: newLine (level + 1) ++ string key ++ ':' :: ' ' :: pretty (level + 1) value ++
      prettyMembers level rest

end

end Writer

/-- The text of a value without blanks. -/
def text (value : Json) : String :=
  String.ofList (Writer.compact value)

/-- The text of a value with one item or member a line. -/
def prettyText (value : Json) : String :=
  String.ofList (Writer.pretty 0 value)

end FieldProjection.Json
