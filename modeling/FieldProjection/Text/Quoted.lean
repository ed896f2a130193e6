import FieldProjection.Text.Property

/-!
# Quoted text

The escapes of quoted text. Tab, carriage return, line feed, backslash and double quote have
escapes of two characters; a character that would not be visible, or would be drawn onto the one
before it, is written as `\u{..}` with its code point in lower-case hexadecimal; every other
character stands for itself. `quote` also writes NUL as `\0`. `quoteStrictly` escapes single quotes
as well, but leaves a character that is drawn onto another one, except at the front.
-/

namespace FieldProjection.Text

/-- Lower-case hexadecimal digits without leading zeros. -/
def hexDigits (number : Nat) : List Char := Nat.toDigits 16 number

/-- The escape of a character by its code point. -/
def codePointEscape (char : Char) : List Char :=
  ['\\', 'u', '{'] ++ hexDigits char.toNat ++ ['}']

/-- A character as quoted text holds it, NUL apart. -/
def escapeChar (char : Char) : List Char :=
  match char with
  | '\t' => ['\\', 't']
  | '\r' => ['\\', 'r']
  | '\n' => ['\\', 'n']
  | '\\' => ['\\', '\\']
  | '"' => ['\\', '"']
  | _ =>
    if isDrawnOnto char || !isPrintable char then codePointEscape char else [char]

/-- A character as quoted text holds it. -/
def quoteChar (char : Char) : List Char :=
  if char = '\x00' then ['\\', '0'] else escapeChar char

/-- A text between double quotes, with its escapes. -/
def quote (text : String) : String :=
  String.ofList ('"' :: text.toList.flatMap quoteChar ++ ['"'])

/-- A character of a text whose single quotes are escaped, too. -/
def strictFirst (char : Char) : List Char :=
  if char = '\x27' then ['\\', '\x27'] else quoteChar char

/-- A character of such a text behind the first, which may be drawn onto the one before it. -/
def strictNext (char : Char) : List Char :=
  if isDrawnOnto char && isPrintable char then [char] else strictFirst char

/-- The characters of a text whose single quotes are escaped, too. -/
def strictBody : List Char → List Char
  | [] => []
  | first :: rest => strictFirst first ++ rest.flatMap strictNext

/-- A text between double quotes with the escapes that it would need between single quotes. -/
def quoteStrictly (text : String) : String :=
  String.ofList ('"' :: strictBody text.toList ++ ['"'])

end FieldProjection.Text
