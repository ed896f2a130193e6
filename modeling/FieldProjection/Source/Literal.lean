import FieldProjection.Text.Quoted

/-!
# String literals

A string literal holds its text between double quotes, with the escapes of quoted text. NUL is
written as `\0`, or as `\x00` where a following octal digit would seem to belong to it.
-/

namespace FieldProjection.Source

/-- Whether a text starts with an octal digit. -/
def startsOctal : List Char → Bool
  | char :: _ => '0' ≤ char && char ≤ '7'
  | [] => false

/-- The characters of a literal between its quotes. -/
def literalBody : List Char → List Char
  | [] => []
  | char :: rest =>
    let written :=
      if char = '\x00' then
        if startsOctal rest then ['\\', 'x', '0', '0'] else ['\\', '0']
      else Text.escapeChar char
    written ++ literalBody rest

/-- The literal of a text. -/
def literal (text : String) : String :=
  String.ofList ('"' :: literalBody text.toList ++ ['"'])

end FieldProjection.Source
