/-!
# Outlines of nested data

Data written with a part on each line, indented by four spaces a level: a name with its fields in
braces, or a name with its content in parentheses.
-/

namespace FieldProjection.Text

/-- Nested data by name. -/
inductive Outline where
  | leaf (text : String)
  | tuple (name : String) (content : Outline)
  | record (name : String) (fields : List (String × Outline))

namespace Outline

/-- The start of a line at a level. -/
def indent (level : Nat) : String :=
  String.ofList (List.replicate (4 * level) ' ')

mutual

/-- The text of an outline whose last line stands at a level. -/
def render (level : Nat) : Outline → String
  | .leaf text => text
  | .tuple name content =>
    name ++ "(\n" ++ indent (level + 1) ++ render (level + 1) content ++ ",\n" ++
      indent level ++ ")"
  | .record name fields => name ++ " \x7b\n" ++ renderFields level fields ++ indent level ++ "\x7d"

/-- The lines of the fields of an outline. -/
def renderFields (level : Nat) : List (String × Outline) → String
  | [] => ""
  | (name, content) :: rest =>
    indent (level + 1) ++ name ++ ": " ++ render (level + 1) content ++ ",\n" ++
      renderFields level rest

end

end Outline

end FieldProjection.Text
