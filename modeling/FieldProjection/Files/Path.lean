import FieldProjection.Text.Search

/-!
# Paths

A path is a text whose parts are separated by slashes. Empty parts and single dots do not lead
anywhere, two dots lead to the enclosing directory, and a slash in front starts at the root.
-/

namespace FieldProjection.Path

/-- Whether a path starts at the root. -/
def isAbsolute (path : String) : Bool :=
  path.toList.head? = some '/'

/-- All parts of a path. -/
def parts (path : String) : List String :=
  (Text.split '/' path.toList).map String.ofList

/-- Whether a part leads nowhere. -/
def isIdle (part : String) : Bool :=
  part = "" || part = "."

/-- The parts of a path without those that lead nowhere, except for a dot in front. -/
def steps (path : String) : List String :=
  match parts path with
  | "." :: rest => "." :: rest.filter fun part => !isIdle part
  | all => all.filter fun part => !isIdle part

/-- The path of some steps. -/
def ofSteps (absolute : Bool) (steps : List String) : String :=
  (if absolute then "/" else "") ++ "/".intercalate steps

/-- The paths of all beginnings of a list of steps given in reverse, the longest first. -/
def beginnings (absolute : Bool) : List String → List String
  | [] => if absolute then ["/"] else []
  | step :: rest => ofSteps absolute (step :: rest).reverse :: beginnings absolute rest

/-- The paths of the directories that enclose a path, the nearest first. -/
def parents (path : String) : List String :=
  (beginnings (isAbsolute path) (steps path).reverse).drop 1

/-- The path of a name in a directory. -/
def join (directory name : String) : String :=
  if directory.toList.getLast? = some '/' then directory ++ name else directory ++ "/" ++ name

end FieldProjection.Path
