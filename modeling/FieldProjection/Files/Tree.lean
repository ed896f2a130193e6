import FieldProjection.Entries
import FieldProjection.Files.Path

/-!
# A system of files

Directories hold files and directories by name; a system of files is a tree of them with a working
directory. Operations take paths, which are walked part by part through existing directories. They
fail with the faults that a system call would give, and an operation that fails changes nothing.
Only `makeDirectories` is made of several operations and may fail after some of them: it answers
with the fault, if there is one, and with the files as they are then.
-/

namespace FieldProjection

/-- Why an operation on a file failed. A system of files has no other faults than those named here;
a machine may have. -/
inductive FileFault where
  | notFound
  | notDirectory
  | isDirectory
  | exists
  | nameTooLong
  | nulInName
  | notText
  | other (message : String)
deriving DecidableEq

/-- The wording of the fault. -/
def FileFault.message : FileFault → String
  | .notFound => "No such file or directory (os error 2)"
  | .notDirectory => "Not a directory (os error 20)"
  | .isDirectory => "Is a directory (os error 21)"
  | .exists => "File exists (os error 17)"
  | .nameTooLong => "File name too long (os error 36)"
  | .nulInName => "file name contained an unexpected NUL byte"
  | .notText => "stream did not contain valid UTF-8"
  | .other message => message

/-- A file with its bytes, or a directory. -/
inductive FileTree where
  | file (content : ByteArray)
  | directory (entries : List (String × FileTree))

namespace FileTree

/-- The directory without entries. -/
def empty : FileTree := .directory []

/-- What stands at a place, given by the names that lead there. -/
def at? : FileTree → List String → Option FileTree
  | tree, [] => some tree
  | .file _, _ :: _ => none
  | .directory entries, name :: rest => (Entries.find? name entries).bind fun tree => tree.at? rest

/-- Puts a tree at a place, in directories that are created where they are missing. -/
def put (tree : FileTree) : List String → FileTree → FileTree
  | [], new => new
  | name :: rest, new =>
    match tree with
    | .file content => .file content
    | .directory entries =>
      .directory
        (Entries.insert name (((Entries.find? name entries).getD empty).put rest new) entries)

end FileTree

/-- A tree of files and the place of the working directory. -/
structure FileSystem where
  root : FileTree
  working : List String

namespace FileSystem

/-- The longest name in bytes. -/
def maxNameBytes : Nat := 255

/-- The longest path in bytes. -/
def maxPathBytes : Nat := 4095

/-- Walks the parts of a path from a place. All places on the way must be directories. -/
def walk (root : FileTree) : List String → List String → Except FileFault (List String)
  | place, [] => .ok place
  | place, part :: rest =>
    match root.at? place with
    | none => .error .notFound
    | some (.file _) => .error .notDirectory
    | some (.directory _) =>
      if Path.isIdle part then walk root place rest
      else if part = ".." then walk root place.dropLast rest
      else if maxNameBytes < part.utf8ByteSize then .error .nameTooLong
      else walk root (place ++ [part]) rest

/-- The place that the parts of a path lead to. Something need not be there yet. -/
def placeOf (files : FileSystem) (path : String) (parts : List String) :
    Except FileFault (List String) :=
  if path = "" then .error .notFound
  else if path.toList.contains '\x00' then .error .nulInName
  else if maxPathBytes < path.utf8ByteSize then .error .nameTooLong
  else walk files.root (if Path.isAbsolute path then [] else files.working) parts

/-- What stands at a path. -/
def find? (files : FileSystem) (path : String) : Option FileTree :=
  match files.placeOf path (Path.parts path) with
  | .ok place => files.root.at? place
  | .error _ => none

/-- Whether a directory stands at a path. -/
def isDirectory (files : FileSystem) (path : String) : Bool :=
  match files.find? path with
  | some (.directory _) => true
  | _ => false

/-- The text of a file. -/
def readText (files : FileSystem) (path : String) : Except FileFault String := do
  match files.root.at? (← files.placeOf path (Path.parts path)) with
  | none => .error .notFound
  | some (.directory _) => .error .isDirectory
  | some (.file content) =>
    match String.fromUTF8? content with
    | none => .error .notText
    | some text => .ok text

/-- Writes a file in an existing directory, in place of one that is there. -/
def write (files : FileSystem) (path : String) (content : ByteArray) :
    Except FileFault FileSystem := do
  let place ← files.placeOf path (Path.parts path)
  match files.root.at? place with
  | some (.directory _) => .error .isDirectory
  | _ => .ok { files with root := files.root.put place (.file content) }

/-- The parts of a path without empty ones at the end. -/
def withoutEnd (parts : List String) : List String :=
  (parts.reverse.dropWhile (· = "")).reverse

/-- Creates a directory in an existing one. -/
def makeDirectory (files : FileSystem) (path : String) : Except FileFault FileSystem := do
  let place ← files.placeOf path (withoutEnd (Path.parts path))
  match files.root.at? place with
  | some _ => .error .exists
  | none => .ok { files with root := files.root.put place .empty }

/-- Creates a directory unless it is there. -/
def ensureDirectory (files : FileSystem) (path : String) : Except FileFault FileSystem :=
  match files.makeDirectory path with
  | .error .exists => if files.isDirectory path then .ok files else .error .exists
  | result => result

/-- What an operation leaves: its fault and the same files, or the changed files. -/
def settle (files : FileSystem) : Except FileFault FileSystem → Option FileFault × FileSystem
  | .ok changed => (none, changed)
  | .error fault => (some fault, files)

/-- Creates a directory, and the directories that enclose it where they are missing. The enclosing
paths are given, the nearest first. Directories created before a fault remain. -/
def makeDirectoriesIn (files : FileSystem) (path : String) :
    List String → Option FileFault × FileSystem
  | [] => files.settle (files.ensureDirectory path)
  | parent :: rest =>
    match files.ensureDirectory path with
    | .error .notFound =>
      match files.makeDirectoriesIn parent rest with
      | (none, created) => created.settle (created.ensureDirectory path)
      | (some fault, created) => (some fault, created)
    | result => files.settle result

/-- Creates a directory, and the directories that enclose it where they are missing. -/
def makeDirectories (files : FileSystem) (path : String) : Option FileFault × FileSystem :=
  files.makeDirectoriesIn path (Path.parents path)

end FileSystem

end FieldProjection
