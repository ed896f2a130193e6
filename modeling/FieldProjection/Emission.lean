import FieldProjection.Files.Script
import FieldProjection.Json.Writer
import FieldProjection.Log
import FieldProjection.Source.Schema

/-!
# Emitting a schema

The generated files of a datamodel: the schema as JSON, its source, and the file that makes the
source available. `Emission.plan` decides everything before a file is touched, so a datamodel that
is rejected leaves no trace; `Emission.script` then creates the directory and writes the files.
-/

namespace FieldProjection

/-- The paths of the generated files. -/
structure Generated where
  json : String
  source : String
  module : String
deriving DecidableEq

namespace Generated

/-- The paths of the generated files in a directory. -/
def ofDirectory (directory : String) : Generated :=
  ⟨Path.join directory "schema.json", Path.join directory "schema.rs",
    Path.join directory "mod.rs"⟩

/-- The paths in the order in which the files are written. -/
def paths (generated : Generated) : List String :=
  [generated.json, generated.source, generated.module]

end Generated

/-- Files that are ready to be written to a directory. -/
structure Emission where
  directory : String
  modelCount : Nat
  json : String
  source : String

namespace Emission

/-- The directory that is suggested for the generated files. -/
def defaultDirectory : String := "./generated/prisma-select"

/-- There is no directory to write to. -/
def missingDirectory : Error :=
  Error.configuration
    ("Output directory is required. Add `output = \"" ++ defaultDirectory ++
      "\"` to your generator block.")

/-- The files for a datamodel. An empty path counts as no directory, which is noticed first; then
comes the schema, and then its source. -/
def plan (directory : Option String) (models : List ModelDeclaration) : Except Error Emission :=
  match directory with
  | none | some "" => .error missingDirectory
  | some directory => do
    let schema ← (Schema.generate models).mapError SchemaFault.error
    let source ← (Source.schemaFile schema).mapError SchemaFault.error
    return ⟨directory, schema.size, schema.toJson.prettyText ++ "\n", source⟩

/-- What is reported while files are written. -/
inductive Event where
  | started
  | directory (path : String)
  | finished (models : Nat)
deriving DecidableEq

/-- The record of a report. -/
def Event.record : Event → LogRecord
  | .started =>
    ⟨.info, Source.generatorName ++ " generator v" ++ Source.generatorVersion⟩
  | .directory path => ⟨.info, "output: " ++ path⟩
  | .finished models => ⟨.info, "generated " ++ toString models ++ " models"⟩

/-- The paths of the files. -/
def generated (emission : Emission) : Generated :=
  Generated.ofDirectory emission.directory

/-- The files with their contents, in the order in which they are written. -/
def contents (emission : Emission) : List (String × String) :=
  emission.generated.paths.zip [emission.json, emission.source, Source.moduleFile]

/-- Creates the directory and writes the files one after the other. -/
def script (emission : Emission) : ExceptT FileFault (Script Event) Unit := do
  Script.makeDirectories emission.directory
  Script.tell .started
  Script.tell (.directory emission.directory)
  forM emission.contents fun (path, content) => Script.writeText path content
  Script.tell (.finished emission.modelCount)

end Emission

/-- The error that a fault of an operation on files is for someone who generates them. -/
def FileFault.error (fault : FileFault) : Error :=
  .foreign (.system fault.message)

/-- Generates the files of a datamodel. -/
def generationScript (directory : Option String) (models : List ModelDeclaration) :
    ExceptT Error (Script Emission.Event) Generated := do
  let emission ← Emission.plan directory models
  emission.script.adapt FileFault.error
  return emission.generated

/-- What becomes of generating the files of a datamodel. -/
def generateFiles (directory : Option String) (models : List ModelDeclaration)
    (files : FileSystem) : Execution Emission.Event (Except Error Generated) :=
  (generationScript directory models).run.run files

end FieldProjection
