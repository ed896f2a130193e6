import FieldProjection.CommandLine.Arguments
import FieldProjection.Datamodel.Document
import FieldProjection.Emission

/-!
# The command `generate`

The command reads a datamodel from a file, generates its schema and writes it to the output
directory, which is given by an option or else by the configuration.
-/

namespace FieldProjection.CommandLine

/-- Settings for options that the command line leaves out. -/
structure Config where
  output : Option String := none
deriving DecidableEq

/-- The configuration with the suggested output directory. -/
def Config.suggested : Config := ⟨some Emission.defaultDirectory⟩

/-- Why a command did not succeed. -/
inductive Failure where
  | refused (refusal : Refusal)
  | unreadable (fault : FileFault)
  | failed (error : Error)

/-- What is reported while a command runs. -/
inductive Event where
  | reading (path : String)
  | emission (event : Emission.Event)
deriving DecidableEq

/-- The record of a report. -/
def Event.record : Event → LogRecord
  | .reading path => ⟨.debug, "reading datamodel from " ++ path⟩
  | .emission event => event.record

/-- What is printed about generated files. -/
def report (generated : Generated) : String :=
  "".intercalate (generated.paths.map fun path => "Generated " ++ path ++ "\n")

/-- The name and version of the program. -/
def versionText : String :=
  Source.generatorName ++ " " ++ Source.generatorVersion ++ "\n"

/-- The output directory of a command. -/
def GenerateArguments.directory (arguments : GenerateArguments) (config : Config) :
    Option String :=
  arguments.output.or config.output

/-- Generates the files of a datamodel from its text. -/
def documentScript (directory : Option String) (text : String) :
    ExceptT Failure (Script Event) Generated := do
  let models ← (Datamodel.parse text).mapError fun fault => Failure.failed fault.error
  let generation := (generationScript directory models).run.mapEvents Event.emission
  let generated ← (ExceptT.mk generation).adapt Failure.failed
  Script.say (report generated)
  return generated

/-- The command with its arguments. -/
def generateScript (config : Config) (arguments : GenerateArguments) :
    ExceptT Failure (Script Event) Generated := do
  Script.tell (.reading arguments.datamodel)
  let text ← (Script.readText arguments.datamodel).adapt Failure.unreadable
  documentScript (arguments.directory config) text

/-- The command that the arguments call for. -/
def script (config : Config) (arguments : List String) :
    ExceptT Failure (Script Event) Generated := do
  let command ← (parse arguments).mapError Failure.refused
  generateScript config command

/-- What becomes of the command that the arguments call for. -/
def run (config : Config) (arguments : List String) (files : FileSystem) :
    Execution Event (Except Failure Generated) :=
  (script config arguments).run.run files

end FieldProjection.CommandLine
