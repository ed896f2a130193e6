import FieldProjection.CommandLine.Command

/-!
# The program

The command line on the files of the machine. What is requested, reported and printed, and in which
order, is described by `CommandLine.script`; this module carries it out and ends the program.
-/

namespace FieldProjection.Program

open CommandLine

/-- How the program is called. -/
def usage : String :=
  "Usage: prisma-select generate --datamodel <DATAMODEL> [--output <OUTPUT>]"

/-- Prints a report unless it is of little importance. -/
def log (record : LogRecord) : IO Unit :=
  if record.level = .info then IO.eprintln (record.level.name ++ " " ++ record.message)
  else pure ()

/-- The result of an action, or its fault. -/
def attempt {α : Type} (action : IO α) : IO (Except FileFault α) := do
  match ← action.toBaseIO with
  | .ok result => return .ok result
  | .error fault => return .error (.other (toString fault))

/-- Answers a request from the files of the machine. -/
def answer : (request : Request) → IO request.Answer
  | .readText path => attempt (IO.FS.readFile path)
  | .makeDirectories path => attempt (IO.FS.createDirAll path)
  | .write path content => attempt (IO.FS.writeBinFile path content)

/-- Carries a script out on the machine. -/
def perform {ε α : Type} (record : ε → LogRecord) : Script ε α → IO α
  | .done result => return result
  | .ask request next => do
    let found ← answer request
    perform record (next found)
  | .report event next => do
    log (record event)
    perform record next
  | .print text next => do
    IO.print text
    perform record next

/-- Answers arguments that call for no command. -/
def refuse (refusal : Refusal) : IO UInt32 := do
  match refusal with
  | .help =>
    IO.println usage
    return 0
  | .version =>
    IO.print versionText
    return 0
  | _ =>
    IO.eprintln usage
    return 2

/-- Ends the program with the message of an error. -/
def fail (message : String) : IO UInt32 := do
  IO.eprintln ("Error: " ++ message)
  return 1

end FieldProjection.Program

open FieldProjection in
/-- Runs the command that the arguments call for. The first argument of a command line is the name
of the program, which is not handed over. -/
def main (arguments : List String) : IO UInt32 := do
  let script := CommandLine.script {} (Source.generatorName :: arguments)
  match ← Program.perform CommandLine.Event.record script.run with
  | .ok _ => return 0
  | .error (.refused refusal) => Program.refuse refusal
  | .error (.unreadable fault) => Program.fail fault.message
  | .error (.failed error) => Program.fail error.display
