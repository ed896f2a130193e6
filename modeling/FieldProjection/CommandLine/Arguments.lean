/-!
# Command-line arguments

The command line is a program name, flags, and the command `generate` with the path of a datamodel
(`-d`, `--datamodel`) and optionally of an output directory (`-o`, `--output`). A value follows its
option, or is attached to it: after `=`, or directly after the letter. An option waits for its value
until the next flag, when it is stored; `--` ends the options. The first fault counts.
-/

namespace FieldProjection.CommandLine

/-- Why the arguments call for no command. -/
inductive Refusal where
  | help
  | helpInstead
  | version
  | invalidSubcommand
  | unknownArgument
  | invalidValue
  | missingArgument
  | repeatedArgument
  | tooManyValues
deriving DecidableEq

/-- The command `generate` with its options. -/
structure GenerateArguments where
  datamodel : String
  output : Option String
deriving DecidableEq

/-- An option of the command. -/
inductive OptionName where
  | datamodel
  | output
deriving DecidableEq

/-- The options read so far, and one that is not stored yet, with its value if that was read. -/
structure State where
  datamodel : Option String := none
  output : Option String := none
  pending : Option (OptionName × Option String) := none

namespace State

/-- Stores an option, which must have a value that is not empty and must be there only once. -/
def store (state : State) (name : OptionName) (value : Option String) : Except Refusal State :=
  match value with
  | none => .error .invalidValue
  | some value =>
    let previous := match name with
      | .datamodel => state.datamodel
      | .output => state.output
    if previous.isSome then .error .repeatedArgument
    else if value = "" then .error .invalidValue
    else
      match name with
      | .datamodel => .ok { state with datamodel := some value }
      | .output => .ok { state with output := some value }

/-- Stores the option that is not stored yet. -/
def settle (state : State) : Except Refusal State :=
  match state.pending with
  | none => .ok state
  | some (name, value) => { state with pending := none }.store name value

/-- Takes an option with the value attached to it, or one that waits for its value. -/
def take (state : State) (name : OptionName) (attached : Option String) : Except Refusal State := do
  let settled ← state.settle
  match attached with
  | some value => settled.store name (some value)
  | none => return { settled with pending := some (name, none) }

/-- The command with the options read. -/
def finish (state : State) : Except Refusal GenerateArguments := do
  let settled ← state.settle
  match settled.datamodel with
  | none => .error .missingArgument
  | some datamodel => return ⟨datamodel, settled.output⟩

end State

/-- The form of an argument. -/
inductive Form where
  /-- The end of the options. -/
  | separator
  /-- A word after two dashes, with what is attached to it by an equals sign. -/
  | long (name : String) (attached : Option String)
  /-- A letter after a dash, with what follows it. -/
  | short (letter : Char) (rest : List Char)
  /-- Anything else, also a dash alone. -/
  | word

/-- The form of an argument. -/
def formOf (argument : String) : Form :=
  match argument.toList with
  | ['-', '-'] => .separator
  | '-' :: '-' :: rest =>
    let name := String.ofList (rest.takeWhile (· ≠ '='))
    match rest.dropWhile (· ≠ '=') with
    | [] => .long name none
    | _ :: value => .long name (some (String.ofList value))
  | '-' :: letter :: rest => .short letter rest
  | _ => .word

/-- The value attached to a letter, without the equals sign that may stand between them. -/
def attachedTo : List Char → Option String
  | [] => none
  | '=' :: rest => some (String.ofList rest)
  | rest => some (String.ofList rest)

/-- Reads the arguments behind `generate`. -/
def parseGenerate : State → List String → Except Refusal GenerateArguments
  | state, [] => state.finish
  | state, argument :: rest =>
    match formOf argument with
    | .separator => if rest.isEmpty then state.finish else .error .unknownArgument
    | .long "datamodel" attached => do parseGenerate (← state.take .datamodel attached) rest
    | .long "output" attached => do parseGenerate (← state.take .output attached) rest
    | .long "help" none => do
      let _ ← state.settle
      .error .help
    | .long "help" (some _) => .error .tooManyValues
    | .long _ _ => .error .unknownArgument
    | .short 'd' letters => do parseGenerate (← state.take .datamodel (attachedTo letters)) rest
    | .short 'o' letters => do parseGenerate (← state.take .output (attachedTo letters)) rest
    | .short 'h' _ => do
      let _ ← state.settle
      .error .help
    | .short _ _ => .error .unknownArgument
    | .word =>
      match state.pending with
      | some (name, none) =>
        parseGenerate { state with pending := some (name, some argument) } rest
      | _ => .error .unknownArgument

/-- The commands. -/
def commands : List String := ["generate", "help"]

/-- What `help` says about the arguments behind it, which name a command or none. -/
def parseHelp : List String → Refusal
  | [] => .help
  | [command] => if commands.contains command then .help else .invalidSubcommand
  | _ => .invalidSubcommand

/-- Reads the arguments behind the program name. -/
def parseCommand : List String → Except Refusal GenerateArguments
  | [] => .error .helpInstead
  | "generate" :: rest => parseGenerate {} rest
  | "help" :: rest => .error (parseHelp rest)
  | argument :: rest =>
    match formOf argument with
    | .separator =>
      match rest with
      | [] => .error .helpInstead
      | next :: _ =>
        .error (if commands.contains next then .unknownArgument else .invalidSubcommand)
    | .long "help" attached => .error (if attached.isSome then .tooManyValues else .help)
    | .long "version" attached => .error (if attached.isSome then .tooManyValues else .version)
    | .long _ _ => .error .unknownArgument
    | .short 'h' _ => .error .help
    | .short 'V' _ => .error .version
    | .short _ _ => .error .unknownArgument
    | .word => .error .invalidSubcommand

/-- Reads the arguments, of which the first is the program name. -/
def parse (arguments : List String) : Except Refusal GenerateArguments :=
  parseCommand (arguments.drop 1)

end FieldProjection.CommandLine
