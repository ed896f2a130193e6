import FieldProjection.Files.Tree

/-!
# Scripts

A script describes what a program asks of its surroundings: it requests operations on files, each of
which is answered, reports events and prints texts, and its result may depend on the answers. So a
program is described once, and whoever carries the script out decides what the requests do. `run`
carries it out on a system of files.
-/

namespace FieldProjection

/-- An operation on files that a script may request. -/
inductive Request where
  | readText (path : String)
  | makeDirectories (path : String)
  | write (path : String) (content : ByteArray)

/-- How a request is answered: by a fault, or else with a text if one was read. -/
abbrev Request.Answer : Request → Type
  | .readText _ => Except FileFault String
  | .makeDirectories _ => Except FileFault Unit
  | .write _ _ => Except FileFault Unit

/-- The answer to a request, and the files afterwards. -/
def FileSystem.answer (files : FileSystem) : (request : Request) → request.Answer × FileSystem
  | .readText path => (files.readText path, files)
  | .makeDirectories path =>
    match files.makeDirectories path with
    | (some fault, created) => (.error fault, created)
    | (none, created) => (.ok (), created)
  | .write path content =>
    match files.write path content with
    | .error fault => (.error fault, files)
    | .ok written => (.ok (), written)

/-- What a program does, up to its result. -/
inductive Script (ε α : Type) where
  | done (result : α)
  | ask (request : Request) (next : request.Answer → Script ε α)
  | report (event : ε) (next : Script ε α)
  | print (text : String) (next : Script ε α)

/-- What became of a script: its result, the files, what was reported and what was printed. -/
structure Execution (ε α : Type) where
  result : α
  files : FileSystem
  events : List ε
  printed : String

namespace Script

variable {ε ε' α β φ ψ : Type}

/-- A script followed by another one, which may depend on its result. -/
def bind : Script ε α → (α → Script ε β) → Script ε β
  | .done result, next => next result
  | .ask request rest, next => .ask request fun answer => (rest answer).bind next
  | .report event rest, next => .report event (rest.bind next)
  | .print text rest, next => .print text (rest.bind next)

instance : Monad (Script ε) where
  pure := .done
  bind := bind

/-- A script with another type of events. -/
def mapEvents (f : ε → ε') : Script ε α → Script ε' α
  | .done result => .done result
  | .ask request next => .ask request fun answer => (next answer).mapEvents f
  | .report event next => .report (f event) (next.mapEvents f)
  | .print text next => .print text (next.mapEvents f)

/-- Carries a script out on a system of files. -/
def run : Script ε α → FileSystem → Execution ε α
  | .done result, files => ⟨result, files, [], ""⟩
  | .ask request next, files =>
    let (answer, changed) := files.answer request
    (next answer).run changed
  | .report event next, files =>
    let rest := next.run files
    { rest with events := event :: rest.events }
  | .print text next, files =>
    let rest := next.run files
    { rest with printed := text ++ rest.printed }

variable {files changed : FileSystem}

/-- What a script does comes before what is done by one that follows it. -/
theorem run_bind (script : Script ε α) (next : α → Script ε β) (files : FileSystem) :
    (script >>= next).run files =
      let first := script.run files
      let second := (next first.result).run first.files
      ⟨second.result, second.files, first.events ++ second.events,
        first.printed ++ second.printed⟩ := by
  show (script.bind next).run files = _
  induction script generalizing files with
  | done result => simp [bind, run]
  | ask request rest ih => exact ih _ _
  | report event rest ih => simp [bind, run, ih]
  | print text rest ih => simp [bind, run, ih, String.append_assoc]

/-- Another type of events makes no difference but to the events. -/
theorem run_mapEvents (f : ε → ε') (script : Script ε α) (files : FileSystem) :
    (script.mapEvents f).run files =
      let execution := script.run files
      ⟨execution.result, execution.files, execution.events.map f, execution.printed⟩ := by
  induction script generalizing files with
  | done result => rfl
  | ask request rest ih => exact ih _ _
  | report event rest ih => simp [mapEvents, run, ih]
  | print text rest ih => simp [mapEvents, run, ih]

/-! ## Scripts that may fail -/

/-- Reads the text of a file. -/
def readText (path : String) : ExceptT FileFault (Script ε) String :=
  .mk (.ask (.readText path) .done)

/-- Creates a directory, and the directories that enclose it where they are missing. -/
def makeDirectories (path : String) : ExceptT FileFault (Script ε) Unit :=
  .mk (.ask (.makeDirectories path) .done)

/-- Writes a text to a file, in place of one that is there. -/
def writeText (path text : String) : ExceptT FileFault (Script ε) Unit :=
  .mk (.ask (.write path text.toUTF8) .done)

/-- Reports an event. -/
def tell (event : ε) : ExceptT φ (Script ε) Unit :=
  .mk (.report event (.done (.ok ())))

/-- Prints a text. -/
def say (text : String) : ExceptT φ (Script ε) Unit :=
  .mk (.print text (.done (.ok ())))

variable {path text : String} {fault : FileFault}

/-- Reading changes no file. -/
theorem run_readText (path : String) (files : FileSystem) :
    (readText (ε := ε) path).run.run files = ⟨files.readText path, files, [], ""⟩ :=
  rfl

/-- Directories that were created are there afterwards. -/
theorem run_makeDirectories_of_ok (h : files.makeDirectories path = (none, changed)) :
    (makeDirectories (ε := ε) path).run.run files = ⟨.ok (), changed, [], ""⟩ := by
  simp only [makeDirectories, ExceptT.run_mk, run, FileSystem.answer, h]

/-- Directories that were created before a fault are there afterwards. -/
theorem run_makeDirectories_of_error (h : files.makeDirectories path = (some fault, changed)) :
    (makeDirectories (ε := ε) path).run.run files = ⟨.error fault, changed, [], ""⟩ := by
  simp only [makeDirectories, ExceptT.run_mk, run, FileSystem.answer, h]

/-- A text that was written is there afterwards. -/
theorem run_writeText_of_ok (h : files.write path text.toUTF8 = .ok changed) :
    (writeText (ε := ε) path text).run.run files = ⟨.ok (), changed, [], ""⟩ := by
  simp only [writeText, ExceptT.run_mk, run, FileSystem.answer, h]

/-- A text that was not written changes no file. -/
theorem run_writeText_of_error (h : files.write path text.toUTF8 = .error fault) :
    (writeText (ε := ε) path text).run.run files = ⟨.error fault, files, [], ""⟩ := by
  simp only [writeText, ExceptT.run_mk, run, FileSystem.answer, h]

/-- A report is a matter of the events only. -/
theorem run_tell (event : ε) (files : FileSystem) :
    (tell (φ := φ) event).run.run files = ⟨.ok (), files, [event], ""⟩ :=
  rfl

/-- Printing is a matter of what is printed only. -/
theorem run_say (text : String) (files : FileSystem) :
    (say (ε := ε) (φ := φ) text).run.run files = ⟨.ok (), files, [], text⟩ := by
  simp [say, run]

variable {script : ExceptT φ (Script ε) α} {next : α → ExceptT φ (Script ε) β}
variable {result : α} {reason : φ} {events : List ε} {printed : String}

/-- A script that succeeds is followed by the next one. -/
theorem run_bind_of_ok (h : script.run.run files = ⟨.ok result, changed, events, printed⟩) :
    (script >>= next).run.run files =
      let rest := (next result).run.run changed
      ⟨rest.result, rest.files, events ++ rest.events, printed ++ rest.printed⟩ := by
  rw [ExceptT.run_bind, run_bind, h]

/-- A script that fails is followed by nothing. -/
theorem run_bind_of_error (h : script.run.run files = ⟨.error reason, changed, events, printed⟩) :
    (script >>= next).run.run files = ⟨.error reason, changed, events, printed⟩ := by
  rw [ExceptT.run_bind, run_bind, h]
  simp [run, pure]

/-- A result that is there does nothing. -/
theorem run_pure (result : α) (files : FileSystem) :
    (pure result : ExceptT φ (Script ε) α).run.run files = ⟨.ok result, files, [], ""⟩ :=
  rfl

/-- Nor does a result that may be missing. -/
theorem run_lift (outcome : Except φ α) (files : FileSystem) :
    (liftM outcome : ExceptT φ (Script ε) α).run.run files = ⟨outcome, files, [], ""⟩ :=
  rfl

/-- Another type of faults makes no difference but to the fault. -/
theorem run_adapt (f : φ → ψ) (script : ExceptT φ (Script ε) α) (files : FileSystem) :
    (script.adapt f).run.run files =
      let execution := script.run.run files
      ⟨execution.result.mapError f, execution.files, execution.events, execution.printed⟩ := by
  show (script.run >>= fun result => pure (result.mapError f)).run files = _
  rw [run_bind]
  simp [run, pure]

end Script

end FieldProjection
