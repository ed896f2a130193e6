import FieldProjection.CommandLine.Command
import FieldProjection.Proofs.Emission.Plan
import FieldProjection.Proofs.Files.Writing

/-!
# Rejected and written datamodels

A rejected datamodel leaves files and log untouched. For an accepted one a directory is created and
three files are written, one after the other, and `Ends` says how that ends: with the first of these
operations that fails, or with the three files, whose contents depend on the declarations alone,
while all others are as they were (`Written`). The command line does the same with the declarations
that it reads: `generateFiles_rejected_or_written`.
-/

namespace FieldProjection

namespace Emission

variable {directory : Option String} {models : List ModelDeclaration} {error : Error}
variable {emission : Emission} {files changed : FileSystem} {ended : Except FileFault Unit}
variable {events : List Event}

/-! ## Operations on files -/

/-- `Ends files ended changed events` says how the operations on files that an emission asks for
end, with which files, and what has been reported by then. -/
inductive Ends (emission : Emission) (files : FileSystem) :
    Except FileFault Unit → FileSystem → List Event → Prop where
  /-- The directory cannot be created. -/
  | noDirectory {fault : FileFault} {changed : FileSystem} :
      files.makeDirectories emission.directory = (some fault, changed) →
      Ends emission files (.error fault) changed []
  /-- One of the files cannot be written. -/
  | unwritten {fault : FileFault} {created changed : FileSystem} :
      files.makeDirectories emission.directory = (none, created) →
      created.Writes emission.contents (.error fault) changed →
      Ends emission files (.error fault) changed [.started, .directory emission.directory]
  /-- All files are written. -/
  | written {created changed : FileSystem} :
      files.makeDirectories emission.directory = (none, created) →
      created.Writes emission.contents (.ok ()) changed →
      Ends emission files (.ok ()) changed
        [.started, .directory emission.directory, .finished emission.modelCount]

/-- The operations end somehow. -/
theorem exists_ends (emission : Emission) (files : FileSystem) :
    ∃ ended changed events, emission.Ends files ended changed events := by
  cases hcreated : files.makeDirectories emission.directory with
  | mk fault created =>
      cases fault with
      | some fault => exact ⟨_, _, _, .noDirectory hcreated⟩
      | none =>
          obtain ⟨ended, changed, hwrites⟩ := created.exists_writes emission.contents
          cases ended with
          | error fault => exact ⟨_, _, _, .unwritten hcreated hwrites⟩
          | ok => exact ⟨_, _, _, .written hcreated hwrites⟩

/-- The script of an emission asks for these operations. -/
theorem Ends.run_script (h : emission.Ends files ended changed events) :
    emission.script.run.run files = ⟨ended, changed, events, ""⟩ := by
  cases h with
  | noDirectory hcreated =>
      exact Script.run_bind_of_error (Script.run_makeDirectories_of_error hcreated)
  | unwritten hcreated hwrites =>
      rw [script, Script.run_bind_of_ok (Script.run_makeDirectories_of_ok hcreated),
        Script.run_bind_of_ok (Script.run_tell _ _), Script.run_bind_of_ok (Script.run_tell _ _),
        Script.run_bind_of_error hwrites.run_forM]
      rfl
  | written hcreated hwrites =>
      rw [script, Script.run_bind_of_ok (Script.run_makeDirectories_of_ok hcreated),
        Script.run_bind_of_ok (Script.run_tell _ _), Script.run_bind_of_ok (Script.run_tell _ _),
        Script.run_bind_of_ok hwrites.run_forM, Script.run_tell]
      rfl

/-! ## Files that were written -/

/-- What is left of a directory path and declarations that were written: the files of the schema of
the declarations in the place that the path leads to, and all other files as they were. -/
def Written (directory : String) (models : List ModelDeclaration)
    (before after : FileSystem) : Prop :=
  ∃ schema source place,
    Schema.generate models = .ok schema ∧ Source.schemaFile schema = .ok source ∧
    after.placeOf directory (Path.parts directory) = .ok place ∧
    after.root.content? (place ++ ["schema.json"]) =
      some (schema.toJson.prettyText ++ "\n").toUTF8 ∧
    after.root.content? (place ++ ["schema.rs"]) = some source.toUTF8 ∧
    after.root.content? (place ++ ["mod.rs"]) = some Source.moduleFile.toUTF8 ∧
    ∀ other, other ≠ place ++ ["schema.json"] → other ≠ place ++ ["schema.rs"] →
      other ≠ place ++ ["mod.rs"] → after.root.content? other = before.root.content? other

/-- The names of the generated files with their contents. -/
def namedContents (emission : Emission) : List (String × String) :=
  [("schema.json", emission.json), ("schema.rs", emission.source),
    ("mod.rs", Source.moduleFile)]

/-- The contents of an emission belong to these names in its directory. -/
theorem contents_eq_map (emission : Emission) :
    emission.contents =
      emission.namedContents.map fun entry => (Path.join emission.directory entry.1, entry.2) :=
  rfl

/-- The generated files have names, no two the same. -/
theorem nodup_namedContents (emission : Emission) :
    (Entries.keys emission.namedContents).Nodup := by
  have hnodup : ["schema.json", "schema.rs", "mod.rs"].Nodup := by decide
  exact hnodup

/-- Each of these names leads to an entry of a directory. -/
theorem isName_of_mem_namedContents (emission : Emission) :
    ∀ name ∈ Entries.keys emission.namedContents, Path.IsName name := by
  have hnames : ∀ name ∈ ["schema.json", "schema.rs", "mod.rs"],
      '/' ∉ name.toList ∧ Path.isIdle name = false ∧ name ≠ ".." := by decide
  intro name hmem
  obtain ⟨hslash, hidle, hup⟩ := hnames name hmem
  exact ⟨hslash, hidle, hup⟩

/-- When all files of an accepted datamodel are written, nothing else changes. -/
theorem Accepted.written (h : Accepted directory models emission)
    (hends : emission.Ends files ended changed events) (hok : ended = .ok ()) :
    Written emission.directory models files changed := by
  subst hok
  obtain ⟨-, hpath, schema, hgenerate, -, hjson, hsource⟩ := h
  cases hends with
  | written hcreated hwrites =>
      have hadds := files.makeDirectories_addsDirectories emission.directory
      rw [hcreated] at hadds
      rw [contents_eq_map] at hwrites
      obtain ⟨place, hplace, hcontents, hothers⟩ :=
        FileSystem.Writes.exists_join (List.cons_ne_nil _ _) hpath (nodup_namedContents _)
          (isName_of_mem_namedContents _) hwrites
      refine ⟨schema, emission.source, place, hgenerate, hsource, hplace, ?_, ?_, ?_, ?_⟩
      · rw [← hjson]
        exact hcontents _ _ (by simp)
      · exact hcontents _ _ (by simp)
      · exact hcontents _ _ (by simp)
      · intro other hjsonFile hsourceFile hmodule
        rw [hothers other, hadds.contents]
        simp only [Entries.keys, List.map_cons, List.map_nil, List.forall_mem_cons]
        exact ⟨hjsonFile, hsourceFile, hmodule, fun _ hmem => False.elim (List.not_mem_nil hmem)⟩

/-! ## Generating files -/

/-- Nothing was changed or reported when a datamodel was rejected. -/
theorem Rejected.generateFiles_eq (h : Rejected directory models error) (files : FileSystem) :
    generateFiles directory models files = ⟨.error error, files, [], ""⟩ := by
  rw [generateFiles, generationScript, h.plan_eq]
  exact Script.run_bind_of_error (Script.run_lift _ _)

/-- The result for an emission whose operations on files end so. -/
def outcome (emission : Emission) : Except FileFault Unit → Except Error Generated
  | .ok () => .ok (Generated.ofDirectory emission.directory)
  | .error fault => .error (.foreign (.system fault.message))

/-- What becomes of an accepted datamodel is a matter of the operations on files. -/
theorem Accepted.generateFiles_eq (h : Accepted directory models emission)
    (hends : emission.Ends files ended changed events) :
    generateFiles directory models files = ⟨emission.outcome ended, changed, events, ""⟩ := by
  have hscript := Script.run_adapt FileFault.error emission.script files
  rw [hends.run_script] at hscript
  rw [generateFiles, generationScript, h.plan_eq, Script.run_bind_of_ok (Script.run_lift _ _)]
  cases ended with
  | error fault =>
      rw [Script.run_bind_of_error hscript]
      rfl
  | ok =>
      rw [Script.run_bind_of_ok hscript, Script.run_pure]
      simp [outcome, generated]

end Emission

namespace CommandLine

open Emission

variable {config : Config} {words : List String} {arguments : GenerateArguments} {text : String}
variable {models : List ModelDeclaration} {files changed : FileSystem}

/-- A command reads its datamodel before it does anything else. -/
theorem run_of_readText_eq_ok (hwords : parse words = .ok arguments)
    (htext : files.readText arguments.datamodel = .ok text) :
    run config words files =
      let rest := (documentScript (arguments.directory config) text).run.run files
      ⟨rest.result, rest.files, .reading arguments.datamodel :: rest.events, rest.printed⟩ := by
  have hcommand : (liftM ((parse words).mapError Failure.refused) :
      ExceptT Failure (Script Event) GenerateArguments).run.run files =
        ⟨.ok arguments, files, [], ""⟩ := by
    rw [hwords]
    rfl
  have hread := Script.run_adapt Failure.unreadable
    (Script.readText (ε := Event) arguments.datamodel) files
  rw [Script.run_readText, htext] at hread
  rw [run, script, Script.run_bind_of_ok hcommand, generateScript,
    Script.run_bind_of_ok (Script.run_tell _ _), Script.run_bind_of_ok hread]
  simp

/-- A text that holds no declarations is rejected. -/
theorem run_documentScript_of_error {fault : Datamodel.DocumentFault} {directory : Option String}
    (h : Datamodel.parse text = .error fault) :
    (documentScript directory text).run.run files =
      ⟨.error (.failed fault.error), files, [], ""⟩ := by
  rw [documentScript, h]
  exact Script.run_bind_of_error (Script.run_lift _ _)

/-- What is printed about an outcome: the paths of files, if there are any. -/
def printed : Except Error Generated → String
  | .ok generated => report generated
  | .error _ => ""

/-- Otherwise the files of the declarations are generated, and their paths are printed if that
succeeds. -/
theorem run_documentScript_of_ok {directory : Option String} {outcome : Except Error Generated}
    {events : List Emission.Event} (h : Datamodel.parse text = .ok models)
    (hgenerate : generateFiles directory models files = ⟨outcome, changed, events, ""⟩) :
    (documentScript directory text).run.run files =
      ⟨outcome.mapError .failed, changed, events.map .emission, printed outcome⟩ := by
  have hgeneration := Script.run_adapt Failure.failed
    (.mk ((generationScript directory models).run.mapEvents Event.emission)) files
  rw [ExceptT.run_mk, Script.run_mapEvents, ← generateFiles, hgenerate] at hgeneration
  have hmodels : (liftM ((Datamodel.parse text).mapError fun fault => Failure.failed fault.error) :
      ExceptT Failure (Script Event) _).run.run files = ⟨.ok models, files, [], ""⟩ := by
    rw [h]
    rfl
  rw [documentScript, Script.run_bind_of_ok hmodels]
  cases outcome with
  | error error =>
      rw [Script.run_bind_of_error hgeneration]
      rfl
  | ok generated =>
      rw [Script.run_bind_of_ok hgeneration, Script.run_bind_of_ok (Script.run_say _ _),
        Script.run_pure]
      simp [Except.mapError, printed]

/-- A command that reads declarations generates their files. -/
theorem run_of_generateFiles_eq {outcome : Except Error Generated} {events : List Emission.Event}
    (hwords : parse words = .ok arguments)
    (htext : files.readText arguments.datamodel = .ok text)
    (hparse : Datamodel.parse text = .ok models)
    (hgenerate : generateFiles (arguments.output.or config.output) models files =
      ⟨outcome, changed, events, ""⟩) :
    run config words files =
      ⟨outcome.mapError .failed, changed, .reading arguments.datamodel :: events.map .emission,
        printed outcome⟩ := by
  rw [run_of_readText_eq_ok hwords htext, GenerateArguments.directory,
    run_documentScript_of_ok hparse hgenerate]

end CommandLine

namespace Emission

/-- Only a rejected datamodel is a matter of configuration, and only for want of a directory. -/
theorem isConfiguration_generateFiles_iff (directory : Option String)
    (models : List ModelDeclaration) (files : FileSystem) :
    (∃ error, (generateFiles directory models files).result = .error error ∧
      error.isConfiguration) ↔ directory = none ∨ directory = some "" := by
  constructor
  · rintro ⟨error, hresult, hconfiguration⟩
    rcases rejected_or_accepted directory models with ⟨reason, hreason⟩ | ⟨emission, haccepted⟩
    · rw [hreason.generateFiles_eq files] at hresult
      obtain rfl : reason = error := Except.error.inj hresult
      exact hreason.isConfiguration_iff.mp hconfiguration
    · obtain ⟨ended, changed, events, hends⟩ := exists_ends emission files
      rw [haccepted.generateFiles_eq hends] at hresult
      cases ended with
      | ok => cases hresult
      | error fault =>
          -- a fault of an operation on files is no matter of configuration
          obtain rfl := Except.error.inj hresult
          exact False.elim (Bool.false_ne_true hconfiguration)
  · intro hdirectory
    have hrejected : Rejected directory models missingDirectory := .noDirectory hdirectory
    refine ⟨missingDirectory, ?_, rfl⟩
    rw [hrejected.generateFiles_eq files]

/-- Generating files fails for want of a directory whatever the declarations, and then because of
the first reason to reject them; in all these cases it leaves files and log as they were. All other
declarations are accepted. The operations on files that they ask for end somehow, and the result
tells how; unless one of them fails the files are written and no others change. The command behaves
in the same way for every text that it reads, and it rejects a text that holds no declarations
before anything else. -/
theorem generateFiles_rejected_or_written (directory : Option String)
    (models : List ModelDeclaration) (files : FileSystem) :
    ((∃ error, (generateFiles directory models files).result = .error error ∧
        error.isConfiguration) ↔ directory = none ∨ directory = some "") ∧
    (∀ error, Rejected directory models error →
      generateFiles directory models files = ⟨.error error, files, [], ""⟩ ∧
        (error.isConfiguration ∨ error.isInvalidSchema)) ∧
    ((∃ error, Rejected directory models error) ∨
      ∃ emission, Accepted directory models emission) ∧
    (∀ emission, ∃ ended changed events, Ends emission files ended changed events) ∧
    (∀ emission, Accepted directory models emission →
      ∀ ended changed events, emission.Ends files ended changed events →
        generateFiles directory models files = ⟨emission.outcome ended, changed, events, ""⟩ ∧
        (ended = .ok () → Written emission.directory models files changed)) ∧
    ∀ config words arguments text, CommandLine.parse words = .ok arguments →
      files.readText arguments.datamodel = .ok text →
      (∀ fault, Datamodel.parse text = .error fault →
        CommandLine.run config words files =
          ⟨.error (.failed fault.error), files, [.reading arguments.datamodel], ""⟩) ∧
      ∀ declared, Datamodel.parse text = .ok declared →
        (∀ error, Rejected (arguments.output.or config.output) declared error →
          CommandLine.run config words files =
            ⟨.error (.failed error), files, [.reading arguments.datamodel], ""⟩) ∧
        ∀ emission, Accepted (arguments.output.or config.output) declared emission →
          ∀ ended changed events, emission.Ends files ended changed events →
            CommandLine.run config words files =
              ⟨(emission.outcome ended).mapError .failed, changed,
                .reading arguments.datamodel :: events.map .emission,
                CommandLine.printed (emission.outcome ended)⟩ ∧
              (ended = .ok () → Written emission.directory declared files changed) := by
  refine ⟨isConfiguration_generateFiles_iff directory models files, ?_,
    rejected_or_accepted directory models, fun emission => exists_ends emission files, ?_, ?_⟩
  · intro error hrejected
    refine ⟨hrejected.generateFiles_eq files, ?_⟩
    cases hrejected with
    | noDirectory => exact .inl rfl
    | noSchema => exact .inr rfl
    | noSource => exact .inr rfl
  · intro emission haccepted ended changed events hends
    exact ⟨haccepted.generateFiles_eq hends, haccepted.written hends⟩
  · intro config words arguments text hwords htext
    refine ⟨fun fault hparse => ?_, fun declared hparse => ⟨fun error hrejected => ?_, ?_⟩⟩
    · rw [CommandLine.run_of_readText_eq_ok hwords htext,
        CommandLine.run_documentScript_of_error hparse]
    · exact CommandLine.run_of_generateFiles_eq hwords htext hparse
        (hrejected.generateFiles_eq files)
    · intro emission haccepted ended changed events hends
      exact ⟨CommandLine.run_of_generateFiles_eq hwords htext hparse
        (haccepted.generateFiles_eq hends), haccepted.written hends⟩

/-- Texts that declare two models and one model, a file that is no directory, and a directory with
an older schema. -/
def projectFiles : FileSystem :=
  ⟨.directory [
    ("models.json", .file
      ("[\x7b\"name\":\"User\",\"fields\":[]\x7d," ++
        "\x7b\"name\":\"type\",\"fields\":[]\x7d]").toUTF8),
    ("user.json", .file "[\x7b\"name\":\"User\",\"fields\":[]\x7d]".toUTF8),
    ("notes", .file "".toUTF8),
    ("gen", .directory [("schema.json", .file "old".toUTF8), ("kept.txt", .file "".toUTF8)])], []⟩

/-- The declarations of the first text. -/
def projectModels : List ModelDeclaration :=
  [⟨"User", [], none⟩, ⟨"type", [], none⟩]

/-- The second name is a keyword. -/
theorem rejected_projectModels : Rejected (some "out") projectModels
    (.invalidSchema "model name `type` cannot be used as a Rust identifier") := by
  have hdirectory : ¬(some "out" = none ∨ some "out" = some "") := by decide
  have hgenerate : Schema.generate projectModels =
      .ok (Schema.ofList [("User", ⟨.empty, none⟩), ("type", ⟨.empty, none⟩)]) := rfl
  have hnames : Schema.names (.ofList [("User", ⟨.empty, none⟩), ("type", ⟨.empty, none⟩)]) =
      ["User"] ++ "type" :: [] := rfl
  exact .noSource hdirectory hgenerate hnames (by decide) (by decide)

/-- Two models are rejected for the name of the second one, and before that for want of a directory.
The first one alone is accepted: its files are written over the older ones, but they cannot be
written to a directory in the place of a file. -/
theorem generateFiles_rejected_or_written_projectFiles :
    generateFiles (some "out") projectModels projectFiles =
      ⟨.error (.invalidSchema "model name `type` cannot be used as a Rust identifier"),
        projectFiles, [], ""⟩ ∧
    CommandLine.run {} ["prisma-select", "generate", "-d", "models.json"] projectFiles =
      ⟨.error (.failed missingDirectory), projectFiles, [.reading "models.json"], ""⟩ ∧
    (∃ changed events,
      CommandLine.run {} ["prisma-select", "generate", "-d", "user.json", "-o", "gen"]
          projectFiles =
        ⟨.ok (Generated.ofDirectory "gen"), changed, events,
          CommandLine.report (Generated.ofDirectory "gen")⟩ ∧
      Written "gen" (projectModels.take 1) projectFiles changed) ∧
    ∃ fault : FileFault,
      generateFiles (some "notes/gen") (projectModels.take 1) projectFiles =
        ⟨.error (.foreign (.system fault.message)), projectFiles, [], ""⟩ := by
  obtain ⟨-, hrejected, -, hexists, -, hcommand⟩ :=
    generateFiles_rejected_or_written (some "out") projectModels projectFiles
  obtain ⟨-, -, -, -, hnotes, -⟩ :=
    generateFiles_rejected_or_written (some "notes/gen") (projectModels.take 1) projectFiles
  refine ⟨(hrejected _ rejected_projectModels).1, ?_, ?_, ?_⟩
  · have hwords : CommandLine.parse ["prisma-select", "generate", "-d", "models.json"] =
        .ok ⟨"models.json", none⟩ := rfl
    exact ((hcommand {} _ _ _ hwords rfl).2 projectModels rfl).1 _ (.noDirectory (.inl rfl))
  · have hwords : CommandLine.parse ["prisma-select", "generate", "-d", "user.json", "-o", "gen"] =
        .ok ⟨"user.json", some "gen"⟩ := rfl
    obtain ⟨emission, hplan⟩ :
        ∃ emission, plan (some "gen") (projectModels.take 1) = .ok emission := ⟨_, rfl⟩
    have haccepted := plan_eq_ok_iff.mp hplan
    obtain ⟨ended, changed, events, hends⟩ := hexists emission
    obtain ⟨hrun, hwritten⟩ := ((hcommand {} _ _ _ hwords rfl).2 (projectModels.take 1) rfl).2
      emission haccepted ended changed events hends
    have hdirectory : emission.directory = "gen" := (Option.some.inj haccepted.directory).symm
    cases ended with
    | error fault => cases congrArg Execution.result hrun
    | ok =>
        rw [outcome, hdirectory] at hrun
        exact ⟨changed, _, hrun, hdirectory ▸ hwritten rfl⟩
  · obtain ⟨emission, hplan⟩ :
        ∃ emission, plan (some "notes/gen") (projectModels.take 1) = .ok emission := ⟨_, rfl⟩
    obtain ⟨ended, changed, events, hends⟩ := hexists emission
    obtain ⟨hrun, -⟩ := hnotes emission (plan_eq_ok_iff.mp hplan) ended changed events hends
    cases ended with
    | ok => cases congrArg Execution.result hrun
    | error fault =>
        have hfiles : changed = projectFiles := (congrArg Execution.files hrun).symm
        have hevents : events = [] := (congrArg Execution.events hrun).symm
        exact ⟨fault, by rw [hrun, hfiles, hevents, outcome]⟩

end Emission

end FieldProjection
