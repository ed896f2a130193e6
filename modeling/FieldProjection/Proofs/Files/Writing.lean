import FieldProjection.Emission
import FieldProjection.Proofs.Files.Contents

/-!
# What operations on files leave

Creating directories changes no file (`makeDirectories_addsDirectories`). Writing a file that has a
name in a directory changes the content at one place, the one of that name in the place that the
path of the directory leads to (`write_join`), and writing several changes the content at theirs
(`Writes.join`). No operation removes a directory, so the path of the directory leads to the same
place after each of them.
-/

namespace FieldProjection

/-! ## Paths of names in a directory -/

namespace Path

/-- A part of a path that leads to an entry of a directory. -/
structure IsName (name : String) : Prop where
  noSlash : '/' ∉ name.toList
  notIdle : isIdle name = false
  notUp : name ≠ ".."

variable {directory name : String}

/-- The path of a name in a directory has the name as its last part, and before it the parts of the
path of the directory, of which the last one may have been empty. -/
theorem parts_join (hname : IsName name) (directory : String) :
    ∃ front, parts (join directory name) = front ++ [name] ∧
      (parts directory = front ∨ parts directory = front ++ [""]) := by
  have hparts : ∀ init : List Char,
      (Text.split '/' (init ++ '/' :: name.toList)).map String.ofList =
        (Text.split '/' init).map String.ofList ++ [name] := by
    intro init
    rw [Text.split_append, Text.split_of_not_mem hname.noSlash, List.map_append]
    simp
  by_cases hslash : directory.toList.getLast? = some '/'
  · obtain ⟨init, hinit⟩ := List.getLast?_eq_some_iff.mp hslash
    refine ⟨(Text.split '/' init).map String.ofList, ?_, .inr ?_⟩
    · rw [parts, join, if_pos hslash, String.toList_append, hinit, List.append_assoc]
      exact hparts init
    · rw [parts, hinit, Text.split_append, List.map_append]
      rfl
  · refine ⟨parts directory, ?_, .inl rfl⟩
    have hlist : (directory ++ "/" ++ name).toList = directory.toList ++ '/' :: name.toList := by
      simp
    rw [parts, join, if_neg hslash, hlist]
    exact hparts directory.toList

/-- The path of a name in a directory starts with the path of the directory. -/
theorem exists_join_eq_append (directory name : String) :
    ∃ rest, join directory name = directory ++ rest := by
  unfold join
  split
  · exact ⟨name, rfl⟩
  · exact ⟨"/" ++ name, String.append_assoc ..⟩

end Path

namespace FileSystem

open FileTree

variable {files changed final : FileSystem} {path directory name : String}
  {place : List String}

/-! ## Places of paths -/

/-- The place that a path is walked from. -/
def startOf (files : FileSystem) (path : String) : List String :=
  if Path.isAbsolute path then [] else files.working

/-- A path leads to a place if it can be walked and is not too long. -/
theorem placeOf_eq_ok_iff {parts : List String} :
    files.placeOf path parts = .ok place ↔
      path ≠ "" ∧ '\x00' ∉ path.toList ∧ path.utf8ByteSize ≤ maxPathBytes ∧
        walk files.root (files.startOf path) parts = .ok place := by
  unfold placeOf startOf
  by_cases hempty : path = ""
  · simp [hempty]
  · by_cases hnul : '\x00' ∈ path.toList
    · simp [hempty, hnul]
    · by_cases hlong : maxPathBytes < path.utf8ByteSize
      · simp [hempty, hnul, hlong, Nat.not_le.mpr hlong]
      · simp [hempty, hnul, hlong, Nat.not_lt.mp hlong]

/-- Every directory is still there, and so is the working directory. -/
structure KeepsDirectories (files changed : FileSystem) : Prop where
  working : changed.working = files.working
  directories : ∀ place, files.root.HasDirectory place → changed.root.HasDirectory place

/-- Nothing happened to directories if nothing happened. -/
theorem KeepsDirectories.refl (files : FileSystem) : files.KeepsDirectories files :=
  ⟨rfl, fun _ => id⟩

/-- Directories that are kept twice are kept. -/
theorem KeepsDirectories.trans (h : files.KeepsDirectories changed)
    (hnext : changed.KeepsDirectories final) : files.KeepsDirectories final :=
  ⟨hnext.working.trans h.working,
    fun place hplace => hnext.directories place (h.directories place hplace)⟩

/-- A path leads to the same place as long as directories are kept. -/
theorem KeepsDirectories.placeOf (h : files.KeepsDirectories changed) {parts : List String}
    (hplace : files.placeOf path parts = .ok place) : changed.placeOf path parts = .ok place := by
  rw [placeOf_eq_ok_iff] at hplace ⊢
  obtain ⟨hempty, hnul, hlength, hwalk⟩ := hplace
  have hstart : changed.startOf path = files.startOf path := by
    rw [startOf, startOf, h.working]
  exact ⟨hempty, hnul, hlength, hstart ▸ walk_mono h.directories hwalk⟩

/-- The path of a name in a directory leads into the place of the directory. -/
theorem placeOf_join (hname : Path.IsName name) (hdirectory : directory ≠ "")
    (h : files.placeOf (Path.join directory name) (Path.parts (Path.join directory name)) =
      .ok place) :
    ∃ between, files.placeOf directory (Path.parts directory) = .ok between ∧
      files.root.HasDirectory between ∧ place = between ++ [name] := by
  obtain ⟨front, hjoin, hfront⟩ := Path.parts_join hname directory
  obtain ⟨rest, hrest⟩ := Path.exists_join_eq_append directory name
  rw [placeOf_eq_ok_iff, hjoin, walk_append_eq_ok_iff] at h
  obtain ⟨-, hnul, hlength, between, hbetween, hlast⟩ := h
  obtain ⟨hplace, -, rfl⟩ := (walk_name_eq_ok_iff hname.notIdle hname.notUp).mp hlast
  have hstart : files.startOf (Path.join directory name) = files.startOf directory := by
    have habsolute : Path.isAbsolute (directory ++ rest) = Path.isAbsolute directory := by
      have hne : directory.toList ≠ [] := fun h => hdirectory (String.toList_eq_nil_iff.mp h)
      obtain ⟨first, more, hchars⟩ := List.exists_cons_of_ne_nil hne
      rw [Path.isAbsolute, Path.isAbsolute, String.toList_append, hchars]
      rfl
    rw [startOf, startOf, hrest, habsolute]
  rw [hstart] at hbetween
  refine ⟨between, placeOf_eq_ok_iff.mpr ⟨hdirectory, ?_, ?_, ?_⟩, hplace, rfl⟩
  · intro hmem
    rw [hrest, String.toList_append] at hnul
    exact hnul (List.mem_append_left _ hmem)
  · rw [hrest, String.utf8ByteSize_append] at hlength
    omega
  · rcases hfront with hfront | hfront
    · rw [hfront]
      exact hbetween
    · -- an empty part leads nowhere
      rw [hfront, walk_append_eq_ok_iff]
      exact ⟨between, hbetween, walk_cons_eq_ok_iff.mpr ⟨hplace, rfl⟩⟩

/-! ## Creating directories -/

/-- Only directories were added. -/
structure AddsDirectories (files changed : FileSystem) : Prop where
  keeps : files.KeepsDirectories changed
  contents : ∀ place, changed.root.content? place = files.root.content? place

/-- Nothing was added if nothing happened. -/
theorem AddsDirectories.refl (files : FileSystem) : files.AddsDirectories files :=
  ⟨.refl files, fun _ => rfl⟩

/-- Directories that are added one after the other are added. -/
theorem AddsDirectories.trans (h : files.AddsDirectories changed)
    (hnext : changed.AddsDirectories final) : files.AddsDirectories final :=
  ⟨h.keeps.trans hnext.keeps, fun place => (hnext.contents place).trans (h.contents place)⟩

/-- A directory is created at a place where there is nothing. -/
theorem makeDirectory_eq_ok_iff :
    files.makeDirectory path = .ok changed ↔
      ∃ place, files.placeOf path (withoutEnd (Path.parts path)) = .ok place ∧
        files.root.at? place = none ∧
        changed = { files with root := files.root.put place .empty } := by
  unfold makeDirectory
  cases hplace : files.placeOf path (withoutEnd (Path.parts path)) with
  | error fault => simp [bind, Except.bind]
  | ok place => cases hroot : files.root.at? place <;> simp [bind, Except.bind, hroot, eq_comm]

/-- Creating a directory adds it. -/
theorem addsDirectories_of_makeDirectory (h : files.makeDirectory path = .ok changed) :
    files.AddsDirectories changed := by
  obtain ⟨place, -, hroot, rfl⟩ := makeDirectory_eq_ok_iff.mp h
  have habsent : ¬files.root.HasDirectory place := by
    rintro ⟨entries, hentries⟩
    exact Option.some_ne_none _ (hentries.symm.trans hroot)
  refine ⟨⟨rfl, fun other hother => hother.put habsent .empty⟩, fun other => ?_⟩
  refine content?_put _ _ _ _ fun below hbelow => ?_
  -- neither what was there nor the new directory has contents
  rw [content?_empty, hbelow, content?, at?_append, hroot]
  rfl

/-- A directory that had to be there was created or was there. -/
theorem addsDirectories_of_ensureDirectory (h : files.ensureDirectory path = .ok changed) :
    files.AddsDirectories changed := by
  unfold ensureDirectory at h
  split at h
  · split at h
    · cases h
      exact .refl files
    · cases h
  · exact addsDirectories_of_makeDirectory h

/-- What an attempt to have a directory leaves has at most a directory more. -/
theorem addsDirectories_settle_ensureDirectory (files : FileSystem) (path : String) :
    files.AddsDirectories (files.settle (files.ensureDirectory path)).2 := by
  cases h : files.ensureDirectory path with
  | error fault => exact .refl files
  | ok changed => exact addsDirectories_of_ensureDirectory h

/-- Creating a directory with the ones that enclose it adds directories only, also when it
fails. -/
theorem makeDirectoriesIn_addsDirectories (files : FileSystem) (path : String)
    (parents : List String) :
    files.AddsDirectories (files.makeDirectoriesIn path parents).2 := by
  induction parents generalizing path with
  | nil => exact addsDirectories_settle_ensureDirectory files path
  | cons parent rest ih =>
      have hfirst := addsDirectories_settle_ensureDirectory files path
      have hparent := ih parent
      unfold makeDirectoriesIn
      split
      · cases hcreated : files.makeDirectoriesIn parent rest with
        | mk fault created =>
            rw [hcreated] at hparent
            cases fault with
            | some fault => exact hparent
            | none => exact hparent.trans (addsDirectories_settle_ensureDirectory created path)
      · exact hfirst

/-- Creating a directory adds directories only, also when it fails. -/
theorem makeDirectories_addsDirectories (files : FileSystem) (path : String) :
    files.AddsDirectories (files.makeDirectories path).2 :=
  makeDirectoriesIn_addsDirectories files path _

/-! ## Writing files -/

/-- A file is written at a place where there is no directory. -/
theorem write_eq_ok_iff {content : ByteArray} :
    files.write path content = .ok changed ↔
      ∃ place, files.placeOf path (Path.parts path) = .ok place ∧
        ¬files.root.HasDirectory place ∧
        changed = { files with root := files.root.put place (.file content) } := by
  unfold write
  cases hplace : files.placeOf path (Path.parts path) with
  | error fault => simp [bind, Except.bind]
  | ok place =>
      cases hroot : files.root.at? place with
      | none => simp [bind, Except.bind, HasDirectory, hroot, eq_comm]
      | some found =>
          cases found <;> simp [bind, Except.bind, HasDirectory, hroot, eq_comm]

/-- Writing a file that has a name in a directory changes the content of this name only. -/
theorem write_join {content : ByteArray} (hname : Path.IsName name) (hdirectory : directory ≠ "")
    (h : files.write (Path.join directory name) content = .ok changed) :
    ∃ place, files.placeOf directory (Path.parts directory) = .ok place ∧
      files.KeepsDirectories changed ∧ changed.root.content? (place ++ [name]) = some content ∧
      ∀ other, other ≠ place ++ [name] →
        changed.root.content? other = files.root.content? other := by
  obtain ⟨target, htarget, habsent, rfl⟩ := write_eq_ok_iff.mp h
  obtain ⟨place, hplace, hthere, rfl⟩ := placeOf_join hname hdirectory htarget
  refine ⟨place, hplace, ⟨rfl, fun other hother => hother.put habsent _⟩, ?_, ?_⟩
  · rw [content?, at?_put hthere]
  · intro other hother
    refine content?_put _ _ _ _ fun below hbelow => ?_
    cases below with
    | nil => exact False.elim (hother (hbelow.trans (List.append_nil _)))
    | cons first rest =>
        rw [hbelow, content?_append_of_not_hasDirectory habsent]
        rfl

/-- `Writes files entries ended changed` says that files are written one after the other, up to the
first that cannot be written, and with which files that ends. -/
inductive Writes : FileSystem → List (String × String) → Except FileFault Unit → FileSystem →
    Prop where
  | done (files : FileSystem) : Writes files [] (.ok ()) files
  | failed {files : FileSystem} {path content : String} {rest : List (String × String)}
      {fault : FileFault} :
      files.write path content.toUTF8 = .error fault →
      Writes files ((path, content) :: rest) (.error fault) files
  | next {files written changed : FileSystem} {path content : String}
      {rest : List (String × String)} {ended : Except FileFault Unit} :
      files.write path content.toUTF8 = .ok written → Writes written rest ended changed →
      Writes files ((path, content) :: rest) ended changed

/-- Writing files ends somehow. -/
theorem exists_writes (files : FileSystem) (entries : List (String × String)) :
    ∃ ended changed, files.Writes entries ended changed := by
  induction entries generalizing files with
  | nil => exact ⟨_, _, .done files⟩
  | cons entry rest ih =>
      cases hwrite : files.write entry.1 entry.2.toUTF8 with
      | error fault => exact ⟨_, _, .failed hwrite⟩
      | ok written =>
          obtain ⟨ended, changed, hrest⟩ := ih written
          exact ⟨ended, changed, .next hwrite hrest⟩

/-- A script that writes files one after the other does so. -/
theorem Writes.run_forM {ε : Type} {entries : List (String × String)}
    {ended : Except FileFault Unit} (h : files.Writes entries ended changed) :
    (forM entries fun (path, content) =>
      Script.writeText (ε := ε) path content).run.run files = ⟨ended, changed, [], ""⟩ := by
  induction h with
  | done files => rfl
  | failed hwrite =>
      rw [List.forM_cons]
      exact Script.run_bind_of_error (Script.run_writeText_of_error hwrite)
  | next hwrite _ ih =>
      rw [List.forM_cons, Script.run_bind_of_ok (Script.run_writeText_of_ok hwrite), ih]
      simp

/-- Writing files that have names in a directory changes the contents of these names only. -/
theorem Writes.join {entries : List (String × String)} (hdirectory : directory ≠ "")
    (hnodup : (Entries.keys entries).Nodup)
    (hnames : ∀ name ∈ Entries.keys entries, Path.IsName name)
    (hplace : files.placeOf directory (Path.parts directory) = .ok place)
    (h : files.Writes (entries.map fun entry => (Path.join directory entry.1, entry.2)) (.ok ())
      changed) :
    changed.placeOf directory (Path.parts directory) = .ok place ∧
      (∀ name content, (name, content) ∈ entries →
        changed.root.content? (place ++ [name]) = some content.toUTF8) ∧
      ∀ other, (∀ name ∈ Entries.keys entries, other ≠ place ++ [name]) →
        changed.root.content? other = files.root.content? other := by
  induction entries generalizing files with
  | nil =>
      cases h with
      | done =>
          exact ⟨hplace, fun _ _ hmem => False.elim (List.not_mem_nil hmem), fun _ _ => rfl⟩
  | cons entry rest ih =>
      obtain ⟨name, content⟩ := entry
      rw [Entries.keys_cons, List.nodup_cons] at hnodup
      rw [Entries.keys_cons, List.forall_mem_cons] at hnames
      cases h with
      | next hwrite hlater =>
          obtain ⟨found, hfound, hkeeps, hcontent, hothers⟩ := write_join hnames.1 hdirectory hwrite
          obtain rfl : found = place := Except.ok.inj (hfound.symm.trans hplace)
          obtain ⟨hfinal, hrest, hunchanged⟩ :=
            ih hnodup.2 hnames.2 (hkeeps.placeOf hplace) hlater
          refine ⟨hfinal, ?_, ?_⟩
          · intro other written hmem
            rcases List.mem_cons.mp hmem with hfirst | hlater
            · obtain ⟨rfl, rfl⟩ := Prod.mk.inj hfirst
              -- no later file is written over the first
              rw [hunchanged _ fun later hlater heq => ?_, hcontent]
              obtain rfl : other = later := by simpa using heq
              exact hnodup.1 hlater
            · exact hrest other written hlater
          · intro other hother
            rw [Entries.keys_cons, List.forall_mem_cons] at hother
            rw [hunchanged other hother.2, hothers other hother.1]

/-- Files that were written by names in a directory were written to the place that its path leads
to. -/
theorem Writes.exists_join {entries : List (String × String)} (hsome : entries ≠ [])
    (hdirectory : directory ≠ "") (hnodup : (Entries.keys entries).Nodup)
    (hnames : ∀ name ∈ Entries.keys entries, Path.IsName name)
    (h : files.Writes (entries.map fun entry => (Path.join directory entry.1, entry.2)) (.ok ())
      changed) :
    ∃ place, changed.placeOf directory (Path.parts directory) = .ok place ∧
      (∀ name content, (name, content) ∈ entries →
        changed.root.content? (place ++ [name]) = some content.toUTF8) ∧
      ∀ other, (∀ name ∈ Entries.keys entries, other ≠ place ++ [name]) →
        changed.root.content? other = files.root.content? other := by
  obtain ⟨⟨name, content⟩, rest, rfl⟩ := List.exists_cons_of_ne_nil hsome
  -- that the first file was written says that the path leads somewhere
  cases h with
  | next hwrite hlater =>
      have hname : Path.IsName name := hnames name List.mem_cons_self
      obtain ⟨place, hplace, -⟩ := write_join hname hdirectory hwrite
      exact ⟨place, Writes.join hdirectory hnodup hnames hplace (.next hwrite hlater)⟩

end FileSystem

end FieldProjection
