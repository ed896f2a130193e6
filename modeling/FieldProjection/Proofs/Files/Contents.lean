import FieldProjection.Files.Tree

/-!
# What a tree of files holds

A tree is seen through the contents of its files (`content?`) and through the places of its
directories (`HasDirectory`). Putting something at a place changes the contents nowhere else
(`content?_put`) and keeps every directory, and walking a path finds its way as long as directories
stay (`walk_mono`).
-/

namespace FieldProjection

namespace FileTree

/-- The content of the file at a place. -/
def content? (tree : FileTree) (place : List String) : Option ByteArray :=
  match tree.at? place with
  | some (.file content) => some content
  | _ => none

/-- A directory stands at a place. -/
def HasDirectory (tree : FileTree) (place : List String) : Prop :=
  ∃ entries, tree.at? place = some (.directory entries)

variable {tree new : FileTree} {entries : List (String × FileTree)} {name : String}
  {place rest : List String}

/-! ## Going down -/

/-- Below a directory one goes on in the entry of the next name. -/
theorem at?_directory_cons (entries : List (String × FileTree)) (name : String)
    (rest : List String) :
    (directory entries).at? (name :: rest) =
      (Entries.find? name entries).bind fun tree => tree.at? rest := rfl

/-- A place in two parts is reached one part after the other. -/
theorem at?_append (tree : FileTree) (first second : List String) :
    tree.at? (first ++ second) = (tree.at? first).bind fun inner => inner.at? second := by
  induction first generalizing tree with
  | nil => cases tree <;> rfl
  | cons name rest ih =>
      cases tree with
      | file content => rfl
      | directory entries =>
          rw [List.cons_append, at?_directory_cons, at?_directory_cons, Option.bind_assoc]
          exact congrArg _ (funext fun inner => ih inner)

/-- The content of a file below a directory is found in the entry of the next name. -/
theorem content?_directory_cons (entries : List (String × FileTree)) (name : String)
    (rest : List String) :
    (directory entries).content? (name :: rest) =
      (Entries.find? name entries).bind fun tree => tree.content? rest := by
  rw [content?, at?_directory_cons]
  cases Entries.find? name entries <;> rfl

/-- The directory without entries holds no files. -/
theorem content?_empty (place : List String) : empty.content? place = none := by
  cases place <;> rfl

/-- Where there is no directory, no file lies below. -/
theorem content?_append_of_not_hasDirectory (h : ¬tree.HasDirectory place) (name : String)
    (rest : List String) : tree.content? (place ++ name :: rest) = none := by
  rw [content?, at?_append]
  cases hplace : tree.at? place with
  | none => rfl
  | some inner =>
      cases inner with
      | file content => rfl
      | directory entries => exact False.elim (h ⟨entries, hplace⟩)

/-- There is a directory below a directory exactly if the entry of the next name holds it. -/
theorem hasDirectory_directory_cons :
    (directory entries).HasDirectory (name :: rest) ↔
      ∃ inner, Entries.find? name entries = some inner ∧ inner.HasDirectory rest := by
  constructor
  · rintro ⟨found, hfound⟩
    obtain ⟨inner, hinner, hrest⟩ := Option.bind_eq_some_iff.mp hfound
    exact ⟨inner, hinner, found, hrest⟩
  · rintro ⟨inner, hinner, found, hrest⟩
    exact ⟨found, Option.bind_eq_some_iff.mpr ⟨inner, hinner, hrest⟩⟩

/-- A file has no directories. -/
theorem not_hasDirectory_file (content : ByteArray) (place : List String) :
    ¬(file content).HasDirectory place := by
  rintro ⟨entries, h⟩
  cases place with
  | nil => exact FileTree.noConfusion (Option.some.inj h)
  | cons name rest => exact Option.some_ne_none _ h.symm

/-! ## Putting something at a place -/

/-- Putting something below a directory changes the entry of the next name. -/
theorem put_directory_cons (entries : List (String × FileTree)) (name : String)
    (rest : List String) (new : FileTree) :
    (directory entries).put (name :: rest) new =
      directory
        (Entries.insert name (((Entries.find? name entries).getD empty).put rest new) entries) :=
  rfl

/-- The contents of a place stay what they were, unless it lies at or below the place where
something else was put. -/
theorem content?_put (tree : FileTree) (place : List String) (new : FileTree) (other : List String)
    (h : ∀ below, other = place ++ below → tree.content? other = new.content? below) :
    (tree.put place new).content? other = tree.content? other := by
  induction place generalizing tree other with
  | nil =>
      cases tree <;> exact (h other rfl).symm
  | cons name rest ih =>
      cases tree with
      | file content => rfl
      | directory entries =>
          rw [put_directory_cons]
          cases other with
          | nil => rfl
          | cons first more =>
              rw [content?_directory_cons, content?_directory_cons, Entries.find?_insert]
              by_cases hname : name = first
              · subst hname
                rw [if_pos rfl, Option.bind_some]
                -- an entry that is missing counts as an empty directory, which has no contents
                have hentry : ((Entries.find? name entries).getD empty).content? more =
                    (Entries.find? name entries).bind fun tree => tree.content? more := by
                  cases Entries.find? name entries with
                  | none => exact content?_empty more
                  | some inner => rfl
                rw [← hentry]
                refine ih _ more fun below hbelow => ?_
                rw [hentry, ← content?_directory_cons]
                exact h below (congrArg (name :: ·) hbelow)
              · rw [if_neg hname]

/-- What is put into a directory stands there. -/
theorem at?_put (h : tree.HasDirectory place) (name : String) (new : FileTree) :
    (tree.put (place ++ [name]) new).at? (place ++ [name]) = some new := by
  induction place generalizing tree with
  | nil =>
      cases tree with
      | file content => exact False.elim (not_hasDirectory_file content [] h)
      | directory entries =>
          have hput : ∀ old : FileTree, old.put [] new = new := fun old => by cases old <;> rfl
          rw [List.nil_append, put_directory_cons, at?_directory_cons, Entries.find?_insert,
            if_pos rfl, hput]
          cases new <;> rfl
  | cons first rest ih =>
      cases tree with
      | file content => exact False.elim (not_hasDirectory_file content _ h)
      | directory entries =>
          obtain ⟨inner, hinner, hrest⟩ := hasDirectory_directory_cons.mp h
          rw [List.cons_append, put_directory_cons, at?_directory_cons, Entries.find?_insert,
            if_pos rfl, hinner]
          exact ih hrest

/-- Directories stay when something is put where there is none. -/
theorem HasDirectory.put {other : List String} (h : tree.HasDirectory other)
    (hplace : ¬tree.HasDirectory place) (new : FileTree) :
    (tree.put place new).HasDirectory other := by
  induction place generalizing tree other with
  | nil =>
      cases tree with
      | file content => exact False.elim (not_hasDirectory_file content other h)
      | directory entries => exact False.elim (hplace ⟨entries, rfl⟩)
  | cons name rest ih =>
      cases tree with
      | file content => exact h
      | directory entries =>
          rw [put_directory_cons]
          cases other with
          | nil => exact ⟨_, rfl⟩
          | cons first more =>
              rw [hasDirectory_directory_cons] at h ⊢
              obtain ⟨inner, hinner, hmore⟩ := h
              rw [Entries.find?_insert]
              by_cases hname : name = first
              · subst hname
                rw [if_pos rfl, hinner, Option.getD_some]
                have hrest : ¬inner.HasDirectory rest := fun hrest =>
                  hplace (hasDirectory_directory_cons.mpr ⟨inner, hinner, hrest⟩)
                exact ⟨_, rfl, ih hmore hrest⟩
              · exact ⟨inner, by rw [if_neg hname]; exact hinner, hmore⟩

end FileTree

/-! ## Walking -/

namespace FileSystem

open FileTree

variable {root changed : FileTree} {place start : List String} {part : String}
  {parts rest : List String}

/-- One step of a walk is taken from a directory. -/
theorem walk_cons_eq_ok_iff :
    walk root start (part :: rest) = .ok place ↔
      root.HasDirectory start ∧
        if Path.isIdle part then walk root start rest = .ok place
        else if part = ".." then walk root start.dropLast rest = .ok place
        else part.utf8ByteSize ≤ maxNameBytes ∧ walk root (start ++ [part]) rest = .ok place := by
  rw [walk]
  cases hstart : root.at? start with
  | none => simp [HasDirectory, hstart]
  | some found =>
      cases found with
      | file content => simp [HasDirectory, hstart]
      | directory entries =>
          have hdirectory : root.HasDirectory start := ⟨entries, hstart⟩
          simp only [hdirectory, true_and]
          split
          · rfl
          · split
            · rfl
            · by_cases hlong : maxNameBytes < part.utf8ByteSize
              · simp [hlong, Nat.not_le.mpr hlong]
              · simp [hlong, Nat.not_lt.mp hlong]

/-- A walk finds its way when no directory has gone. -/
theorem walk_mono (hkeeps : ∀ place, root.HasDirectory place → changed.HasDirectory place)
    (h : walk root start parts = .ok place) : walk changed start parts = .ok place := by
  induction parts generalizing start with
  | nil => exact h
  | cons part rest ih =>
      rw [walk_cons_eq_ok_iff] at h ⊢
      obtain ⟨hstart, hrest⟩ := h
      refine ⟨hkeeps start hstart, ?_⟩
      split
      · next hidle => rw [if_pos hidle] at hrest; exact ih hrest
      · next hidle =>
          rw [if_neg hidle] at hrest
          split
          · next hup => rw [if_pos hup] at hrest; exact ih hrest
          · next hup => rw [if_neg hup] at hrest; exact ⟨hrest.1, ih hrest.2⟩

/-- A walk in two parts goes on from the place that the first one leads to. -/
theorem walk_append_eq_ok_iff :
    walk root start (parts ++ rest) = .ok place ↔
      ∃ between, walk root start parts = .ok between ∧ walk root between rest = .ok place := by
  induction parts generalizing start with
  | nil =>
      constructor
      · exact fun h => ⟨start, rfl, h⟩
      · rintro ⟨between, hbetween, h⟩
        obtain rfl : start = between := Except.ok.inj hbetween
        exact h
  | cons part more ih =>
      simp only [List.cons_append, walk_cons_eq_ok_iff, and_assoc, exists_and_left]
      refine and_congr_right fun _ => ?_
      by_cases hidle : Path.isIdle part
      · simp only [if_pos hidle, ih]
      · by_cases hup : part = ".."
        · simp only [if_neg hidle, if_pos hup, ih]
        · simp only [if_neg hidle, if_neg hup, ih, and_assoc, exists_and_left]

/-- A name leads from a directory to the place of its entry. -/
theorem walk_name_eq_ok_iff {name : String} (hidle : Path.isIdle name = false)
    (hup : name ≠ "..") :
    walk root start [name] = .ok place ↔
      root.HasDirectory start ∧ name.utf8ByteSize ≤ maxNameBytes ∧ start ++ [name] = place := by
  rw [walk_cons_eq_ok_iff, if_neg (by rw [hidle]; exact Bool.false_ne_true), if_neg hup, walk,
    Except.ok.injEq]

end FileSystem

end FieldProjection
