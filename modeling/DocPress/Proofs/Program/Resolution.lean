import DocPress.Program.Basic
import DocPress.Proofs.FileSystem.Updates

/-!
# DocPress.Proofs.Program.Resolution

Which file a program name stands for when it is started:

* `Files.ProgramAt` — a path leads, behind all links, to a file that may be executed;
* `searchEntries_eq_iff` — a search path is a row of directories with colons between them;
* `Finds` — the first directory that has a program of a name wins, and a search ends there
  (`searchProgram_eq_ok_iff`);
* `StartsItself` — to start a program by its path is to start the file that the path leads to. With
  a slash in the path it is, if that file may be executed (`startsItself_of_slash`). Without one the
  name is searched, whatever it leads to as a path (`startsItself_of_no_slash`);
* `SamePrograms` — files in which every name stands for the same program
  (`SamePrograms.resolveProgram_iff`). A new file that may not be executed does not matter.
-/

namespace DocPress

open DocPress.Text

namespace FileSystem.Files

variable {fs fs' : Files} {path : String} {l l' : Location} {content content' : Bytes} {e : Entry}

/-! ## Files at the end of a path -/

/-- The path leads, behind all links, to a location at which a file stands that may be executed. -/
structure ProgramAt (fs : Files) (path : String) (l : Location) (content : Bytes) : Prop where
  resolve : fs.resolve path = .ok l
  entry : fs.get? l = some (.file content true)

/-- The path leads to a file that may be executed. -/
def HasProgram (fs : Files) (path : String) : Prop :=
  ∃ l content, fs.ProgramAt path l content

/-- The empty path leads nowhere, and neither does one with a character of code 0. -/
theorem isPath_of_resolve (h : fs.resolve path = .ok l) :
    path ≠ "" ∧ path.contains '\x00' = false := by
  obtain ⟨hcheck, -⟩ := Files.resolve_eq_ok_iff.1 h
  obtain ⟨hne, hnul, -⟩ := Files.checkPath_eq_ok_iff.1 hcheck
  exact ⟨hne, by rw [String.contains_char_eq]; simpa using hnul⟩

/-- What a path leads to is what stands where it ends. -/
theorem stat_eq_ok_iff :
    fs.stat path = .ok e ↔ ∃ l, fs.resolve path = .ok l ∧ fs.get? l = some e := by
  cases hresolve : fs.resolve path with
  | error e => simp [stat, hresolve, bind, Except.bind]
  | ok l => cases he : fs.get? l <;> simp [stat, hresolve, he, bind, Except.bind]

theorem isFile_iff : fs.isFile path = true ↔
    ∃ content executable, fs.stat path = .ok (.file content executable) := by
  unfold isFile
  split
  · next hstat => simp [hstat]
  · next hnot => simpa using hnot

theorem isExecutable_iff_stat :
    fs.isExecutable path = true ↔ ∃ content, fs.stat path = .ok (.file content true) := by
  unfold isExecutable
  split
  · next hstat => simp [hstat]
  · next hnot => simpa using fun content => hnot content true

/-- A path may be executed if it leads to a program. -/
theorem isExecutable_iff : fs.isExecutable path = true ↔ fs.HasProgram path := by
  rw [isExecutable_iff_stat, HasProgram, exists_comm]
  refine exists_congr fun content => stat_eq_ok_iff.trans (exists_congr fun l => ?_)
  exact ⟨fun h => ⟨h.1, h.2⟩, fun h => ⟨h.resolve, h.entry⟩⟩

/-- A program is a file. -/
theorem isFile_of_isExecutable (h : fs.isExecutable path = true) : fs.isFile path = true := by
  obtain ⟨content, hstat⟩ := isExecutable_iff_stat.1 h
  exact isFile_iff.2 ⟨content, true, hstat⟩

/-- A path leads to one program at most. -/
theorem ProgramAt.unique (h : fs.ProgramAt path l content) (h' : fs.ProgramAt path l' content') :
    l' = l ∧ content' = content := by
  have hl := h'.resolve
  rw [h.resolve] at hl
  cases hl
  have he := h'.entry
  rw [h.entry] at he
  cases he
  exact ⟨rfl, rfl⟩

end FileSystem.Files

namespace Program

open DocPress.FileSystem

/-- The first directory in a row that has a program of a name has it at a path. All directories in
front of it are passed over. -/
inductive Finds (fs : Files) (name : String) : List String → String → Bytes → Prop
  | here (h : programAt fs (pathIn directory name) = .ok content) :
      Finds fs name (directory :: rest) (pathIn directory name) content
  | later (h : programAt fs (pathIn directory name) = .error e) (hpassed : isPassedOver e = true)
      (hrest : Finds fs name rest path content) : Finds fs name (directory :: rest) path content

/-- Every path is the same program in both, or none that a search would end at. -/
def SamePrograms (fs fs' : Files) : Prop :=
  ∀ path, programAt fs' path = programAt fs path ∨
    ∃ e e', programAt fs path = .error e ∧ isPassedOver e = true ∧
      programAt fs' path = .error e' ∧ isPassedOver e' = true

variable {env : Environment} {fs fs' : Files} {l : Location} {content : Bytes}
variable {path name program : String} {error : IoError} {directories arguments : List String}

/-! ## Search paths -/

/-- The parts of a text do not have the character at which it is split. -/
theorem notMem_of_mem_splitOn {text part : List Char} {c : Char} (h : part ∈ text.splitOn c) :
    c ∉ part := by
  induction text generalizing part with
  | nil =>
    obtain rfl : part = [] := by simpa using h
    exact List.not_mem_nil
  | cons x text ih =>
    rw [List.splitOn_cons_eq_if_modifyHead] at h
    split at h
    · rcases List.mem_cons.1 h with rfl | hrest
      · exact List.not_mem_nil
      · exact ih hrest
    · next hne =>
      obtain ⟨first, rest, hsplit⟩ := List.exists_cons_of_ne_nil (List.splitOn_ne_nil c text)
      rw [hsplit, List.modifyHead_cons] at h
      rcases List.mem_cons.1 h with rfl | hrest
      · have hfirst : c ∉ first := ih (by simp [hsplit])
        simpa [hfirst, @eq_comm _ c] using hne
      · exact ih (by simp [hsplit, hrest])

/-- The directories of a search path are what stands between its colons. -/
theorem searchEntries_eq_iff {searchPath : String} : searchEntries searchPath = directories ↔
    directories ≠ [] ∧ (∀ directory ∈ directories, ':' ∉ directory.toList) ∧
      searchPath = ":".intercalate directories := by
  have hcolon : ":".toList = [':'] := rfl
  constructor
  · rintro rfl
    refine ⟨?_, ?_, ?_⟩
    · simp [searchEntries, List.splitOn_ne_nil]
    · intro directory h
      obtain ⟨part, hpart, rfl⟩ := List.mem_map.1 h
      simpa using notMem_of_mem_splitOn hpart
    · apply String.toList_inj.1
      have hparts : (searchEntries searchPath).map String.toList =
          searchPath.toList.splitOn ':' := by simp [searchEntries]
      rw [String.toList_intercalate, hparts, hcolon, List.intercalate_splitOn]
  · rintro ⟨hne, hparts, rfl⟩
    have hsplit : (":".intercalate directories).toList.splitOn ':' =
        directories.map String.toList := by
      rw [String.toList_intercalate, hcolon]
      exact List.splitOn_intercalate ':' (by simpa using hparts) (by simpa using hne)
    rw [searchEntries, hsplit]
    simp

/-- Search paths are put together by a colon. -/
theorem searchEntries_append (p q : String) :
    searchEntries (p ++ ":" ++ q) = searchEntries p ++ searchEntries q := by
  simp only [searchEntries, String.toList_append, ← List.map_append]
  rw [List.append_assoc, show ":".toList = [':'] from rfl, List.singleton_append,
    List.splitOn_append_cons_self]

/-! ## Searching -/

/-- The program at the end of a path, and its content. -/
theorem programAt_eq_ok_iff :
    programAt fs path = .ok content ↔ ∃ l, fs.ProgramAt path l content := by
  have hstat : programAt fs path = .ok content ↔ fs.stat path = .ok (.file content true) := by
    unfold programAt
    cases fs.stat path with
    | error e => simp [bind, Except.bind]
    | ok e =>
      simp only [bind, Except.bind]
      split
      · simp
      · next hnot => simpa using hnot content
  rw [hstat, Files.stat_eq_ok_iff]
  exact exists_congr fun l => ⟨fun h => ⟨h.1, h.2⟩, fun h => ⟨h.resolve, h.entry⟩⟩

/-- A search ends at what is found. -/
theorem searchProgram_eq_ok_iff : searchProgram fs name error directories = .ok (path, content) ↔
    Finds fs name directories path content := by
  constructor
  · intro h
    fun_induction searchProgram fs name error directories with
    | case1 => cases h
    | case2 error directory rest found hfound =>
      cases h
      exact .here hfound
    | case3 => cases h
    | case4 error directory rest e he hpassed ih =>
      exact .later he (by simpa using hpassed) (ih h)
  · intro h
    induction h generalizing error with
    | here h => rw [searchProgram, h]
    | later h hpassed _ ih =>
      rw [searchProgram, h]
      simp only [hpassed, Bool.not_true, Bool.false_eq_true, if_false]
      exact ih

/-! ## Starting -/

/-- The file that a path leads to is the one that is started by it. -/
def StartsItself (env : Environment) (fs : Files) (path : String) : Prop :=
  ∃ l content found, fs.ProgramAt path l content ∧ fs.ProgramAt found l content ∧
    resolveProgram env fs path = .ok (found, content)

/-- A name with a slash is a path. -/
theorem resolveProgram_of_slash (h : path.contains '/' = true) :
    resolveProgram env fs path = (programAt fs path).map fun content => (path, content) := by
  have hne : path.isEmpty = false := by
    rw [Bool.eq_false_iff]
    intro hempty
    rw [String.isEmpty_iff.1 hempty] at h
    exact absurd h (by rw [String.contains_char_eq]; decide)
  rw [resolveProgram, hne, h]
  rfl

/-- Any other name is searched in the directories of the search path. -/
theorem resolveProgram_of_no_slash (hne : path ≠ "") (h : path.contains '/' = false) :
    resolveProgram env fs path = searchProgram fs path .notFound
      (searchEntries ((env.lookup "PATH").getD defaultSearchPath)) := by
  rw [resolveProgram, h]
  simp [hne]

/-- So a path with a slash to a program starts that program. -/
theorem resolveProgram_of_programAt (hslash : path.contains '/' = true)
    (h : fs.ProgramAt path l content) : resolveProgram env fs path = .ok (path, content) := by
  rw [resolveProgram_of_slash hslash, programAt_eq_ok_iff.2 ⟨l, h⟩]
  rfl

/-- What starts under a name with a slash is a program at that path. -/
theorem isExecutable_of_resolveProgram (hslash : path.contains '/' = true)
    (h : resolveProgram env fs path = .ok started) : fs.isExecutable path = true := by
  rw [resolveProgram_of_slash hslash] at h
  cases hprogram : programAt fs path with
  | error e =>
    rw [hprogram] at h
    cases h
  | ok content =>
    obtain ⟨l, hl⟩ := programAt_eq_ok_iff.1 hprogram
    exact Files.isExecutable_iff.2 ⟨l, content, hl⟩

/-- A path with a slash starts itself if it can be started at all. -/
theorem startsItself_of_slash (hslash : path.contains '/' = true) :
    StartsItself env fs path ↔ fs.isExecutable path = true := by
  rw [Files.isExecutable_iff]
  constructor
  · rintro ⟨l, content, found, hprogram, -⟩
    exact ⟨l, content, hprogram⟩
  · rintro ⟨l, content, hprogram⟩
    exact ⟨l, content, path, hprogram, hprogram, resolveProgram_of_programAt hslash hprogram⟩

/-- A path without a slash starts itself only if the search for it as a name ends at the very file
that the path leads to. -/
theorem startsItself_of_no_slash (hslash : path.contains '/' = false) :
    StartsItself env fs path ↔ ∃ l content found,
      Finds fs path (searchEntries ((env.lookup "PATH").getD defaultSearchPath)) found content ∧
      fs.ProgramAt path l content ∧ fs.ProgramAt found l content := by
  unfold StartsItself
  refine exists_congr fun l => exists_congr fun content => exists_congr fun found => ?_
  rw [← searchProgram_eq_ok_iff]
  constructor
  · rintro ⟨hprogram, hfound, hresolve⟩
    rw [resolveProgram_of_no_slash (Files.isPath_of_resolve hprogram.resolve).1 hslash] at hresolve
    exact ⟨hresolve, hprogram, hfound⟩
  · rintro ⟨hresolve, hprogram, hfound⟩
    rw [resolveProgram_of_no_slash (Files.isPath_of_resolve hprogram.resolve).1 hslash]
    exact ⟨hprogram, hfound, hresolve⟩

/-- What is started is what the name stands for, unless there is a character of code 0 in what it is
called with. -/
theorem run_spawn (m : Machine) (hprogram : program.contains '\x00' = false)
    (harguments : arguments.any (·.contains '\x00') = false)
    (hresolve : resolveProgram m.environment fs program = .ok (path, content)) :
    (m.spawn program arguments).run.run fs =
      (m.execute path content arguments).run.run fs := by
  have hnul : (program :: arguments).any (·.contains '\x00') = false := by
    rw [List.any_cons, hprogram, harguments]
    rfl
  rw [Machine.spawn, hnul]
  simp only [Bool.false_eq_true, if_false, Action.run_bind, Action.run_ask, hresolve]

/-- Nothing is started if the name stands for nothing. -/
theorem spawn_eq_error (m : Machine) (arguments : List String)
    (h : ∀ started, resolveProgram m.environment fs program ≠ .ok started) :
    ∃ e, (m.spawn program arguments).run.run fs = (.error e, fs) := by
  rw [Machine.spawn]
  split
  · exact ⟨_, rfl⟩
  · cases hresolve : resolveProgram m.environment fs program with
    | ok started => exact absurd hresolve (h started)
    | error e => exact ⟨e, by simp only [Action.run_bind, Action.run_ask, hresolve]⟩

/-! ## Files with the same programs -/

theorem SamePrograms.symm (h : SamePrograms fs fs') : SamePrograms fs' fs := fun path =>
  (h path).imp Eq.symm fun ⟨e, e', he, hpassed, he', hpassed'⟩ =>
    ⟨e', e, he', hpassed', he, hpassed⟩

/-- A program at the end of a path stays there. -/
theorem SamePrograms.ok (h : SamePrograms fs fs') (hfound : programAt fs path = .ok content) :
    programAt fs' path = .ok content := by
  rcases h path with hsame | ⟨e, -, he, -⟩
  · rw [hsame, hfound]
  · rw [hfound] at he
    cases he

/-- So a search ends at the same program. -/
theorem Finds.of_samePrograms (h : Finds fs name directories path content)
    (hsame : SamePrograms fs fs') : Finds fs' name directories path content := by
  induction h with
  | here hfound => exact .here (hsame.ok hfound)
  | @later directory e _ _ _ herror hpassed _ ih =>
    rcases hsame (pathIn directory name) with hsame | ⟨_, e', -, -, he', hpassed'⟩
    · exact .later (hsame.trans herror) hpassed ih
    · exact .later he' hpassed' ih

/-- A name that stands for a program stands for the same one in the other files, whether it is a
path or is searched. -/
theorem SamePrograms.resolveProgram_of_ok (h : SamePrograms fs fs')
    (hresolve : resolveProgram env fs program = .ok (path, content)) :
    resolveProgram env fs' program = .ok (path, content) := by
  have hne : program ≠ "" := by
    rintro rfl
    cases hresolve
  by_cases hslash : program.contains '/' = true
  · rw [resolveProgram_of_slash hslash] at hresolve ⊢
    cases hfound : programAt fs program with
    | error e =>
      rw [hfound] at hresolve
      cases hresolve
    | ok found => rwa [h.ok hfound, ← hfound]
  · rw [resolveProgram_of_no_slash hne (by simpa using hslash)] at hresolve ⊢
    exact searchProgram_eq_ok_iff.2 ((searchProgram_eq_ok_iff.1 hresolve).of_samePrograms h)

/-- A program name stands for the same program. -/
theorem SamePrograms.resolveProgram_iff (h : SamePrograms fs fs') :
    resolveProgram env fs' program = .ok (path, content) ↔
      resolveProgram env fs program = .ok (path, content) :=
  ⟨h.symm.resolveProgram_of_ok, h.resolveProgram_of_ok⟩

/-- A new file that may not be executed is no program, and searches pass it over. -/
theorem samePrograms_of_addsFile (h : fs.AddsFile l fs') : SamePrograms fs fs' := by
  intro path
  obtain ⟨content, hfile⟩ := h.file
  have horigin : fs'.origin path = fs.origin path := by
    rw [Files.origin, Files.origin, h.off.current]
  simp only [programAt, Files.stat, Files.resolve, horigin]
  cases Files.checkPath path with
  | error e => exact .inl rfl
  | ok u =>
    simp only [bind, Except.bind]
    -- A path that led nowhere may lead to the new file; a search passes both over.
    rcases h.walk Files.maxLinks (fs.origin path) (segments path) with hsame | ⟨hnone, hw | hdir⟩
    · rw [hsame]
      cases fs.walk Files.maxLinks (fs.origin path) (segments path) with
      | error e => exact .inl rfl
      | ok d =>
        by_cases hd : d = l
        · subst hd
          simp only [h.free, hfile]
          exact .inr ⟨.notFound, .denied, rfl, rfl, rfl, rfl⟩
        · left
          simp only [h.off.entry d hd]
    · rw [hnone, hw]
      simp only [hfile]
      exact .inr ⟨.notFound, .denied, rfl, rfl, rfl, rfl⟩
    · rw [hnone, hdir]
      exact .inr ⟨.notFound, .notDirectory, rfl, rfl, rfl, rfl⟩

end Program

end DocPress
