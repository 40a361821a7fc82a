import DocPress.Tool.Locate
import DocPress.Proofs.FileSystem.Segments
import DocPress.Proofs.Program.Resolution

/-!
# DocPress.Proofs.Tool.Search

How a tool is found:

1. A variable that is set decides alone: it leads to a program, or the tool cannot be used.
2. Without it, a row of directories is searched (`Tool.searched`): those of `PATH`, and behind them
   those in which the tool is usually installed. The first one that has the program wins
   (`FirstIn`), and the tool is missing only if none has it.

A directory of `PATH` without a name does not count, so the working directory is not searched by
mistake. Search paths that are put together are searched one after the other.
-/

namespace DocPress.Tool

open DocPress.FileSystem DocPress.Program

/-- The first directory of a row that has a program of a name has it at a path. -/
def FirstIn (fs : Files) (name : String) (directories : List String) (path : String) : Prop :=
  ∃ before directory after, directories = before ++ directory :: after ∧
    path = joinPath directory name ∧ fs.HasProgram path ∧
    ∀ d ∈ before, ¬ fs.HasProgram (joinPath d name)

/-- The directories that are searched for a tool if no variable says where it is. -/
def searched (tool : Tool) (env : Environment) : List String :=
  ((env.lookup "PATH").map searchDirectories).getD [] ++ tool.fallbackDirs

variable {tool : Tool} {env : Environment} {fs : Files} {directories : List String}
variable {name path p q searchPath directory : String}

/-! ## Rows of directories -/

/-- The first directory that has the program wins. -/
theorem findIn_eq_some_iff : findIn fs name directories = some path ↔
    FirstIn fs name directories path := by
  have hnot (d : String) : (!fs.isExecutable (joinPath d name)) = true ↔
      ¬ fs.HasProgram (joinPath d name) := by
    rw [Bool.not_eq_true', Bool.eq_false_iff, ne_eq, Files.isExecutable_iff]
  rw [findIn, List.find?_eq_some_iff_append, Files.isExecutable_iff]
  constructor
  · rintro ⟨hprogram, before, after, hrow, hbefore⟩
    obtain ⟨front, back, rfl, rfl, hback⟩ := List.map_eq_append_iff.1 hrow
    obtain ⟨d, back, rfl, rfl, rfl⟩ := List.map_eq_cons_iff.1 hback
    refine ⟨front, d, back, rfl, rfl, hprogram, fun d hd => (hnot d).1 (hbefore _ ?_)⟩
    exact List.mem_map_of_mem hd
  · rintro ⟨before, d, after, rfl, rfl, hprogram, hbefore⟩
    refine ⟨hprogram, before.map (joinPath · name), after.map (joinPath · name), by simp, ?_⟩
    intro path hpath
    obtain ⟨d, hd, rfl⟩ := List.mem_map.1 hpath
    exact (hnot d).2 (hbefore d hd)

/-- A program is not found if no directory has it. -/
theorem findIn_eq_none_iff : findIn fs name directories = none ↔
    ∀ d ∈ directories, ¬ fs.HasProgram (joinPath d name) := by
  simp [findIn, ← Files.isExecutable_iff]

/-- Of two rows the first one is searched first. -/
theorem findIn_append (front back : List String) : findIn fs name (front ++ back) =
    (findIn fs name front).or (findIn fs name back) := by
  rw [findIn, findIn, findIn, List.map_append, List.find?_append]

/-! ## Search paths -/

/-- Search paths with a colon between them are searched one after the other. -/
theorem findInPath_append (fs : Files) (name p q : String) :
    findInPath fs name (p ++ ":" ++ q) = (findInPath fs name p).or (findInPath fs name q) := by
  simp only [findInPath, searchDirectories]
  rw [searchEntries_append, List.filter_append, findIn_append]

/-- What is found lies in a directory that has a name. -/
theorem exists_of_findInPath (h : findInPath fs name searchPath = some path) :
    ∃ d ∈ searchEntries searchPath, d ≠ "" ∧ path = joinPath d name := by
  obtain ⟨before, d, after, hrow, rfl, -⟩ := findIn_eq_some_iff.1 h
  have hd : d ∈ searchDirectories searchPath := by simp [hrow]
  obtain ⟨hmem, hne⟩ := List.mem_filter.1 hd
  exact ⟨d, hmem, by simpa using hne, rfl⟩

/-! ## Tools -/

/-- A variable that is set decides alone. -/
theorem locate_of_override (h : env.lookup tool.variableName = some path) (hne : path ≠ "") :
    tool.locate env fs = if fs.isExecutable path then .ok path
      else .error (.overrideInvalid tool.variableName path) := by
  have hvalue : nonEmptyValue? env tool.variableName = some path := by
    simp [nonEmptyValue?, h, hne]
  rw [locate, hvalue]

/-- Without a variable, a tool is where the search for it ends. -/
theorem locate_of_search (h : ∀ path, env.lookup tool.variableName = some path → path = "") :
    tool.locate env fs = (findIn fs tool.name (tool.searched env)).elim
      (.error (.notFound tool.name tool.fallbackDirs.length)) .ok := by
  have hvalue : nonEmptyValue? env tool.variableName = none := by
    rw [nonEmptyValue?, Option.filter_eq_none_iff]
    intro path hpath
    simp [h path hpath]
  have hsearch : ((env.lookup "PATH").bind (findInPath fs tool.name) <|>
      findIn fs tool.name tool.fallbackDirs) = findIn fs tool.name (tool.searched env) := by
    rw [searched, findIn_append, Option.orElse_eq_orElse, Option.orElse_eq_or]
    cases env.lookup "PATH" <;> rfl
  rw [locate, hvalue]
  simp only [executableName, hsearch]
  cases findIn fs tool.name (tool.searched env) <;> rfl

/-- Without a variable, the first directory of the row decides. -/
theorem locate_eq_ok_iff
    (hunset : ∀ path, env.lookup tool.variableName = some path → path = "") :
    tool.locate env fs = .ok path ↔ FirstIn fs tool.name (tool.searched env) path := by
  rw [locate_of_search hunset, ← findIn_eq_some_iff]
  cases findIn fs tool.name (tool.searched env) <;> simp

/-- Without a variable, a tool is missing only if no directory has it. The error counts those in
which it is usually installed. -/
theorem locate_eq_error_iff {e : ToolError}
    (hunset : ∀ path, env.lookup tool.variableName = some path → path = "") :
    tool.locate env fs = .error e ↔ e = .notFound tool.name tool.fallbackDirs.length ∧
      ∀ d ∈ tool.searched env, ¬ fs.HasProgram (joinPath d tool.name) := by
  rw [locate_of_search hunset, ← findIn_eq_none_iff]
  cases findIn fs tool.name (tool.searched env) <;> simp [eq_comm]

/-- What is found is a program, whichever way it was found. -/
theorem hasProgram_of_locate (h : tool.locate env fs = .ok path) : fs.HasProgram path := by
  by_cases hset : ∃ override, env.lookup tool.variableName = some override ∧ override ≠ ""
  · obtain ⟨override, hlookup, hne⟩ := hset
    rw [locate_of_override hlookup hne] at h
    split at h
    · next hexecutable =>
      cases h
      exact Files.isExecutable_iff.1 hexecutable
    · cases h
  · obtain ⟨-, -, -, -, -, hprogram, -⟩ := (locate_eq_ok_iff (by simpa using hset)).1 h
    exact hprogram

/-- A path in a directory that has a name has a slash. -/
theorem contains_slash_joinPath (h : directory ≠ "") (name : String) :
    (joinPath directory name).contains '/' = true := by
  have hmem : '/' ∈ (joinPath directory name).toList := by
    unfold joinPath
    split
    · next hname =>
      obtain ⟨rest, rfl⟩ := isAbsolute_iff.1 hname
      simp
    · split
      · next hend =>
        have hslash : directory.endsWith "/" = true := by simpa [h] using hend
        obtain ⟨front, rfl⟩ := endsWith_slash_iff.1 hslash
        simp
      · simp
  rw [String.contains_char_eq]
  simpa using hmem

/-- A tool that is searched for is found under a path with a slash, as long as each of the usual
directories has a name. -/
theorem contains_slash_of_locate
    (hunset : ∀ path, env.lookup tool.variableName = some path → path = "")
    (hdirs : ∀ d ∈ tool.fallbackDirs, d ≠ "") (h : tool.locate env fs = .ok path) :
    path.contains '/' = true := by
  obtain ⟨before, d, after, hrow, rfl, -⟩ := (locate_eq_ok_iff hunset).1 h
  refine contains_slash_joinPath ?_ tool.name
  have hd : d ∈ tool.searched env := by simp [hrow]
  rcases List.mem_append.1 hd with hpath | hfallback
  · cases hvalue : env.lookup "PATH" with
    | none => simp [hvalue] at hpath
    | some searchPath =>
      rw [hvalue] at hpath
      simpa using (List.mem_filter.1 hpath).2
  · exact hdirs d hfallback

/-- How a tool is found. -/
theorem locate_first (tool : Tool) (env : Environment) (fs : Files) :
    -- A variable that is set decides alone.
    (∀ path, env.lookup tool.variableName = some path → path ≠ "" →
      (fs.HasProgram path → tool.locate env fs = .ok path) ∧
      (¬ fs.HasProgram path →
        tool.locate env fs = .error (.overrideInvalid tool.variableName path))) ∧
    -- Without it, the first directory that has the program wins, and none has it if none is found.
    ((∀ path, env.lookup tool.variableName = some path → path = "") →
      (∀ path, tool.locate env fs = .ok path ↔ FirstIn fs tool.name (tool.searched env) path) ∧
      (∀ e, tool.locate env fs = .error e ↔
        e = .notFound tool.name tool.fallbackDirs.length ∧
          ∀ d ∈ tool.searched env, ¬ fs.HasProgram (joinPath d tool.name))) ∧
    -- The directories are what stands between the colons of `PATH`, if anything does, and the usual
    -- ones.
    (∀ searchPath, env.lookup "PATH" = some searchPath →
      ∃ components, components ≠ [] ∧ (∀ c ∈ components, ':' ∉ c.toList) ∧
        searchPath = ":".intercalate components ∧
        tool.searched env = components.filter (· ≠ "") ++ tool.fallbackDirs) ∧
    (env.lookup "PATH" = none → tool.searched env = tool.fallbackDirs) ∧
    -- Search paths are searched one after the other, and never in an empty directory.
    (∀ name p q, findInPath fs name (p ++ ":" ++ q) =
      (findInPath fs name p).or (findInPath fs name q)) ∧
    (∀ name p path, findInPath fs name p = some path →
      ∃ d ∈ searchEntries p, d ≠ "" ∧ path = joinPath d name) := by
  refine ⟨fun path hset hne => ?_,
    fun hunset => ⟨fun path => locate_eq_ok_iff hunset, fun e => locate_eq_error_iff hunset⟩,
    fun searchPath hpath => ?_, fun hnone => ?_, findInPath_append fs,
    fun name p path => exists_of_findInPath⟩
  · have hlocate := @locate_of_override tool env fs path hset hne
    rw [← Files.isExecutable_iff]
    exact ⟨fun h => by rw [hlocate, if_pos h], fun h => by rw [hlocate, if_neg h]⟩
  · obtain ⟨hne, hcolon, hrow⟩ := searchEntries_eq_iff.1 (Eq.refl (searchEntries searchPath))
    refine ⟨searchEntries searchPath, hne, hcolon, hrow, ?_⟩
    have hfilter : searchDirectories searchPath =
        (searchEntries searchPath).filter (· ≠ "") := by
      refine List.filter_congr fun d _ => ?_
      rw [Bool.eq_iff_iff]
      simp
    rw [searched, hpath, Option.map_some, Option.getD_some, hfilter]
  · rw [searched, hnone]
    rfl

/-- A directory without a name is passed over, though the program lies in the working directory, and
so is one in which the file of that name may not be executed. -/
theorem locate_first_third :
    let tool : Tool := ⟨"press", "PRESS_PATH", ["tools"]⟩
    let env : Environment := [("PRESS_PATH", ""), ("PATH", ":bin:usr:")]
    let fs : Files := ⟨[(["press"], .file [1] true), (["bin"], .directory),
      (["bin", "press"], .file [2] false), (["usr"], .directory),
      (["usr", "press"], .file [3] true)], []⟩
    (∀ path, env.lookup tool.variableName = some path → path = "") ∧
      fs.HasProgram "press" ∧ tool.locate env fs = .ok "usr/press" ∧
      tool.locate (("PRESS_PATH", "bin/press") :: env) fs =
        .error (.overrideInvalid "PRESS_PATH" "bin/press") := by
  intro tool env fs
  have hunset : ∀ path, env.lookup tool.variableName = some path → path = "" := by
    simp [env, tool]
  have hname : IsName "press" := ⟨by decide, by decide, by decide⟩
  have hhere : fs.ProgramAt "press" ["press"] [1] :=
    ⟨Files.resolve_of_segments rfl (Files.checkPath_eq_ok_iff.2 (by decide))
      (show _ = ["press"] by decide +kernel) (.entry rfl hname rfl (by simp) .done), rfl⟩
  have hfirst : fs.resolve "bin/press" = .ok ["bin", "press"] :=
    Files.resolve_of_two rfl (Files.checkPath_eq_ok_iff.2 (by decide)) (by decide +kernel)
      ⟨by decide, by decide, by decide⟩ hname rfl rfl (by simp)
  have hsecond : fs.ProgramAt "usr/press" ["usr", "press"] [3] :=
    ⟨Files.resolve_of_two rfl (Files.checkPath_eq_ok_iff.2 (by decide)) (by decide +kernel)
      ⟨by decide, by decide, by decide⟩ hname rfl rfl (by simp), rfl⟩
  have hbefore : ¬ fs.HasProgram "bin/press" := by
    rintro ⟨l, content, hl, hentry⟩
    rw [hfirst] at hl
    cases hl
    cases hentry
  refine ⟨hunset, ⟨_, _, hhere⟩,
    (((locate_first tool env fs).2.1 hunset).1 "usr/press").2 ?_,
    ((locate_first tool _ fs).1 "bin/press" (by decide) (by decide)).2 hbefore⟩
  refine ⟨["bin"], "usr", ["tools"], rfl, ?_, ⟨_, _, hsecond⟩, ?_⟩
  · decide +kernel
  · intro d hd
    obtain rfl := List.mem_singleton.1 hd
    rw [show joinPath "bin" tool.name = "bin/press" by decide +kernel]
    exact hbefore

end DocPress.Tool
