import DocPress.Backend.Program
import DocPress.Proofs.FileSystem.Temporary
import DocPress.Proofs.Tool.Search

/-!
# DocPress.Proofs.Backend.Starting

Whether the program that is found for a renderer is the one that is started:

1. What is found is a file, and one that may be executed if it was searched for. A path that is
   given is only asked for a file.
2. A renderer that was found is never missing (`render_ne_unavailable`), and the document that is
   staged in between is no program and hides none (`stageHtml_addsFile`).
3. What is started is what the path stands for as the name of a program (`run_render_of_started`).
   With a slash in the path that is the file that was found, if it may be executed. Without one, the
   name is searched in the directories of `PATH`, whatever was found.

So a path without a slash, in a variable or given, may start another program
(`starts_another_program`).
-/

namespace DocPress.Backend

open DocPress.FileSystem DocPress.Program DocPress.Text DocPress.Tool

variable {m : Machine} {env : Environment} {fs fs' : Files} {l : Location} {content : Bytes}
variable {backend html input path name d : String} {placed : PlacedTool}
variable {arguments : String → List String}

/-! ## Staging the document -/

theorem isSegment_htmlStart : IsSegment "md2pdf-" := ⟨by decide, by decide⟩

/-- A document is staged in a new file, which has the path that is given away, and all else is as it
was. -/
theorem run_stageHtml (hfs : fs.Grounded) (backend html : String)
    (hmake : (makeTemporary (temporaryDirectory m.environment) "md2pdf-" ".html").run.run fs =
      (.ok input, fs')) :
    ∃ l fs'', (stageHtml m backend html).run.run fs = (.ok input, fs'') ∧ fs.AddsFile l fs'' ∧
      fs''.Names input l ∧ input.endsWith "/" = false := by
  obtain ⟨d, hd, -⟩ := makeTemporary_path hmake
  have hdirectory : temporaryDirectory m.environment ≠ "" := by
    intro hempty
    rw [hempty] at hd
    cases hd
  obtain ⟨-, l, -, -, hnames, hslash, -, hfree, rfl⟩ := makeTemporary_eq_ok hmake hfs hdirectory
    isSegment_htmlStart (by decide)
  have hset := Files.SameOff.set l (.file [] false) fs
  have hwrite := Files.writeFile_of_file (hnames.keepsTree (hset.keepsTree_of_none hfree)) hslash
    (Files.get?_set_self fs hnames.ne_root (.file [] false)) (encode html)
  have hwritten := hset.trans (.set l (.file (encode html) false) _)
  refine ⟨l, _, ?_, ⟨hwritten, hfree, encode html, Files.get?_set_self _ hnames.ne_root _⟩,
    hnames.keepsTree (hwritten.keepsTree_of_none hfree), hslash⟩
  simp only [stageHtml, Action.run_mapError, Action.run_bind, hmake, Action.run_update, hwrite,
    Action.run_pure]

/-- A document is staged in a new file, and its path names that file. -/
theorem stageHtml_eq_ok (hfs : fs.Grounded)
    (h : (stageHtml m backend html).run.run fs = (.ok input, fs')) :
    ∃ l, fs.AddsFile l fs' ∧ fs'.Names input l ∧ input.endsWith "/" = false := by
  rcases hmake : (makeTemporary (temporaryDirectory m.environment) "md2pdf-" ".html").run.run
    fs with ⟨e | path, fs₁⟩
  · simp only [stageHtml, Action.run_mapError, Action.run_bind, hmake] at h
    cases h
  · obtain ⟨l, fs₂, hstage, hstaged⟩ := run_stageHtml hfs backend html hmake
    rw [hstage] at h
    cases h
    exact ⟨l, hstaged⟩

/-- To stage a document adds one file. -/
theorem stageHtml_addsFile (hfs : fs.Grounded)
    (h : (stageHtml m backend html).run.run fs = (.ok input, fs')) : ∃ l, fs.AddsFile l fs' := by
  obtain ⟨l, hadds, -⟩ := stageHtml_eq_ok hfs h
  exact ⟨l, hadds⟩

/-- A document that cannot be staged is an error of input or output. -/
theorem stageHtml_eq_error {e : BackendError}
    (h : (stageHtml m backend html).run.run fs = (.error e, fs')) :
    ∃ detail, e = .io backend detail := by
  rw [stageHtml, Action.run_mapError] at h
  split at h
  · cases h
  · cases h
    exact ⟨_, rfl⟩

/-! ## What is found -/

/-- A tool is installed where it is located. -/
theorem probe_iff :
    placed.probe env fs = .installed (some path) ↔ placed.locate env fs = .ok path := by
  rw [PlacedTool.probe]
  cases placed.locate env fs <;> simp

/-- A tool without a place of its own is searched for. -/
theorem locate_iff_of_searched (h : placed.path? = none) :
    placed.locate env fs = .ok path ↔ placed.tool.locate env fs = .ok path := by
  rw [PlacedTool.locate, h]
  cases placed.tool.locate env fs <;> simp [Except.mapError]

/-- What is found is a file. It may be executed if the tool was searched for. -/
theorem isFile_of_locate (h : placed.locate env fs = .ok path) :
    fs.isFile path = true ∧ (placed.path? = none → fs.isExecutable path = true) := by
  cases hplace : placed.path? with
  | none =>
    have hprogram := hasProgram_of_locate ((locate_iff_of_searched hplace).1 h)
    have hexecutable := Files.isExecutable_iff.2 hprogram
    exact ⟨Files.isFile_of_isExecutable hexecutable, fun _ => hexecutable⟩
  | some given =>
    rw [PlacedTool.locate, hplace] at h
    simp only at h
    split at h
    · next hfile =>
      cases h
      exact ⟨hfile, nofun⟩
    · cases h

/-- A tool that was searched for, without a variable, lies under a path with a slash. -/
theorem contains_slash_of_searched (h : placed.locate env fs = .ok path)
    (hsearched : placed.path? = none)
    (hunset : ∀ path, env.lookup placed.tool.variableName = some path → path = "")
    (hdirs : ∀ d ∈ placed.tool.fallbackDirs, d ≠ "") : path.contains '/' = true :=
  contains_slash_of_locate hunset hdirs ((locate_iff_of_searched hsearched).1 h)

/-- All directories in which a renderer is usually installed have a name. -/
theorem ne_empty_of_mem_fallbackDirs {renderer : Renderer} (h : d ∈ renderer.fallbackDirs env) :
    d ≠ "" := by
  rintro rfl
  unfold Renderer.fallbackDirs at h
  split at h
  · next home _ =>
    obtain ⟨front, hfront⟩ := exists_joinPath_eq (joinPath home ".local") "bin"
    have hne : "" ≠ front ++ "bin" := fun hempty => by
      simpa using congrArg String.toList hempty
    simp [hfront, hne] at h
  · simp at h

/-- A renderer that was searched for, without a variable, starts itself. -/
theorem startsItself_of_searched {renderer : Renderer}
    (h : (RendererProgram.mk renderer none).probe env fs = .installed (some path))
    (hunset : ∀ path, env.lookup renderer.variableName = some path → path = "") :
    StartsItself env fs path := by
  have hlocate := probe_iff.1 h
  have hslash := contains_slash_of_searched hlocate rfl hunset
    fun d hd => ne_empty_of_mem_fallbackDirs hd
  exact (startsItself_of_slash hslash).2 ((isFile_of_locate hlocate).2 rfl)

/-! ## What is started -/

/-- A program that was found is used as it was found. -/
theorem run_render (h : placed.locate m.environment fs = .ok path) :
    (placed.render m html arguments).run.run fs =
      (renderWith m placed.tool.name path html arguments).run.run fs := by
  simp only [PlacedTool.render, Action.run_bind, Action.run_mapError, Action.run_ask, h]

/-- What the program is called for is judged by its end alone, and the staged document is discarded
whatever that was. -/
theorem run_renderWith (hstage : (stageHtml m backend html).run.run fs = (.ok input, fs')) :
    (renderWith m backend path html arguments).run.run fs =
      let ran := (m.spawn path (arguments input)).run.run fs'
      (judge backend path ran.1,
        ((discardTemporary input : Action BackendError Unit).run.run ran.2).2) := by
  rw [renderWith, Action.run_bind, hstage]
  exact Action.run_tryFinally _ (Prod.ext (by rw [run_discardTemporary]) rfl)

/-- A program that was started, or could not be, is never judged to be missing. -/
theorem judge_ne_unavailable (backend program detail : String)
    (outcome : Except IoError Finished) :
    judge backend program outcome ≠ .error (.unavailable name detail) := by
  cases outcome with
  | error e => simp [judge]
  | ok finished =>
    rw [judge]
    split <;> simp

/-- A renderer that was found is not missing. -/
theorem render_ne_unavailable (h : placed.locate m.environment fs = .ok path)
    (name detail : String) :
    ((placed.render m html arguments).run.run fs).1 ≠ .error (.unavailable name detail) := by
  rw [run_render h]
  rcases hstage : (stageHtml m placed.tool.name html).run.run fs with ⟨e | input, fs'⟩
  · obtain ⟨_, rfl⟩ := stageHtml_eq_error hstage
    rw [renderWith, Action.run_bind, hstage]
    simp
  · rw [run_renderWith hstage]
    exact judge_ne_unavailable _ _ _ _

/-- What the path stands for as the name of a program is started, though the document has been
staged in between. -/
theorem run_render_of_started (hfs : fs.Grounded) (h : placed.locate m.environment fs = .ok path)
    (hstage : (stageHtml m placed.tool.name html).run.run fs = (.ok input, fs'))
    (hresolve : resolveProgram m.environment fs path = .ok (name, content))
    (harguments : (arguments input).any (·.contains '\x00') = false) :
    (placed.render m html arguments).run.run fs =
      let ran := (m.execute name content (arguments input)).run.run fs'
      (judge placed.tool.name path ran.1,
        ((discardTemporary input : Action BackendError Unit).run.run ran.2).2) := by
  obtain ⟨w, hadds⟩ := stageHtml_addsFile hfs hstage
  have hstarted := (samePrograms_of_addsFile hadds).resolveProgram_iff.2 hresolve
  obtain ⟨content', executable, hfile⟩ := Files.isFile_iff.1 (isFile_of_locate h).1
  obtain ⟨l, hpath, -⟩ := Files.stat_eq_ok_iff.1 hfile
  rw [run_render h, run_renderWith hstage,
    run_spawn m (Files.isPath_of_resolve hpath).2 harguments hstarted]

/-- If it stands for nothing, nothing is started. -/
theorem render_eq_spawn (hfs : fs.Grounded) (h : placed.locate m.environment fs = .ok path)
    (hstage : (stageHtml m placed.tool.name html).run.run fs = (.ok input, fs'))
    (hnone : ∀ started, resolveProgram m.environment fs path ≠ .ok started) :
    ∃ detail, ((placed.render m html arguments).run.run fs).1 =
      .error (.spawn placed.tool.name (path ++ ": " ++ detail)) := by
  obtain ⟨w, hadds⟩ := stageHtml_addsFile hfs hstage
  have hnone' (started) : resolveProgram m.environment fs' path ≠ .ok started := fun hresolve =>
    hnone started ((samePrograms_of_addsFile hadds).resolveProgram_iff.1 hresolve)
  obtain ⟨e, hspawn⟩ := spawn_eq_error m (arguments input) hnone'
  rw [run_render h, run_renderWith hstage, hspawn]
  exact ⟨e.message, rfl⟩

/-- What comes of a tool that was found. -/
theorem starting_of_installed (placed : PlacedTool) (m : Machine) (fs : Files) (path : String)
    (hfs : fs.Grounded) (hprobe : placed.probe m.environment fs = .installed (some path)) :
    -- It is a file. A tool that was searched for may be executed, and lies under a path with a
    -- slash unless a variable says where it is.
    fs.isFile path = true ∧
    (placed.path? = none → fs.isExecutable path = true ∧
      ((∀ path, m.environment.lookup placed.tool.variableName = some path → path = "") →
        (∀ d ∈ placed.tool.fallbackDirs, d ≠ "") → path.contains '/' = true)) ∧
    -- The very file is started in these cases alone.
    (path.contains '/' = true →
      (StartsItself m.environment fs path ↔ fs.isExecutable path = true)) ∧
    (path.contains '/' = false →
      (StartsItself m.environment fs path ↔ ∃ l content found,
        Finds fs path (searchEntries ((m.environment.lookup "PATH").getD defaultSearchPath)) found
          content ∧
        fs.ProgramAt path l content ∧ fs.ProgramAt found l content)) ∧
    -- It is not missing, and what comes of it depends on what the path stands for as a name.
    (∀ html arguments name detail,
      ((placed.render m html arguments).run.run fs).1 ≠ .error (.unavailable name detail)) ∧
    ∀ html arguments input fs',
      (stageHtml m placed.tool.name html).run.run fs = (.ok input, fs') →
      (∀ found content, resolveProgram m.environment fs path = .ok (found, content) →
        (arguments input).any (·.contains '\x00') = false →
          let ran := (m.execute found content (arguments input)).run.run fs'
          (placed.render m html arguments).run.run fs =
            (judge placed.tool.name path ran.1,
              ((discardTemporary input : Action BackendError Unit).run.run ran.2).2)) ∧
      ((∀ started, resolveProgram m.environment fs path ≠ .ok started) →
        ∃ detail, ((placed.render m html arguments).run.run fs).1 =
          .error (.spawn placed.tool.name (path ++ ": " ++ detail))) := by
  have hlocate := probe_iff.1 hprobe
  obtain ⟨hfile, hexecutable⟩ := isFile_of_locate hlocate
  exact ⟨hfile,
    fun hsearched => ⟨hexecutable hsearched, contains_slash_of_searched hlocate hsearched⟩,
    startsItself_of_slash, startsItself_of_no_slash,
    fun _ _ => render_ne_unavailable hlocate,
    fun _ _ _ _ hstage =>
      ⟨fun _ _ => run_render_of_started hfs hlocate hstage, render_eq_spawn hfs hlocate hstage⟩⟩

namespace Sample

/-- Two programs of one name, and a file that is no program. -/
def files : Files :=
  ⟨[(["wkhtmltopdf"], .file [109] true), (["bin"], .directory),
    (["bin", "wkhtmltopdf"], .file [111] true), (["notes"], .file [] false)], []⟩

/-- A machine on which every program fails and says what it is. -/
def machine (override : List (String × String)) : Machine :=
  ⟨override ++ [("PATH", "bin"), ("TMPDIR", ".")],
    fun _ content _ => return ⟨.exited 1, [], content⟩⟩

def renderer (path? : Option String) (m : Machine) : PlacedTool :=
  RendererProgram.placed ⟨.wkhtmltopdf, path?⟩ m.environment

theorem grounded : files.Grounded where
  segment name h := by cases h
  name name h := by cases h
  directory l h := by
    rw [List.prefix_nil.1 h]
    rfl

/-- A document is staged in the root, if that is the working directory. -/
theorem exists_stageHtml_here (hfs : fs.Grounded) (hcurrent : fs.current = [])
    (hfree : fs.get? ["md2pdf-000000.html"] = none)
    (h : temporaryDirectory m.environment = ".") (backend html : String) :
    ∃ fs', (stageHtml m backend html).run.run fs = (.ok "/./md2pdf-000000.html", fs') := by
  have hname : fs.freeName [] "md2pdf-" ".html" = "md2pdf-000000.html" := by
    have hzero : numberedName "md2pdf-" ".html" 0 = "md2pdf-000000.html" := by decide +kernel
    rw [← hzero] at hfree ⊢
    exact Files.freeName_of_free hfree
  have habsolute : fs.absolute (joinPath "." "md2pdf-000000.html") = "/./md2pdf-000000.html" := by
    rw [Files.absolute, hcurrent]
    decide +kernel
  have hcheck : Files.checkPath "/./md2pdf-000000.html" = .ok () :=
    Files.checkPath_eq_ok_iff.2 (by decide)
  have hhere : fs.resolve "." = .ok [] := by rw [hfs.resolve_here, hcurrent]
  have hshort : IsName "md2pdf-000000.html" := ⟨by decide, by decide, by decide⟩
  have hmake : (makeTemporary "." "md2pdf-" ".html").run.run fs = _ :=
    makeTemporary_of_resolve hfs (by decide) isSegment_htmlStart (by decide) hhere rfl
      (by rwa [hname, habsolute]) (by rwa [hname])
  rw [hname, habsolute, ← h] at hmake
  obtain ⟨_, fs', hstage, -⟩ := run_stageHtml hfs backend html hmake
  exact ⟨fs', hstage⟩

/-- In the empty temporary directory the first number is free. -/
theorem exists_stageHtml (h : temporaryDirectory m.environment = ".") (backend : String) :
    ∃ fs, (stageHtml m backend "").run.run files = (.ok "/./md2pdf-000000.html", fs) :=
  exists_stageHtml_here grounded rfl (by simp [Files.get?, files, List.lookup_cons]) h backend ""

/-- A program in the directory of the search path. -/
theorem programAt_of_current (hcurrent : fs.current = [])
    (hbin : fs.get? ["bin"] = some .directory)
    (hprogram : fs.get? ["bin", "wkhtmltopdf"] = some (.file content true)) :
    fs.ProgramAt "bin/wkhtmltopdf" ["bin", "wkhtmltopdf"] content where
  resolve := Files.resolve_of_two hcurrent (Files.checkPath_eq_ok_iff.2 (by decide))
    (by decide +kernel) ⟨by decide, by decide, by decide⟩ ⟨by decide, by decide, by decide⟩ hbin
    hprogram (by simp)
  entry := hprogram

theorem programAt_bin : files.ProgramAt "bin/wkhtmltopdf" ["bin", "wkhtmltopdf"] [111] :=
  programAt_of_current rfl rfl rfl

theorem programAt_here : files.ProgramAt "wkhtmltopdf" ["wkhtmltopdf"] [109] where
  resolve := Files.resolve_of_segments rfl (Files.checkPath_eq_ok_iff.2 (by decide))
    (show _ = ["wkhtmltopdf"] by decide +kernel)
    (.entry rfl ⟨by decide, by decide, by decide⟩ rfl (by simp) .done)
  entry := rfl

theorem stat_notes : files.stat "./notes" = .ok (.file [] false) := by
  have hresolve : files.resolve "./notes" = .ok ["notes"] :=
    Files.resolve_of_segments rfl (Files.checkPath_eq_ok_iff.2 (by decide))
      (show _ = [".", "notes"] by decide +kernel)
      (.here rfl (.entry rfl ⟨by decide, by decide, by decide⟩ rfl (by simp) .done))
  exact Files.stat_eq_ok_iff.2 ⟨_, hresolve, rfl⟩

/-- The renderer says which program was started. -/
theorem run_render_of_resolve {override : List (String × String)}
    (hdirectory : temporaryDirectory (machine override).environment = ".")
    (hlocate : placed.locate (machine override).environment files = .ok path)
    (hresolve : resolveProgram (machine override).environment files path = .ok (name, [111])) :
    ((placed.render (machine override) "" fun input => [input]).run.run files).1 =
      .error (.failed placed.tool.name "exit status: 1" "o") := by
  obtain ⟨fs, hstage⟩ := exists_stageHtml hdirectory placed.tool.name
  have hnul : ["/./md2pdf-000000.html"].any (·.contains '\x00') = false := by
    simp only [List.any_cons, List.any_nil, Bool.or_false, String.contains_char_eq]
    decide
  have hexcerpt : stderrExcerpt [111] = "o" := by decide +kernel
  rw [run_render_of_started grounded hlocate hstage hresolve hnul, ← hexcerpt]
  rfl

end Sample

/-- A renderer that is found on `PATH` is the one that runs. -/
theorem starting_of_found :
    let m := Sample.machine []
    let placed := Sample.renderer none m
    placed.probe m.environment Sample.files = .installed (some "bin/wkhtmltopdf") ∧
      StartsItself m.environment Sample.files "bin/wkhtmltopdf" ∧
      ((placed.render m "" fun input => [input]).run.run Sample.files).1 =
        .error (.failed "wkhtmltopdf" "exit status: 1" "o") := by
  intro m placed
  have hslash : "bin/wkhtmltopdf".contains '/' = true := by
    rw [String.contains_char_eq]
    decide
  have hsearched : placed.tool.searched m.environment = ["bin", "/usr/local/bin", "/usr/bin"] := by
    decide +kernel
  have hunset (path) (h : m.environment.lookup placed.tool.variableName = some path) :
      path = "" := by cases h
  have hjoin : joinPath "bin" placed.tool.name = "bin/wkhtmltopdf" := by decide +kernel
  have hlocate : placed.tool.locate m.environment Sample.files = .ok "bin/wkhtmltopdf" := by
    rw [locate_eq_ok_iff hunset, hsearched]
    exact ⟨[], "bin", _, rfl, hjoin.symm, ⟨_, _, Sample.programAt_bin⟩, by simp⟩
  have hprobe : placed.probe m.environment Sample.files = .installed (some "bin/wkhtmltopdf") :=
    probe_iff.2 ((locate_iff_of_searched rfl).2 hlocate)
  obtain ⟨-, hsearched, hstarts, -⟩ :=
    starting_of_installed placed m Sample.files "bin/wkhtmltopdf" Sample.grounded hprobe
  refine ⟨hprobe, (hstarts hslash).2 (hsearched rfl).1, ?_⟩
  exact Sample.run_render_of_resolve (by decide +kernel) (probe_iff.1 hprobe)
    (resolveProgram_of_programAt hslash Sample.programAt_bin)

/-- A variable that leads to a program of the working directory starts another one, and a file that
may not be executed is found if its path is given, and cannot be started. -/
theorem starts_another_program :
    let m := Sample.machine [("WKHTMLTOPDF_PATH", "wkhtmltopdf")]
    let placed := Sample.renderer none m
    let given := Sample.renderer (some "./notes") m
    placed.probe m.environment Sample.files = .installed (some "wkhtmltopdf") ∧
      Sample.files.ProgramAt "wkhtmltopdf" ["wkhtmltopdf"] [109] ∧
      ¬ StartsItself m.environment Sample.files "wkhtmltopdf" ∧
      ((placed.render m "" fun input => [input]).run.run Sample.files).1 =
        .error (.failed "wkhtmltopdf" "exit status: 1" "o") ∧
      given.probe m.environment Sample.files = .installed (some "./notes") ∧
      ∃ detail, ((given.render m "" fun input => [input]).run.run Sample.files).1 =
        .error (.spawn "wkhtmltopdf" ("./notes: " ++ detail)) := by
  intro m placed given
  have hexecutable := Files.isExecutable_iff.2 ⟨_, _, Sample.programAt_here⟩
  have hlookup : m.environment.lookup placed.tool.variableName = some "wkhtmltopdf" := by
    decide +kernel
  have hprobe : placed.probe m.environment Sample.files = .installed (some "wkhtmltopdf") := by
    rw [probe_iff, locate_iff_of_searched rfl, locate_of_override hlookup (by decide),
      if_pos hexecutable]
  -- As the name of a program, the same path is searched, and that finds the other file.
  have hother : resolveProgram m.environment Sample.files "wkhtmltopdf" =
      .ok ("bin/wkhtmltopdf", [111]) := by
    have hentries : searchEntries ((m.environment.lookup "PATH").getD defaultSearchPath) =
        ["bin"] := by decide +kernel
    have hpath : pathIn "bin" "wkhtmltopdf" = "bin/wkhtmltopdf" := by decide +kernel
    rw [resolveProgram_of_no_slash (by decide) (by rw [String.contains_char_eq]; decide), hentries,
      searchProgram_eq_ok_iff, ← hpath]
    exact .here (programAt_eq_ok_iff.2 ⟨_, hpath ▸ Sample.programAt_bin⟩)
  have hgiven : given.probe m.environment Sample.files = .installed (some "./notes") := by
    have hfile : Sample.files.isFile "./notes" = true :=
      Files.isFile_iff.2 ⟨_, _, Sample.stat_notes⟩
    simp [PlacedTool.probe, PlacedTool.locate, given, Sample.renderer, RendererProgram.placed,
      hfile]
  refine ⟨hprobe, Sample.programAt_here, ?_, ?_, hgiven, ?_⟩
  · rintro ⟨l, content, found, hpath, -, hresolve⟩
    rw [hother] at hresolve
    cases hresolve
    exact absurd (Sample.programAt_here.unique hpath).2 (by decide)
  · exact Sample.run_render_of_resolve (by decide +kernel) (probe_iff.1 hprobe) hother
  · obtain ⟨fs, hstage⟩ := Sample.exists_stageHtml (m := m) (by decide +kernel) given.tool.name
    refine render_eq_spawn Sample.grounded (probe_iff.1 hgiven) hstage ?_
    intro started hresolve
    have hslash : "./notes".contains '/' = true := by
      rw [String.contains_char_eq]
      decide
    have hnot : Sample.files.isExecutable "./notes" = false := by
      rw [Files.isExecutable, Sample.stat_notes]
    rw [isExecutable_of_resolveProgram hslash hresolve] at hnot
    contradiction

end DocPress.Backend
