import DocPress.CommandLine.Run
import DocPress.Proofs.Backend.Starting
import DocPress.Proofs.Conversion.Confined

/-!
# DocPress.Proofs.Backend.Footprint

What renderers do to the files, on a machine whose programs keep to what they are called for
(`Machine.KeepsToOutput`):

1. Rendering changes nothing but the file of the output: the document that is staged for a program
   is gone in the end (`keepsToFile_backend`).
2. To tell what is installed changes nothing (`capabilitiesText_same`).
-/

namespace DocPress

open DocPress.Backend DocPress.FileSystem DocPress.Page DocPress.Program DocPress.Text

/-- A machine on which programs keep to what they are called for. One that is asked for its version
changes nothing. A renderer changes nothing but the file of its output: it may write to the file and
it may delete it. -/
structure Program.Machine.KeepsToOutput (m : Machine) : Prop where
  version : ∀ (path : String) (content : Bytes) (fs : Files), fs.Grounded →
    fs.Same ((m.execute path content ["--version"]).run.run fs).2
  render : ∀ (path : String) (content : Bytes) (r : Renderer) (layout : Layout)
    (input output : String) (fs : Files) (l : Location) (old : Bytes) (executable : Bool),
    fs.Grounded → fs.Names output l → fs.get? l = some (.file old executable) →
    fs.ChangesFile l ((m.execute path content (r.arguments layout input output)).run.run fs).2

/-- A program that is started does all that is done; if none is started, nothing is. -/
theorem Program.spawn_files (m : Machine) (program : String) (arguments : List String)
    (fs : Files) : ((m.spawn program arguments).run.run fs).2 = fs ∨ ∃ path content,
      (m.spawn program arguments).run.run fs = (m.execute path content arguments).run.run fs := by
  rw [Machine.spawn]
  split
  · exact .inl (by rw [Action.run_bind, Action.run_throw])
  · cases hresolve : resolveProgram m.environment fs program with
    | error e => exact .inl (by simp only [Action.run_bind, Action.run_ask, hresolve])
    | ok started =>
      exact .inr ⟨started.1, started.2, by simp only [Action.run_bind, Action.run_ask, hresolve]⟩

namespace Backend

variable {m : Machine} {fs fs' : Files} {l w : Location} {input html output program : String}
variable {backend : String} {layout : Layout} {content : Bytes} {executable : Bool}

/-! ## Rendering -/

/-- A document that could not be staged has left nothing behind. -/
theorem files_of_stageHtml_error {e : BackendError} (hfs : fs.Grounded)
    (h : (stageHtml m backend html).run.run fs = (.error e, fs')) : fs' = fs := by
  rcases hmake : (makeTemporary (temporaryDirectory m.environment) "md2pdf-" ".html").run.run
    fs with ⟨e' | path, fs₁⟩
  · obtain rfl := makeTemporary_eq_error hmake
    simp only [stageHtml, Action.run_mapError, Action.run_bind, hmake] at h
    cases h
    rfl
  · obtain ⟨l, fs₂, hstage, -⟩ := run_stageHtml hfs backend html hmake
    rw [hstage] at h
    cases h

theorem changesFile_refl (he : fs.get? l = some (.file content executable)) :
    fs.ChangesFile l fs :=
  ⟨.refl l fs, .inr ⟨content, executable, he⟩⟩

/-- A file that gets another content is all that changes. -/
theorem changesFile_set (hl : l ≠ []) (content : Bytes) (executable : Bool) :
    fs.ChangesFile l (fs.set l (.file content executable)) :=
  ⟨.set l _ fs, .inr ⟨content, executable, Files.get?_set_self fs hl _⟩⟩

/-- A change of a file between the staging of a document and its end is all that is left. -/
theorem changesFile_discarded {ran : Files} (hadds : fs.AddsFile w fs') (hnames : fs'.Names input w)
    (hslash : input.endsWith "/" = false) (he : fs.get? l = some (.file content executable))
    (h : fs'.ChangesFile l ran) :
    let left := ((discardTemporary input : Action BackendError Unit).run.run ran).2
    fs.ChangesFile l left ∧ left.get? l = ran.get? l := by
  obtain ⟨hoff, hentry⟩ := h
  have hne : l ≠ w := fun heq => by
    rw [heq, hadds.free] at he
    cases he
  obtain ⟨staged, hfile⟩ := hadds.file
  have hran : ran.get? w = some (.file staged false) := by rw [hoff.entry w hne.symm, hfile]
  have hkeeps := hoff.keepsTree_of_file (hadds.get?_of_some he)
  obtain ⟨hdiscarded, hnone⟩ := discardTemporary_off (ε := BackendError) (hnames.keepsTree hkeeps)
    hslash (.inr ⟨staged, false, hran⟩)
  have hleft := hdiscarded.entry l hne
  refine ⟨⟨⟨hdiscarded.current.trans (hoff.current.trans hadds.off.current), ?_⟩, ?_⟩, hleft⟩
  · intro l' hl'
    by_cases hw : l' = w
    · rw [hw, hnone, hadds.free]
    · rw [hdiscarded.entry l' hw, hoff.entry l' hl', hadds.off.entry l' hw]
  · rwa [hleft]

/-- A program that renders changes the file of the output alone. -/
theorem changesFile_renderWith (hm : m.KeepsToOutput) (hfs : fs.Grounded)
    (hnames : fs.Names output l) (he : fs.get? l = some (.file content executable))
    (r : Renderer) (layout : Layout) (backend program html : String) :
    fs.ChangesFile l ((renderWith m backend program html
      (r.arguments layout · output)).run.run fs).2 := by
  rcases hstage : (stageHtml m backend html).run.run fs with ⟨e | input, fs'⟩
  · obtain rfl := files_of_stageHtml_error hfs hstage
    rw [renderWith, Action.run_bind, hstage]
    exact changesFile_refl he
  · obtain ⟨w, hadds, hinput, hslash⟩ := stageHtml_eq_ok hfs hstage
    have hkeeps := hadds.off.keepsTree_of_none hadds.free
    have he' := hadds.get?_of_some he
    rw [run_renderWith hstage]
    refine (changesFile_discarded hadds hinput hslash he ?_).1
    rcases spawn_files m program (r.arguments layout input output) fs' with
      hnothing | ⟨path, started, hran⟩
    · rw [hnothing]
      exact changesFile_refl he'
    · rw [hran]
      exact hm.render path started r layout input output fs' l content executable
        (hfs.keepsTree hkeeps) (hnames.keepsTree hkeeps) he'

/-- The outcome of a renderer is whether its program has failed. -/
theorem run_backend_render (p : RendererProgram) (m : Machine) (html output : String)
    (layout : Layout) (fs : Files) :
    ((p.backend m).render html output layout).run fs =
      let ran := (p.render m html output layout).run.run fs
      (match ran.1 with
        | .ok () => .rendered
        | .error e => .failed e, ran.2) := by
  simp only [RendererProgram.backend, StateT.run_bind]
  rcases (p.render m html output layout).run.run fs with ⟨_ | _, _⟩ <;> rfl

/-- A renderer keeps to its file if its program does. -/
theorem keepsToFile_backend (hm : m.KeepsToOutput) (p : RendererProgram) :
    (p.backend m).KeepsToFile := by
  intro html output layout fs l content executable hfs hnames he
  rw [run_backend_render, RendererProgram.render]
  dsimp only
  cases hlocate : (p.placed m.environment).locate m.environment fs with
  | error reason =>
    simp only [PlacedTool.render, Action.run_bind, Action.run_mapError, Action.run_ask, hlocate]
    exact changesFile_refl he
  | ok path =>
    rw [run_render hlocate]
    exact changesFile_renderWith hm hfs hnames he p.renderer layout _ path html

/-- All backends that can be chosen keep to their files. -/
theorem keepsToFile_ofChoice (hm : m.KeepsToOutput) (choice : BackendChoice) :
    ∀ b ∈ Registry.ofChoice m choice, b.KeepsToFile := by
  intro b hb
  obtain ⟨renderer, -, rfl⟩ := List.mem_map.1 hb
  exact keepsToFile_backend hm _

namespace Sample

/-- A machine on which every renderer writes the same document. -/
def press : Machine :=
  ⟨[("PATH", "bin"), ("TMPDIR", ".")], fun _ _ arguments => do
    if arguments ≠ ["--version"] then
      Action.update (Files.writeFile (arguments.getLastD "") Conversion.pdfMagic)
    return ⟨.exited 0, [], []⟩⟩

/-- The press writes its document to the path of the output, which is the last argument of every
renderer. -/
theorem run_press (path : String) (program : Bytes) (r : Renderer) (layout : Layout)
    (input output : String) (fs : Files) :
    (press.execute path program (r.arguments layout input output)).run.run fs =
      match fs.writeFile output Conversion.pdfMagic with
      | .ok fs' => (.ok ⟨.exited 0, [], []⟩, fs')
      | .error e => (.error e, fs) := by
  have hrenders : r.arguments layout input output ≠ ["--version"] := by
    cases r <;> simp [Renderer.arguments]
  have hlast : (r.arguments layout input output).getLastD "" = output := by cases r <;> rfl
  simp only [press, hrenders, hlast, ne_eq, not_false_eq_true, if_true, Action.run_bind,
    Action.run_update]
  cases Files.writeFile output Conversion.pdfMagic fs <;> rfl

/-- The press changes the file of the output alone. -/
theorem keepsToOutput_press : press.KeepsToOutput where
  version path content fs _ := .refl fs
  render path program r layout input output fs l content executable _ hnames he := by
    rw [run_press]
    cases hwrite : fs.writeFile output Conversion.pdfMagic with
    | error e => exact changesFile_refl he
    | ok fs' =>
      obtain ⟨l', hl', rfl⟩ := Files.writeFile_eq_ok hwrite
      obtain rfl := Files.eq_of_writeLocation hl' hnames he
      exact changesFile_set hnames.ne_root _ _

/-- The program is found on `PATH`. -/
theorem locate_press (h : fs.HasProgram "bin/wkhtmltopdf") :
    (RendererProgram.placed ⟨.wkhtmltopdf, none⟩ press.environment).locate press.environment fs =
      .ok "bin/wkhtmltopdf" := by
  have hsearched : (Renderer.wkhtmltopdf.tool press.environment).searched press.environment =
      ["bin", "/usr/local/bin", "/usr/bin"] := by decide +kernel
  have hjoin : joinPath "bin" (Renderer.wkhtmltopdf.tool press.environment).name =
      "bin/wkhtmltopdf" := by decide +kernel
  have hunset (path) (h : press.environment.lookup Renderer.wkhtmltopdf.variableName = some path) :
      path = "" := by cases h
  refine (locate_iff_of_searched rfl).2 ((Tool.locate_eq_ok_iff hunset).2 ?_)
  change Tool.FirstIn fs _ ((Renderer.wkhtmltopdf.tool press.environment).searched _) _
  rw [hsearched]
  exact ⟨[], "bin", _, rfl, hjoin.symm, h, by simp⟩

/-- A path that names anything has no character of code 0. -/
theorem no_nul_of_names {path : String} (h : fs.Names path l) : path.contains '\x00' = false := by
  obtain ⟨_, _, hcheck, -⟩ := Files.names_iff.1 h
  obtain ⟨-, hnul, -⟩ := Files.checkPath_eq_ok_iff.1 hcheck
  rw [String.contains_char_eq]
  simpa using hnul

/-- Where the program is found, the document is written. -/
theorem render_press (hfs : fs.Grounded) (hcurrent : fs.current = [])
    (hfree : fs.get? ["md2pdf-000000.html"] = none) (hprogram : fs.HasProgram "bin/wkhtmltopdf")
    (hnames : fs.Names output l) (hslash : output.endsWith "/" = false)
    (he : fs.get? l = some (.file content executable)) (html : String) :
    ∃ left, ((RendererProgram.backend ⟨.wkhtmltopdf, none⟩ press).render html output
        .standard).run fs = (.rendered, left) ∧
      left.get? l = some (.file Conversion.pdfMagic executable) := by
  have hbin : "bin/wkhtmltopdf".contains '/' = true := by
    rw [String.contains_char_eq]
    decide
  have hdirectory : temporaryDirectory press.environment = "." := by decide +kernel
  obtain ⟨fs', hstage⟩ := exists_stageHtml_here hfs hcurrent hfree hdirectory "wkhtmltopdf" html
  obtain ⟨w, hadds, hinput, hinputSlash⟩ := stageHtml_eq_ok hfs hstage
  have he' := hadds.get?_of_some he
  have hnames' := hnames.keepsTree (hadds.off.keepsTree_of_none hadds.free)
  have hnul : (Renderer.wkhtmltopdf.arguments .standard "/./md2pdf-000000.html" output).any
      (·.contains '\x00') = false := by
    have houtput := no_nul_of_names hnames
    rw [String.contains_char_eq] at houtput
    simp only [Renderer.arguments, List.any_cons, List.any_nil, String.contains_char_eq, houtput]
    decide +kernel
  obtain ⟨_, started, hstarted⟩ := hprogram
  have hrun : (((RendererProgram.mk .wkhtmltopdf none).placed press.environment).render press html
      (Renderer.wkhtmltopdf.arguments .standard · output)).run.run fs = _ :=
    run_render_of_started hfs (locate_press ⟨_, _, hstarted⟩) hstage
      (resolveProgram_of_programAt hbin hstarted) hnul
  rw [run_press, Files.writeFile_of_file hnames' hslash he'] at hrun
  obtain ⟨-, hleft⟩ := changesFile_discarded hadds hinput hinputSlash he
    (changesFile_set hnames'.ne_root Conversion.pdfMagic executable)
  refine ⟨_, (run_backend_render ⟨.wkhtmltopdf, none⟩ press html output .standard fs).trans
    (by rw [RendererProgram.render, hrun]; rfl), ?_⟩
  rw [hleft, Files.get?_set_self fs' hnames.ne_root]

end Sample

end Backend

namespace CommandLine

variable {m : Machine} {fs : Files}

/-! ## Telling what is installed -/

/-- A program that is asked for its version is run, or is not. -/
theorem version_same (hm : m.KeepsToOutput) (hfs : fs.Grounded) (path : String) :
    fs.Same ((Tool.version m path).run.run fs).2 := by
  have hspawn : fs.Same ((m.spawn path ["--version"]).run.run fs).2 := by
    rcases spawn_files m path ["--version"] fs with hnothing | ⟨found, content, hran⟩
    · rw [hnothing]
      exact .refl fs
    · rw [hran]
      exact hm.version found content fs hfs
  -- What becomes of the version has no part in the files.
  have hfiles : ((Tool.version m path).run.run fs).2 =
      ((m.spawn path ["--version"]).run.run fs).2 := by
    simp only [Tool.version, Action.run_bind, Action.run_mapError]
    rcases (m.spawn path ["--version"]).run.run fs with ⟨e | finished, fs'⟩
    · rfl
    · dsimp only
      split
      · simp only [Action.run_bind, Action.run_throw]
      · split <;> rfl
  rwa [hfiles]

/-- To ask a program for its version changes nothing. -/
theorem statusLine_same (hm : m.KeepsToOutput) (hfs : fs.Grounded) (status : CapabilityStatus) :
    fs.Same ((statusLine m status).run fs).2 := by
  simp only [statusLine]
  cases status.location with
  | none =>
    cases status.detail with
    | none => exact .refl fs
    | some detail => exact .refl fs
  | some location =>
    have hversion := version_same hm hfs location
    simp only [StateT.run_bind]
    rcases hrun : (Tool.version m location).run.run fs with ⟨_ | _, fs'⟩ <;>
      rwa [hrun] at hversion

/-- The lines on capabilities, one after another. -/
theorem statusLines_same (hm : m.KeepsToOutput) (hfs : fs.Grounded)
    (statuses : List CapabilityStatus) :
    fs.Same ((statuses.mapM (statusLine m)).run fs).2 := by
  induction statuses generalizing fs with
  | nil => exact .refl fs
  | cons status statuses ih =>
    have hfirst := statusLine_same hm hfs status
    have hrest := ih (hfs.keepsTree hfirst.keepsTree)
    rw [List.mapM_cons]
    exact hfirst.trans hrest

/-- To ask all of them for their versions changes nothing. -/
theorem capabilitiesText_same (hm : m.KeepsToOutput) (hfs : fs.Grounded) (r : CapabilityReport) :
    fs.Same ((capabilitiesText m r).run fs).2 :=
  statusLines_same hm hfs (r.markdown :: r.backends)

end CommandLine

end DocPress
