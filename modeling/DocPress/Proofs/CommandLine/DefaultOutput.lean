import DocPress.Proofs.Backend.Footprint
import DocPress.Proofs.CommandLine.Outcome
import DocPress.Proofs.Conversion.Prepared
import DocPress.Proofs.Conversion.Script
import DocPress.Proofs.Conversion.Settings
import DocPress.Proofs.Conversion.Source
import DocPress.Proofs.FileSystem.Ending

/-!
# DocPress.Proofs.CommandLine.DefaultOutput

What becomes of the source if the command is told no output:

1. A command that writes no HTML document leaves the files as they were, but for directories above
   the output, and for the document if there is one (`leaves_runInvocation`).
2. The default output stands beside the input (`Files.EndsIn`, `Renamed`).
3. So the source keeps its bytes unless the default output is the source itself
   (`runCommand_source`). That it is, if the name of the input ends in `.pdf`
   (`runCommand_replaces_source`).
-/

namespace DocPress.Conversion

open DocPress.Backend DocPress.FileSystem DocPress.Program DocPress.Text

variable {m : Machine} {config : Config} {input output path text : String} {p p' : Progress}
variable {result : Except Failure ConversionReport} {fs fs' prepared left : Files} {l : Location}

/-! ## Documents -/

/-- A document has come to stand where the path of the output leads, in place of what was there, and
all else is the same. -/
structure AddsDocument (output : String) (l : Location) (fs fs' : Files) : Prop where
  names : fs.Names output l
  not_directory : fs.get? l ≠ some .directory
  off : fs.SameOff l fs'
  document : ∃ content executable, fs'.get? l = some (.file content executable) ∧
    pdfMagic <+: content

/-- What a conversion leaves that writes no HTML document. -/
theorem Course.exists_prepared (h : Course m config input output p result p')
    (hfs : p.files.Grounded) (hfile : ∀ b ∈ config.registry m, b.KeepsToFile)
    (hhtml : config.emitHtml = none) :
    ∃ prepared, p.files.AddsDirectories (Above · output) prepared ∧
      ((∃ e, result = .error e) ∧ prepared.Same p'.files ∨
        (∃ report, result = .ok report) ∧ ∃ l, AddsDocument output l prepared p'.files) := by
  have hprepared (text : String) :
      (config.job output text).prepared p.files = withParents output p.files := by
    have hemit : (config.job output text).emitHtml.run.run p.files = (.ok (), p.files) := by
      simp only [Job.emitHtml, Config.job, hhtml, Action.run_pure]
    rw [Job.prepared_of_emitHtml hemit]
    rfl
  rcases h.files_cases hfs hfile with ⟨rfl, herror, -⟩ | ⟨text, -, ⟨e, herror, -, hsame⟩ |
    ⟨report, hok, c, -, t, l, l', content, executable, hwon⟩⟩
  · exact ⟨_, .refl _ _, .inl ⟨herror, .refl _⟩⟩
  · rw [hprepared] at hsame
    exact ⟨_, withParents_adds hfs output, .inl ⟨⟨e, herror⟩, hsame⟩⟩
  · rw [hprepared] at hwon
    exact ⟨_, withParents_adds hfs output, .inr ⟨⟨report, hok⟩, l', hwon.names_prepared,
      hwon.not_directory_prepared, hwon.off_output, content, executable, hwon.get?_output,
      hwon.magic⟩⟩

/-! ## Sources -/

/-- What is read of a source depends on what its path leads to. -/
theorem readSource_congr (h : fs'.stat path = fs.stat path) :
    readSource fs' path = readSource fs path := by
  have hexists : fs'.pathExists path = fs.pathExists path := by
    rw [Files.pathExists, Files.pathExists, h]
  have hread : fs'.readFile path = fs.readFile path := by rw [Files.readFile, Files.readFile, h]
  rw [readSource, readSource, hexists, hread]

/-- A source that is read is a file. -/
theorem exists_file_of_readSource (h : readSource fs path = .ok text) :
    ∃ source content executable, fs.resolve path = .ok source ∧
      fs.get? source = some (.file content executable) := by
  have hread : ∃ content, fs.readFile path = .ok content := by
    rw [readSource] at h
    split at h
    · cases h
    · cases hcontent : fs.readFile path with
      | ok content => exact ⟨content, rfl⟩
      | error e =>
        simp only [hcontent] at h
        split at h
        · cases h
        · split at h <;> cases h
  obtain ⟨content, hcontent⟩ := hread
  have hfile : ∃ executable, fs.stat path = .ok (.file content executable) := by
    rw [Files.readFile] at hcontent
    cases hstat : fs.stat path with
    | error e => simp [hstat, bind, Except.bind] at hcontent
    | ok entry => cases entry <;> simp_all [bind, Except.bind]
  obtain ⟨executable, hstat⟩ := hfile
  obtain ⟨source, hresolve, hentry⟩ := Files.stat_eq_ok_iff.1 hstat
  exact ⟨source, content, executable, hresolve, hentry⟩

/-- The source is read as before while no directory is lost and nothing on which it depends. -/
theorem readSource_of_looks (hfs : fs.Grounded) (h : readSource fs path = .ok text)
    (hcurrent : fs'.current = fs.current)
    (hdirectory : ∀ l, fs.get? l = some .directory → fs'.get? l = some .directory)
    (hlooks : ∀ w e, fs.Looks path w → fs.get? w = some e → fs'.get? w = some e) :
    readSource fs' path = .ok text := by
  obtain ⟨source, content, executable, hresolve, hfile⟩ := exists_file_of_readSource h
  have hsource := hlooks source _ (Files.looks_of_resolve hfs hresolve (by simp [hfile])) hfile
  have hresolve' := Files.resolve_of_looks hcurrent hdirectory hlooks hresolve
  have hstat : fs'.stat path = fs.stat path := by
    rw [Files.stat_eq_ok_iff.2 ⟨source, hresolve, hfile⟩,
      Files.stat_eq_ok_iff.2 ⟨source, hresolve', hsource⟩]
  rw [readSource_congr hstat, h]

end DocPress.Conversion

namespace DocPress.CommandLine

open DocPress.Backend DocPress.Conversion DocPress.FileSystem DocPress.Page DocPress.Program
open DocPress.Text

variable {m : Machine} {i : Invocation} {fs : Files} {config : Config} {content : Bytes}
variable {executable : Bool}

/-! ## Files after a command -/

/-- The configuration of a command has the renderers of its choice. -/
theorem config_of_ofSettings (h : Config.ofSettings i.settings = .ok config) :
    config.emitHtml = i.emitHtml ∧ config.registry m = Registry.ofChoice m i.choice := by
  obtain ⟨rfl, -⟩ := Config.validate_eq_ok_iff.1 h
  unfold Invocation.settings
  cases i.title <;> cases i.emitHtml <;> cases i.showsProgress <;> exact ⟨rfl, rfl⟩

/-- To tell of a conversion changes no files. -/
theorem files_runConversion (m : Machine) (i : Invocation) (config : Config) (fs : Files) :
    ((runConversion m i config).run fs).2 =
      ((convert m config i.input i.outputPath).run.run ⟨fs, [], []⟩).2.files := by
  simp only [runConversion, StateT.run_bind, StateT.run_get, pure_bind]
  rcases (convert m config i.input i.outputPath).run.run ⟨fs, [], []⟩ with ⟨_ | _, _⟩ <;> rfl

/-- To check what is installed changes no files. -/
theorem runCheck_same (hm : m.KeepsToOutput) (hfs : fs.Grounded) (i : Invocation)
    (config : Config) : fs.Same ((runCheck m i config).run fs).2 := by
  cases hjson : i.json with
  | true =>
    rw [runCheck, hjson]
    exact .refl fs
  | false =>
    rw [runCheck, hjson]
    exact capabilitiesText_same hm hfs _

/-- What a command leaves that writes no HTML document: the files as they were, but for directories
above the output, and for the document if there is one. -/
inductive Leaves (m : Machine) (i : Invocation) (fs left : Files) : Prop
  | unmade {prepared} (hadds : fs.AddsDirectories (Above · i.outputPath) prepared)
      (hnot : ∀ r, ¬ i.Converts m fs r) (hsame : prepared.Same left)
  | made {prepared l} (hadds : fs.AddsDirectories (Above · i.outputPath) prepared)
      (hmade : ∃ r, i.Converts m fs r) (hdocument : AddsDocument i.outputPath l prepared left)

/-- With no HTML document, a command leaves directories above the output at most, and the document
if there is one. -/
theorem leaves_runInvocation (hm : m.KeepsToOutput) (hfs : fs.Grounded)
    (hhtml : i.emitHtml = none) : Leaves m i fs ((runInvocation m i).run fs).2 := by
  -- To state the equation of this definition takes Lean seconds.
  delta runInvocation
  cases hconfig : Config.ofSettings i.settings with
  | error failure =>
    refine .unmade (.refl _ fs) (fun r ⟨config, hok, _⟩ => ?_) (.refl fs)
    rw [hconfig] at hok
    cases hok
  | ok config =>
    obtain ⟨hemit, hregistry⟩ := @config_of_ofSettings m _ _ hconfig
    cases hcheck : i.check with
    | true =>
      refine .unmade (.refl _ fs) (fun r ⟨_, _, hfalse, _⟩ => ?_) (runCheck_same hm hfs i config)
      rw [hcheck] at hfalse
      cases hfalse
    | false =>
      change Leaves m i fs ((runConversion m i config).run fs).2
      rw [files_runConversion]
      have hcourse := course_convert m config i.input i.outputPath ⟨fs, [], []⟩
      obtain ⟨prepared, hadds, ⟨⟨e, herror⟩, hsame⟩ | ⟨⟨report, hok⟩, l, hdocument⟩⟩ :=
        hcourse.exists_prepared hfs (by rw [hregistry]; exact keepsToFile_ofChoice hm i.choice)
          (by rw [hemit, hhtml])
      · refine .unmade hadds (fun r ⟨config', hconfig', _, hr⟩ => ?_) hsame
        rw [hconfig] at hconfig'
        cases hconfig'
        rw [Invocation.conversion, herror] at hr
        cases hr
      · exact .made hadds ⟨report, config, hconfig, hcheck, hok⟩ hdocument

/-! ## The default output -/

variable {front name new : List Char} {d source : Location} {input text : String}
variable {prepared : Files}

/-- The default output of an input that leads to a file: a name beside that of the input. -/
structure DefaultsTo (fs : Files) (input : String) (front name new : List Char) (d : Location) :
    Prop where
  ends : fs.EndsIn input front name d
  output : defaultOutput input = String.ofList (front ++ new)
  renamed : Renamed "pdf".toList name new

/-- A path to a file ends in a name, so the default output is another name beside it. -/
theorem exists_defaultsTo (hfs : fs.Grounded) (h : fs.resolve input = .ok source)
    (hfile : fs.get? source = some (.file content executable)) :
    ∃ front name new d, DefaultsTo fs input front name new d := by
  obtain ⟨front, name, d, hends⟩ := Files.exists_endsIn hfs h (by simp [hfile])
  have hname := hends.isName
  have hhere : name ≠ ['.'] := fun heq => hname.ne_here (by rw [heq])
  have hup : name ≠ ['.', '.'] := fun heq => hname.ne_up (by rw [heq])
  obtain ⟨new, houtput, hrenamed⟩ := withExtension_of_isStart hends.start hends.no_slash
    hends.ne_nil hhere hup "pdf"
  exact ⟨front, name, new, d, hends, by rw [defaultOutput, hends.text, houtput], hrenamed⟩

namespace DefaultsTo

variable (h : DefaultsTo fs input front name new d)

include h

/-- The default output is the input itself if its name has the extension already. -/
theorem eq_iff : defaultOutput input = input ↔
    ∃ stem, stem ≠ ['.'] ∧ HasExtension name stem "pdf".toList := by
  have hup : name ≠ ['.', '.'] := fun heq => h.ends.isName.ne_up (by rw [heq])
  rw [← h.renamed.eq_iff (by decide) hup, h.output]
  conv_lhs => rw [h.ends.text]
  rw [String.ofList_inj, List.append_right_inj]

/-- What the default output names. -/
theorem eq_of_names {l : Location} (hadds : fs.KeepsTree prepared)
    (hnames : prepared.Names (defaultOutput input) l) : l = d ++ [String.ofList new] := by
  have hends : prepared.EndsIn input front name d :=
    { h.ends with names := h.ends.names.keepsTree hadds }
  obtain ⟨hne, hslash⟩ := h.renamed.no_slash h.ends.no_slash (by decide)
  rw [h.output] at hnames
  exact hends.sibling hslash hne hnames

/-- Where no link stands at the end of the input, the default output names the source only if it is
the input itself. -/
theorem source_iff (hresolve : fs.resolve input = .ok source)
    (hlink : ∀ target, fs.get? (d ++ [String.ofList name]) ≠ some (.link target)) :
    d ++ [String.ofList new] = source ↔ defaultOutput input = input := by
  rw [h.ends.eq_of_resolve hresolve hlink, h.output]
  conv_rhs => rw [h.ends.text]
  simp

end DefaultsTo

/-! ## The source -/

section Source

variable {left : Files} (hfs : fs.Grounded) (hsource : readSource fs input = .ok text)
  (hfile : fs.get? source = some (.file content executable))

include hfs hsource hfile

/-- Where no document is made, the source is as it was. -/
theorem source_of_same {P : String → Prop} (hadds : fs.AddsDirectories P prepared)
    (hsame : prepared.Same left) :
    left.get? source = fs.get? source ∧ readSource left input = .ok text := by
  have hkept {w : Location} {e : Entry} (he : fs.get? w = some e) : left.get? w = some e := by
    rw [hsame.entry, hadds.eq_of_some he]
  constructor
  · rw [hkept hfile, hfile]
  · exact readSource_of_looks hfs hsource (hsame.current.trans hadds.current) (fun _ => hkept)
      fun _ _ _ => hkept

/-- Where a document is made, the source is as it was if the document does not stand in its place.
It is read as before if the document stands in the place of nothing on which that depends. -/
theorem source_of_document {P : String → Prop} {output : String} {out : Location}
    (hadds : fs.AddsDirectories P prepared) (hdocument : AddsDocument output out prepared left) :
    (out ≠ source → left.get? source = fs.get? source) ∧
      (¬ fs.Looks input out → readSource left input = .ok text) := by
  have hkept {w : Location} {e : Entry} (hne : w ≠ out) (he : fs.get? w = some e) :
      left.get? w = some e := by
    rw [hdocument.off.entry w hne, hadds.eq_of_some he]
  constructor
  · intro hne
    rw [hkept hne.symm hfile, hfile]
  · intro hnot
    refine readSource_of_looks hfs hsource (hdocument.off.current.trans hadds.current) ?_ ?_
    · intro l hl
      have hne : l ≠ out := fun heq =>
        hdocument.not_directory (heq ▸ hadds.eq_of_some hl)
      exact hkept hne hl
    · intro w e hw he
      have hne : w ≠ out := fun heq => hnot (heq ▸ hw)
      exact hkept hne he

end Source

/-- The default output is the name of the input with another extension, in the directory of the
input. So the source keeps its bytes, unless a document is made and the default output is the very
source: then the document stands in its place. Without a link at the end of the input, that is so if
the name of the input ends in `.pdf` already. -/
theorem runCommand_source {arguments : List String}
    (hread : Invocation.read m.environment arguments = .ok i) (houtput : i.output = none)
    (hhtml : i.emitHtml = none) (hm : m.KeepsToOutput) (hfs : fs.Grounded)
    (hsource : readSource fs i.input = .ok text) :
    ∃ front name new d source content executable,
      -- The input ends in a name, and leads to a file.
      fs.EndsIn i.input front name d ∧ fs.resolve i.input = .ok source ∧
      fs.get? source = some (.file content executable) ∧
      -- The output is another name in the same directory, unless the name has the extension.
      i.outputPath = String.ofList (front ++ new) ∧ Renamed "pdf".toList name new ∧
      (i.outputPath = i.input ↔
        ∃ stem, stem ≠ ['.'] ∧ HasExtension name stem "pdf".toList) ∧
      let out := d ++ [String.ofList new]
      let left := ((runCommand m arguments).run fs).2
      ((∀ target, fs.get? (d ++ [String.ofList name]) ≠ some (.link target)) →
        (out = source ↔ i.outputPath = i.input)) ∧
      -- Without a document the source is as it was, and it is read as before.
      ((∀ r, ¬ i.Converts m fs r) →
        left.get? source = fs.get? source ∧ readSource left i.input = .ok text) ∧
      -- So it is with a document that takes the place of something else.
      (out ≠ source → left.get? source = fs.get? source) ∧
      (¬ fs.Looks i.input out → readSource left i.input = .ok text) ∧
      -- The document stands at the output.
      ∀ r, i.Converts m fs r → new ≠ ['.', '.'] ∧ ∃ content executable,
        left.get? out = some (.file content executable) ∧ pdfMagic <+: content := by
  obtain ⟨source, content, executable, hresolve, hfile⟩ := exists_file_of_readSource hsource
  obtain ⟨front, name, new, d, hdefault⟩ := exists_defaultsTo hfs hresolve hfile
  have hpath : i.outputPath = defaultOutput i.input := by
    rw [Invocation.outputPath, houtput, Option.getD_none]
  refine ⟨front, name, new, d, source, content, executable, hdefault.ends, hresolve, hfile,
    hpath.trans hdefault.output, hdefault.renamed, by rw [hpath]; exact hdefault.eq_iff, ?_⟩
  intro out left
  have hleaves : Leaves m i fs left := by
    simp only [left, runCommand, hread]
    exact leaves_runInvocation hm hfs hhtml
  refine ⟨fun hlink => by rw [hpath]; exact hdefault.source_iff hresolve hlink, ?_⟩
  cases hleaves with
  | unmade hadds hnot hsame =>
    have hkept := source_of_same hfs hsource hfile hadds hsame
    exact ⟨fun _ => hkept, fun _ => hkept.1, fun _ => hkept.2, fun r hr => absurd hr (hnot r)⟩
  | made hadds hmade hdocument =>
    obtain ⟨r, hr⟩ := hmade
    have hnames := hdocument.names
    rw [hpath] at hnames
    obtain rfl := hdefault.eq_of_names hadds.keepsTree hnames
    obtain ⟨hkept, hlooks⟩ := source_of_document hfs hsource hfile hadds hdocument
    refine ⟨fun hnot => absurd hr (hnot r), hkept, hlooks, fun _ _ => ⟨?_, hdocument.document⟩⟩
    rintro rfl
    obtain ⟨_, last, -, -, -, -, hname, hl⟩ := Files.names_iff.1 hnames
    exact hname.ne_up (List.singleton_inj.1 (List.append_inj_right' hl rfl)).symm

namespace Sample

/-- A source of a name, and a renderer. -/
def files (name : String) : Files :=
  ⟨[([name], .file [35, 32, 120] false), (["bin"], .directory),
    (["bin", "wkhtmltopdf"], .file [] true)], []⟩

/-- An invocation that is told its input alone. -/
def invocation (input : String) : Invocation where
  input := input
  output := none
  choice := .auto
  pageSize := .a4
  margin := defaultMargin
  anchors := .auto
  title := none
  emitHtml := none
  outline := false
  check := false
  json := false
  quiet := true

theorem grounded (name : String) : (files name).Grounded where
  segment name h := by cases h
  name name h := by cases h
  directory l h := by
    rw [List.prefix_nil.1 h]
    rfl

/-- The arguments `--quiet` and an input make an invocation. -/
theorem read_invocation {input : String}
    (h : readArguments Backend.Sample.press.environment ["--quiet", input] =
      .ok [(.input, input), (.quiet, "true")]) :
    Invocation.read Backend.Sample.press.environment ["--quiet", input] =
      .ok (invocation input) := by
  have hsize : pageSizeNamed "" = .a4 := by decide +kernel
  have hanchors : anchorsNamed "" = .auto := by decide +kernel
  rw [Invocation.read, h]
  change Except.ok (Invocation.mk input none (choiceNamed "") (pageSizeNamed "") defaultMargin
    (anchorsNamed "") none none false false false true) = _
  rw [hsize, hanchors]
  rfl

theorem readArguments_pdf : readArguments Backend.Sample.press.environment ["--quiet", "b.pdf"] =
    .ok [(.input, "b.pdf"), (.quiet, "true")] := by rfl

theorem readArguments_md : readArguments Backend.Sample.press.environment ["--quiet", "a.md"] =
    .ok [(.input, "a.md"), (.quiet, "true")] := by rfl

/-- Its settings are accepted, and they give the standard layout. -/
theorem ofSettings_invocation (input : String) : ∃ config,
    Config.ofSettings (invocation input).settings = .ok config ∧ config.layout = .standard := by
  let config := (invocation input).settings.foldl Config.apply .standard
  have hfault : config.fault?.isNone = true := by
    -- The input is no part of the settings.
    change ((invocation "").settings.foldl Config.apply .standard).fault?.isNone = true
    decide +kernel
  refine ⟨config, ?_, rfl⟩
  rw [Config.ofSettings, Config.validate, Option.isNone_iff_eq_none.1 hfault]

theorem names_md : (files "a.md").Names "a.md" ["a.md"] :=
  (grounded "a.md").names_here ⟨by decide, by decide⟩ ⟨by decide, by decide, by decide⟩ (by decide)

theorem names_pdf : (files "b.pdf").Names "b.pdf" ["b.pdf"] :=
  (grounded "b.pdf").names_here ⟨by decide, by decide⟩ ⟨by decide, by decide, by decide⟩
    (by decide)

theorem readSource_pdf : readSource (files "b.pdf") "b.pdf" = .ok "# x" :=
  readSource_of_readFile (names_pdf.readFile (by decide +kernel) rfl)
    (show _ = some "# x" by decide +kernel)

theorem readSource_md : readSource (files "a.md") "a.md" = .ok "# x" :=
  readSource_of_readFile (names_md.readFile (by decide +kernel) rfl)
    (show _ = some "# x" by decide +kernel)

/-- To read the source is to look at nothing else. -/
theorem looks_md {w : Location} (h : (files "a.md").Looks "a.md" w) : w = ["a.md"] := by
  have hcurrent : (files "a.md").current = [] := rfl
  have hsegments : segments "a.md" = ["a.md"] := by decide +kernel
  rw [Files.Looks, Files.origin, hsegments, hcurrent, ite_self] at h
  exact h.eq_of_name ⟨by decide, by decide, by decide⟩ fun _ hlink => by cases hlink

/-- The renderer that is tried first. -/
def renderer : Backend := RendererProgram.backend ⟨.wkhtmltopdf, none⟩ Backend.Sample.press

/-- The renderer is found in the directory of `PATH`. -/
theorem isInstalled_renderer : (renderer.probe (files "b.pdf")).isInstalled = true := by
  have hprogram : (files "b.pdf").HasProgram "bin/wkhtmltopdf" :=
    ⟨_, _, Backend.Sample.programAt_of_current rfl rfl rfl⟩
  have hprobe : renderer.probe (files "b.pdf") = .installed (some "bin/wkhtmltopdf") :=
    probe_iff.2 (Backend.Sample.locate_press hprogram)
  rw [hprobe]
  rfl

/-- The renderer leaves its document in the staging file. -/
theorem exists_turn {job : Job} {c : Candidate} (houtput : job.output = "b.pdf")
    (hlayout : job.config.layout = .standard) (hc : c.backend = renderer) :
    ∃ t, job.turn c (files "b.pdf") = .ok t ∧ t.outcome = .rendered ∧
      t.Kept "b.pdf" [".md2pdf-000000.pdf"] (files "b.pdf") ∧
        t.left.get? [".md2pdf-000000.pdf"] = some (.file pdfMagic false) := by
  obtain ⟨hstaged, hstage⟩ := Conversion.Sample.stage_first (grounded "b.pdf") rfl
    (by simp [Files.get?, files, List.lookup_cons])
  let given := (files "b.pdf").set [".md2pdf-000000.pdf"] (.file [] false)
  have hkeeps : (files "b.pdf").KeepsTree given :=
    (Files.SameOff.set _ _ _).keepsTree_of_none hstaged.free
  have hgrounded := (grounded "b.pdf").keepsTree hkeeps
  have hprogram : given.HasProgram "bin/wkhtmltopdf" :=
    ⟨_, _, Backend.Sample.programAt_of_current rfl (hkeeps.directory _ rfl)
      ((Files.get?_set_of_ne _ (by simp) _).trans rfl)⟩
  obtain ⟨left, hrender, hleft⟩ : ∃ left, (renderer.render
      (job.call c "/./.md2pdf-000000.pdf").html "/./.md2pdf-000000.pdf" .standard).run given =
        (.rendered, left) ∧ left.get? [".md2pdf-000000.pdf"] = some (.file pdfMagic false) :=
    Backend.Sample.render_press hgrounded rfl
      ((Files.get?_set_of_ne _ (by simp) _).trans (by simp [Files.get?, files, List.lookup_cons]))
      hprogram (hstaged.names.keepsTree hkeeps) hstaged.slash
      (Files.get?_set_self _ (by simp) _) _
  have hturn : job.turn c (files "b.pdf") =
      .ok ⟨⟨"/./.md2pdf-000000.pdf", "b.pdf"⟩, given, .rendered, left⟩ :=
    Job.turn_eq_ok (by rw [houtput, hstage]) (by rw [hc, hlayout, hrender])
  refine ⟨_, hturn, rfl, ?_, hleft⟩
  obtain ⟨l, hkept⟩ := Turn.kept_of_turn hturn (grounded "b.pdf") (by
    rw [hc]
    exact keepsToFile_backend Backend.Sample.keepsToOutput_press _)
  rw [houtput, withParents_of_names (grounded "b.pdf") names_pdf] at hkept
  obtain rfl := hstaged.names.unique hkept.staged.names
  exact hkept

theorem defaultOutput_pdf : defaultOutput "b.pdf" = "b.pdf" := by decide +kernel

/-- A document is made of the source. -/
theorem exists_converts :
    ∃ r, (invocation "b.pdf").Converts Backend.Sample.press (files "b.pdf") r := by
  obtain ⟨config, hconfig, hlayout⟩ := ofSettings_invocation "b.pdf"
  obtain ⟨hhtml, hregistry⟩ := @config_of_ofSettings Backend.Sample.press _ _ hconfig
  have hbackend : config.HasBackend Backend.Sample.press (files "b.pdf") := by
    refine ⟨renderer, ?_, isInstalled_renderer⟩
    rw [hregistry]
    exact List.mem_cons_self ..
  have hemit : (config.job "b.pdf" "# x").emitHtml.run.run (files "b.pdf") =
      (.ok (), files "b.pdf") := by
    simp only [Job.emitHtml, Config.job, hhtml]
    rfl
  have hchain := (course_convert Backend.Sample.press config "b.pdf" "b.pdf"
    ⟨files "b.pdf", [], []⟩).chain hbackend readSource_pdf hemit
  obtain ⟨rest, hcandidates⟩ : ∃ rest, config.candidates Backend.Sample.press (files "b.pdf") =
      ⟨0, renderer, renderer.probe (files "b.pdf")⟩ :: rest := by
    rw [Config.candidates, hregistry]
    exact ⟨_, rfl⟩
  rw [hcandidates] at hchain
  obtain ⟨t, hturn, hrendered, hkept, hfile⟩ := @exists_turn (config.job "b.pdf" "# x")
    ⟨0, renderer, renderer.probe (files "b.pdf")⟩ rfl hlayout rfl
  have hslash : "b.pdf".endsWith "/" = false := by decide +kernel
  obtain ⟨report, hreport⟩ := hchain.exists_report isInstalled_renderer hturn hkept hrendered hfile
    (List.prefix_refl _) names_pdf hslash (by simp [Files.get?, files])
  refine ⟨report, config, hconfig, rfl, ?_⟩
  rw [Invocation.conversion, Invocation.outputPath]
  change ((convert Backend.Sample.press config "b.pdf" (defaultOutput "b.pdf")).run.run _).1 = _
  rw [defaultOutput_pdf, hreport]

end Sample

/-- A source with another extension is kept. -/
theorem runCommand_source_markdown :
    let fs := Sample.files "a.md"
    let left := ((runCommand Backend.Sample.press ["--quiet", "a.md"]).run fs).2
    readSource fs "a.md" = .ok "# x" ∧ defaultOutput "a.md" = "a.pdf" ∧
      left.get? ["a.md"] = some (.file [35, 32, 120] false) ∧
      readSource left "a.md" = .ok "# x" := by
  intro fs left
  have houtput : defaultOutput "a.md" = "a.pdf" := by decide +kernel
  have hpath : (Sample.invocation "a.md").outputPath = "a.pdf" := houtput
  obtain ⟨front, name, new, d, source, content, executable, hends, hresolve, -, -, -, -, hsource,
      -, hkept, hlooks, -⟩ :=
    runCommand_source (Sample.read_invocation Sample.readArguments_md) rfl rfl
      Backend.Sample.keepsToOutput_press (Sample.grounded "a.md") Sample.readSource_md
  have hname : d ++ [String.ofList name] = ["a.md"] := Sample.names_md.unique hends.names
  have hlink (target) :
      (Sample.files "a.md").get? (d ++ [String.ofList name]) ≠ some (.link target) := by
    rw [hname]
    intro hget
    cases hget
  have hhere : ["a.md"] = source := by rw [← hname, hends.eq_of_resolve hresolve hlink]
  have hne : d ++ [String.ofList new] ≠ source := by
    intro heq
    have hself : "a.pdf" = "a.md" := hpath.symm.trans ((hsource hlink).1 heq)
    exact absurd hself (by decide)
  have hnot : ¬ (Sample.files "a.md").Looks "a.md" (d ++ [String.ofList new]) := fun hlook =>
    hne ((Sample.looks_md hlook).trans hhere)
  have hkeep := hkept hne
  rw [← hhere] at hkeep
  exact ⟨Sample.readSource_md, houtput, hkeep, hlooks hnot⟩

/-- A source that has the extension of a document already is replaced by the document that is made
of it. -/
theorem runCommand_replaces_source :
    let fs := Sample.files "b.pdf"
    let left := ((runCommand Backend.Sample.press ["--quiet", "b.pdf"]).run fs).2
    Invocation.read Backend.Sample.press.environment ["--quiet", "b.pdf"] =
        .ok (Sample.invocation "b.pdf") ∧
      Backend.Sample.press.KeepsToOutput ∧ fs.Grounded ∧ readSource fs "b.pdf" = .ok "# x" ∧
      defaultOutput "b.pdf" = "b.pdf" ∧
      (∃ r, (Sample.invocation "b.pdf").Converts Backend.Sample.press fs r) ∧
      fs.get? ["b.pdf"] = some (.file [35, 32, 120] false) ∧
      left.get? ["b.pdf"] ≠ fs.get? ["b.pdf"] := by
  intro fs left
  have hread := Sample.read_invocation Sample.readArguments_pdf
  refine ⟨hread, Backend.Sample.keepsToOutput_press, Sample.grounded "b.pdf",
    Sample.readSource_pdf, Sample.defaultOutput_pdf, Sample.exists_converts, rfl, ?_⟩
  have hleaves : Leaves Backend.Sample.press (Sample.invocation "b.pdf") fs left := by
    simp only [left, runCommand, hread]
    exact leaves_runInvocation Backend.Sample.keepsToOutput_press (Sample.grounded "b.pdf") rfl
  cases hleaves with
  | unmade _ hnot =>
    obtain ⟨r, hr⟩ := Sample.exists_converts
    exact absurd hr (hnot r)
  | made hadds _ hdocument =>
    have hpath : (Sample.invocation "b.pdf").outputPath = "b.pdf" := Sample.defaultOutput_pdf
    have hnames := hdocument.names
    rw [hpath] at hnames
    obtain rfl := (Sample.names_pdf.keepsTree hadds.keepsTree).unique hnames
    obtain ⟨content, executable, hfile, hmagic⟩ := hdocument.document
    rw [hfile]
    intro heq
    cases heq
    have hlength := hmagic.length_le
    rw [length_pdfMagic] at hlength
    exact absurd hlength (by decide)

end DocPress.CommandLine
