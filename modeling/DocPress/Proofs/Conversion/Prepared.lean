import DocPress.Proofs.Conversion.Confined
import DocPress.Proofs.Conversion.Course

/-!
# DocPress.Proofs.Conversion.Prepared

The files with which the backends have their turns: the HTML document is written, and the directory
of the output is made (`Job.prepared`). They depend on nothing that a backend does.

* `Job.prepares_prepared` — where they differ from the files before;
* `Course.files_cases` — a conversion that fails leaves them, or the files before; one that gives a
  document leaves them with that.
-/

namespace DocPress.Conversion

open DocPress.Backend DocPress.Document DocPress.FileSystem DocPress.Program DocPress.Text

namespace Job

/-- The files when the backends have their turns; if the HTML document cannot be written, the files
that are left then. -/
def prepared (job : Job) (fs : Files) : Files :=
  match job.emitHtml.run.run fs with
  | (.ok (), fs') => withParents job.output fs'
  | (.error _, fs') => fs'

/-- The HTML document of a job. -/
def html (job : Job) : Bytes :=
  encode (documentFor job.body .css job.config)

/-- The HTML document is written to a location. -/
def WritesHtmlAt (job : Job) (fs : Files) (l : Location) : Prop :=
  (job.emitHtml.run.run fs).1 = .ok () ∧ ∃ path, job.config.emitHtml = some path ∧
    (withParents path fs).writeLocation (Files.maxLinks + 1) fs.current path = .ok l

/-- A path is above one of those to which a job writes. -/
def IsParent (job : Job) (path : String) : Prop :=
  Above path job.output ∨ ∃ htmlPath, job.config.emitHtml = some htmlPath ∧ Above path htmlPath

variable {job : Job} {fs fs' fs'' : Files} {l : Location} {failure : Failure}

/-! ## Writing the HTML document -/

/-- If the HTML document cannot be written, at most directories above its path have been made. -/
theorem emitHtml_eq_error (h : job.emitHtml.run.run fs = (.error failure, fs'))
    (hfs : fs.Grounded) :
    (∃ path cause, job.config.emitHtml = some path ∧ failure = .outputWriteFailed path cause) ∧
      fs.AddsDirectories job.IsParent fs' := by
  unfold emitHtml at h
  cases hpath : job.config.emitHtml with
  | none =>
    rw [hpath] at h
    cases h
  | some path =>
    rw [hpath] at h
    obtain ⟨⟨cause, rfl⟩, rfl⟩ := writeHtml_eq_error h hfs
    exact ⟨⟨path, cause, rfl, rfl⟩,
      (withParents_adds hfs path).mono fun _ habove => .inr ⟨path, hpath, habove⟩⟩

/-- The HTML document takes its place, as executable as what was there. -/
theorem emitHtml_eq_ok (h : job.emitHtml.run.run fs = (.ok (), fs')) (hfs : fs.Grounded) :
    (job.config.emitHtml = none ∧ fs' = fs) ∨
    ∃ path l, job.config.emitHtml = some path ∧ job.WritesHtmlAt fs l ∧
      (withParents path fs).get? l ≠ some .directory ∧
      (∀ target, (withParents path fs).get? l ≠ some (.link target)) ∧ l ≠ [] ∧
      fs' = (withParents path fs).set l (.file job.html (fs.executableAt l)) := by
  have hrun := h
  unfold emitHtml at h
  cases hpath : job.config.emitHtml with
  | none =>
    rw [hpath] at h
    cases h
    exact .inl ⟨rfl, rfl⟩
  | some path =>
    rw [hpath] at h
    obtain ⟨l, hl, rfl⟩ := writeHtml_eq_ok h hfs
    obtain ⟨hroot, hdirectory, hlink⟩ := Files.writeLocation_eq_ok hl
    have hadds := withParents_adds hfs path
    rw [hadds.current] at hl
    refine .inr ⟨path, l, rfl, ⟨by rw [hrun], path, hpath, hl⟩, hdirectory, hlink, hroot, ?_⟩
    -- No directory was made where the document is.
    rcases hadds.entry l with heq | ⟨-, hmade, -⟩
    · rw [Files.executableAt, heq]
      rfl
    · exact absurd hmade hdirectory

/-! ## What is prepared -/

/-- What a job may do to the files before any backend has its turn: missing directories are made
above the paths to which it writes, and its HTML document is written. -/
structure Prepares (job : Job) (fs fs' : Files) : Prop where
  keepsTree : fs.KeepsTree fs'
  entry : ∀ l, fs'.get? l = fs.get? l ∨
    (fs.get? l = none ∧ fs'.get? l = some .directory ∧
      ∃ path, job.IsParent path ∧ fs'.Names path l) ∨
    (job.WritesHtmlAt fs l ∧ fs'.get? l = some (.file job.html (fs.executableAt l)))

namespace Prepares

theorem of_adds (h : fs.AddsDirectories job.IsParent fs') : job.Prepares fs fs' where
  keepsTree := h.keepsTree
  entry l := (h.entry l).imp_right .inl

theorem adds (h : job.Prepares fs fs') (h' : fs'.AddsDirectories job.IsParent fs'') :
    job.Prepares fs fs'' where
  keepsTree := h.keepsTree.trans h'.keepsTree
  entry l := by
    rcases h.entry l with heq | ⟨hnone, hdirectory, path, hpath, hnames⟩ | ⟨hwrites, hfile⟩
    · rw [← heq]
      exact (h'.entry l).imp_right .inl
    · exact .inr (.inl ⟨hnone, h'.eq_of_some hdirectory, path, hpath,
        hnames.keepsTree h'.keepsTree⟩)
    · exact .inr (.inr ⟨hwrites, h'.eq_of_some hfile⟩)

end Prepares

/-- The HTML document is written with the directories above it. -/
theorem prepares_emitted (job : Job) (hfs : fs.Grounded) :
    job.Prepares fs (job.emitHtml.run.run fs).2 := by
  rcases hrun : job.emitHtml.run.run fs with ⟨failure | _, fs'⟩
  · exact .of_adds (emitHtml_eq_error hrun hfs).2
  · rcases emitHtml_eq_ok hrun hfs with
      ⟨-, rfl⟩ | ⟨path, l, hpath, hwrites, hdirectory, hlink, hroot, rfl⟩
    · exact .of_adds (.refl _ _)
    · have hadds : fs.AddsDirectories job.IsParent (withParents path fs) :=
        (withParents_adds hfs path).mono fun _ habove => .inr ⟨path, hpath, habove⟩
      have hset := Files.SameOff.set l (.file job.html (fs.executableAt l)) (withParents path fs)
      have hkeeps := hset.keepsTree hdirectory hlink
      refine ⟨hadds.keepsTree.trans hkeeps, fun l' => ?_⟩
      by_cases hl' : l' = l
      · subst hl'
        exact .inr (.inr ⟨hwrites, Files.get?_set_self _ hroot _⟩)
      · rw [hset.entry l' hl']
        rcases hadds.entry l' with heq | ⟨hnone, hmade, path', hpath', hnames⟩
        · exact .inl heq
        · exact .inr (.inl ⟨hnone, hmade, path', hpath', hnames.keepsTree hkeeps⟩)

/-- The output has the directories above it as well. -/
theorem prepares_prepared (job : Job) (hfs : fs.Grounded) : job.Prepares fs (job.prepared fs) := by
  have hemitted := job.prepares_emitted hfs
  unfold prepared
  rcases hrun : job.emitHtml.run.run fs with ⟨failure | _, fs'⟩
  · rwa [hrun] at hemitted
  · rw [hrun] at hemitted
    exact hemitted.adds ((withParents_adds (hfs.keepsTree hemitted.keepsTree) job.output).mono
      fun _ => .inl)

/-- Where the HTML document is written, it is found. -/
theorem WritesHtmlAt.get?_prepared (h : job.WritesHtmlAt fs l) (hfs : fs.Grounded) :
    (job.prepared fs).get? l = some (.file job.html (fs.executableAt l)) := by
  obtain ⟨hok, path, hpath, hl⟩ := h
  have hkeeps := (job.prepares_emitted hfs).keepsTree
  rw [prepared]
  rcases hrun : job.emitHtml.run.run fs with ⟨failure | _, fs'⟩
  · rw [hrun] at hok
    contradiction
  · rw [hrun] at hkeeps
    dsimp only
    apply (withParents_adds (hfs.keepsTree hkeeps) job.output).eq_of_some
    rcases emitHtml_eq_ok hrun hfs with ⟨hnone, -⟩ |
      ⟨path', l', hpath', ⟨-, path'', hpath'', hl'⟩, -, -, hroot, rfl⟩
    · rw [hpath] at hnone
      contradiction
    · rw [hpath] at hpath''
      cases hpath''
      rw [hl] at hl'
      cases hl'
      exact Files.get?_set_self _ hroot _

end Job

/-! ## Courses -/

variable {m : Machine} {config : Config} {input output : String} {p p' : Progress} {job : Job}
variable {result : Except Failure ConversionReport} {fs fs' : Files} {call : Call}
variable {text : String}

/-- A conversion begins: some backend is installed, and the source was read. -/
def Config.Begins (config : Config) (m : Machine) (input text : String) (fs : Files) : Prop :=
  config.HasBackend m fs ∧ readSource fs input = .ok text

/-- The text of a source is one text. -/
theorem Config.Begins.unique {text' : String} (h : config.Begins m input text fs)
    (h' : config.Begins m input text' fs) : text' = text := by
  have hread := h.2.symm.trans h'.2
  cases hread
  rfl

/-- All backends of a registry keep to their files if they are confined. -/
theorem keepsToFile_of_confined (hconfined : ∀ b ∈ config.registry m, b.Confined) :
    ∀ b ∈ config.registry m, b.KeepsToFile := fun b hb => (hconfined b hb).keepsToFile

/-- The candidates are backends of the registry. -/
theorem keepsToFile_candidates (hfile : ∀ b ∈ config.registry m, b.KeepsToFile) (fs : Files) :
    ∀ c ∈ config.candidates m fs, c.backend.KeepsToFile := by
  intro c hc
  obtain ⟨i, b, hb, rfl⟩ := mem_candidates_iff.1 hc
  exact hfile b (List.mem_of_getElem? hb)

/-- The files with which the first backend has its turn. -/
theorem Job.grounded_ready (hfs : p.files.Grounded)
    (hemit : job.emitHtml.run.run p.files = (.ok (), fs)) : (job.ready p fs).files.Grounded := by
  have hkeeps := (job.prepares_emitted hfs).keepsTree
  rw [hemit] at hkeeps
  exact hfs.keepsTree hkeeps

/-- Once the HTML document is written, the directory of the output is made. -/
theorem Job.prepared_of_emitHtml (hemit : job.emitHtml.run.run fs = (.ok (), fs')) :
    job.prepared fs = withParents job.output fs' := by
  rw [Job.prepared, hemit]

/-- What a conversion leaves: the files as they were, if it has not begun; the files that were
prepared, if it fails; and those with the document, if it was won. -/
theorem Course.files_cases (h : Course m config input output p result p')
    (hfs : p.files.Grounded) (hfile : ∀ b ∈ config.registry m, b.KeepsToFile) :
    (p' = p ∧ (∃ e, result = .error e) ∧ ∀ text, ¬ config.Begins m input text p.files) ∨
    ∃ text, config.Begins m input text p.files ∧
      ((∃ e, result = .error e ∧ ((∃ errors, e = .allBackendsExhausted errors) ∨
          ∃ path cause, e = .outputWriteFailed path cause) ∧
        ((config.job output text).prepared p.files).Same p'.files) ∨
      (∃ report, result = .ok report ∧ ∃ c ∈ config.candidates m p.files,
        ∃ t l l' content executable, Won (config.job output text) c t
          ((config.job output text).prepared p.files) l l' content executable report p')) := by
  cases h with
  | missing hmissing => exact .inl ⟨rfl, ⟨_, rfl⟩, fun _ hbegins => hmissing hbegins.1⟩
  | unread hbackend hread =>
    refine .inl ⟨rfl, ⟨_, rfl⟩, fun text hbegins => ?_⟩
    rw [hbegins.2] at hread
    cases hread
  | @unwritten text e fs hbackend hread hemit =>
    obtain ⟨⟨path, cause, -, rfl⟩, -⟩ := Job.emitHtml_eq_error hemit hfs
    refine .inr ⟨text, ⟨hbackend, hread⟩, .inl ⟨_, rfl, .inr ⟨path, cause, rfl⟩, ?_⟩⟩
    rw [Job.prepared, hemit]
    exact .refl _
  | @tried text fs result p' hbackend hread hemit hchain =>
    refine .inr ⟨text, ⟨hbackend, hread⟩, ?_⟩
    have hgrounded := Job.grounded_ready hfs hemit
    have hcandidates := keepsToFile_candidates hfile p.files
    rw [Job.prepared_of_emitHtml hemit]
    cases hresult : result with
    | ok report =>
      exact .inr ⟨report, rfl, hchain.won_of_ok hresult hgrounded hcandidates⟩
    | error e =>
      refine .inl ⟨e, rfl, hchain.failure_of_error hresult, ?_⟩
      -- The directory of the output is not made if every backend is missing; but one is there.
      rcases hchain.files_of_error hresult hgrounded hcandidates with ⟨-, hmissing⟩ | hsame
      · obtain ⟨b, hb, hinstalled⟩ := hbackend
        obtain ⟨i, hi⟩ := List.mem_iff_getElem?.1 hb
        have hnot := hmissing _ (mem_candidates_iff.2 ⟨i, b, hi, rfl⟩)
        rw [hinstalled] at hnot
        contradiction
      · exact hsame

/-- Every file that a backend was called for is a staging file that was not there before. -/
theorem Course.staged_of_mem_calls (h : Course m config input output p result p')
    (hfs : p.files.Grounded) (hconfined : ∀ b ∈ config.registry m, b.Confined)
    (hcalls : p.calls = []) (hcall : call ∈ p'.calls) :
    ∃ text, config.Begins m input text p.files ∧ ∃ staged l, call.target = staged.path ∧
      Staged staged l ((config.job output text).prepared p.files) := by
  have hready (job : Job) (fs : Files) : (job.ready p fs).calls = [] := by
    rw [Job.ready, Progress.calls_told, hcalls]
  cases h with
  | missing | unread =>
    rw [hcalls] at hcall
    contradiction
  | unwritten =>
    rw [hready] at hcall
    contradiction
  | @tried text fs result p' hbackend hread hemit hchain =>
    refine ⟨text, ⟨hbackend, hread⟩, ?_⟩
    rw [Job.prepared_of_emitHtml hemit]
    rcases hchain.staged_of_mem_calls (Job.grounded_ready hfs hemit)
      (keepsToFile_candidates (keepsToFile_of_confined hconfined) p.files) hcall with
      hbefore | hstaged
    · rw [hready] at hbefore
      contradiction
    · exact hstaged

end DocPress.Conversion
