import DocPress.Proofs.Conversion.Chain

/-!
# DocPress.Proofs.Conversion.Confined

Turns of backends that keep to their place: all that such a backend does is done to the file at the
path that it is given (`Backend.Confined`), or at least so where the working directory stands where
it seems to (`Backend.KeepsToFile`). Then

* a turn that is lost leaves the files as they were, but with the directory of the output
  (`Turn.Kept.same_discarded`);
* a turn that is won leaves one file more, and that is put in the place of the output
  (`Won`);
* the turns before it make no difference (`Chain.files_of_error`, `Chain.won_of_ok`).
-/

namespace DocPress

open DocPress.Backend DocPress.FileSystem DocPress.Page DocPress.Text DocPress.Conversion

/-- A backend that changes nothing but the file at the path that it is given: it may write to the
file and it may delete it. -/
def Backend.Confined (b : Backend) : Prop :=
  ∀ (html path : String) (layout : Layout) (fs : Files) (l : Location) (content : Bytes)
    (executable : Bool), fs.Names path l → fs.get? l = some (.file content executable) →
    let left := ((b.render html path layout).run fs).2
    fs.SameOff l left ∧
      (left.get? l = none ∨ ∃ content executable, left.get? l = some (.file content executable))

/-- All that has changed is a file: it may hold something else, or it may be gone. -/
structure FileSystem.Files.ChangesFile (fs : Files) (l : Location) (fs' : Files) : Prop where
  off : fs.SameOff l fs'
  entry : fs'.get? l = none ∨ ∃ content executable, fs'.get? l = some (.file content executable)

/-- A backend that changes nothing but the file at the path that it is given, where the working
directory stands where its names say. Nowhere else would a program find its own files again under
their absolute paths. -/
def Backend.KeepsToFile (b : Backend) : Prop :=
  ∀ (html path : String) (layout : Layout) (fs : Files) (l : Location) (content : Bytes)
    (executable : Bool), fs.Grounded → fs.Names path l →
    fs.get? l = some (.file content executable) →
    fs.ChangesFile l ((b.render html path layout).run fs).2

/-- A backend that keeps to its file everywhere keeps to it where the working directory stands where
it seems to. -/
theorem Backend.Confined.keepsToFile {b : Backend} (h : b.Confined) : b.KeepsToFile := by
  intro html path layout fs l content executable _ hnames he
  obtain ⟨hoff, hentry⟩ := h html path layout fs l content executable hnames he
  exact ⟨hoff, hentry⟩

namespace Conversion

/-! ## Turns -/

/-- A turn in which a backend has kept to the staging file, which stood alone at its location. -/
structure Turn.Kept (t : Turn) (output : String) (l : Location) (prepared : Files) : Prop where
  staged : Staged t.staged l prepared
  destination : t.staged.destination = output
  directory : prepared.isDirectory (directoryOf output) = true
  given : prepared.SameOff l t.given
  given_entry : t.given.get? l = some (.file [] false)
  off : prepared.SameOff l t.left
  entry : t.left.get? l = none ∨
    ∃ content executable, t.left.get? l = some (.file content executable)

variable {job : Job} {c : Candidate} {fs fs' prepared : Files} {t : Turn} {l : Location}
variable {output : String} {failure : Failure} {size : Nat}

/-- A turn that cannot begin has no staging file. -/
theorem Job.stage_of_turn_error (h : job.turn c fs = .error (failure, fs')) :
    (stage job.output).run.run fs = (.error failure, fs') := by
  rw [Job.turn] at h
  rcases hstage : (stage job.output).run.run fs with ⟨failure | staged, given⟩ <;>
    rw [hstage] at h <;> cases h
  rfl

/-- A turn is what the candidate makes of the staging file that it was given. -/
theorem Job.turnWith_of_turn (h : job.turn c fs = .ok t) :
    job.turnWith c t.staged t.given = t := by
  rw [Job.turn] at h
  rcases hstage : (stage job.output).run.run fs with ⟨failure | staged, given⟩ <;>
    rw [hstage] at h <;> cases h
  rfl

/-- A turn is to be given a staging file and to render into it. -/
theorem Job.turn_eq_ok {staged : StagedOutput} {given left : Files} {outcome : RenderOutcome}
    (hstage : (stage job.output).run.run fs = (.ok staged, given))
    (hrender : (c.backend.render (job.call c staged.path).html staged.path job.config.layout).run
      given = (outcome, left)) : job.turn c fs = .ok ⟨staged, given, outcome, left⟩ := by
  have hturn : job.turnWith c staged given = ⟨staged, given, outcome, left⟩ := by
    simp only [Job.turnWith, Job.call] at hrender ⊢
    rw [hrender]
  rw [Job.turn, hstage]
  simp only [hturn]

/-- A backend that keeps to its file has one that stands alone. -/
theorem Turn.kept_of_turn (hturn : job.turn c fs = .ok t) (hfs : fs.Grounded)
    (hfile : c.backend.KeepsToFile) :
    ∃ l, t.Kept job.output l (withParents job.output fs) := by
  rw [Job.turn] at hturn
  rcases hstage : (stage job.output).run.run fs with ⟨failure | staged, given⟩
  · rw [hstage] at hturn
    cases hturn
  · rw [hstage] at hturn
    cases hturn
    obtain ⟨l, hstaged, -, hdestination, hdirectory, rfl⟩ := stage_eq_ok hstage hfs
    have hset := Files.SameOff.set l (.file [] false) (withParents job.output fs)
    have hkeeps := hset.keepsTree_of_none hstaged.free
    have hgrounded := hfs.keepsTree ((withParents_adds hfs job.output).keepsTree.trans hkeeps)
    obtain ⟨hoff, hentry⟩ := hfile (job.call c staged.path).html (job.call c staged.path).target
      (job.call c staged.path).layout _ l [] false hgrounded (hstaged.names.keepsTree hkeeps)
      (Files.get?_set_self _ hstaged.names.ne_root _)
    exact ⟨l, hstaged, hdestination, hdirectory, hset,
      Files.get?_set_self _ hstaged.names.ne_root _, hset.trans hoff, hentry⟩

namespace Turn.Kept

theorem of_same (h : t.Kept output l prepared) (hsame : fs.Same prepared) : t.Kept output l fs where
  staged := h.staged.of_same hsame.symm
  destination := h.destination
  directory := Files.isDirectory_keepsTree h.directory hsame.symm.keepsTree
  given := (hsame.off l).trans h.given
  given_entry := h.given_entry
  off := (hsame.off l).trans h.off
  entry := h.entry

theorem keepsTree (h : t.Kept output l prepared) : prepared.KeepsTree t.left :=
  h.off.keepsTree_of_none h.staged.free

theorem names (h : t.Kept output l prepared) : t.left.Names t.staged.path l :=
  h.staged.names.keepsTree h.keepsTree

/-- Once the staging file is given up, all is as it was. -/
theorem same_discarded (h : t.Kept output l prepared) : prepared.Same t.discarded := by
  obtain ⟨hoff, hnone⟩ := discardTemporary_off (ε := Failure) h.names h.staged.slash h.entry
  exact (h.off.trans hoff).same (hnone.trans h.staged.free.symm)

/-- A turn has brought a PDF file exactly if that stands at the staging location. -/
theorem file_of_verdict (h : t.Kept output l prepared) (hverdict : t.verdict backend = .ok size) :
    t.outcome = .rendered ∧ ∃ content executable,
      t.left.get? l = some (.file content executable) ∧ pdfMagic <+: content ∧
        size = content.length := by
  unfold Turn.verdict at hverdict
  split at hverdict
  · cases hverdict
  · cases hverdict
  · next hrendered =>
    obtain ⟨content, executable, hstat, hmagic, hsize⟩ := validatePdf_eq_ok_iff.1 hverdict
    refine ⟨hrendered, ?_⟩
    rcases h.entry with hnone | ⟨content', executable', hfile⟩
    · exact absurd hstat (h.names.stat_ne_ok h.staged.slash hnone)
    · rw [h.names.stat_file h.staged.slash hfile] at hstat
      cases hstat
      exact ⟨content, executable, hfile, hmagic, hsize⟩

/-- Only the directory of the output had to be made, and it need not be made again. -/
theorem withParents_discarded (h : t.Kept output l prepared) :
    withParents output t.discarded = t.discarded :=
  withParents_of_isDirectory (Files.isDirectory_keepsTree h.directory h.same_discarded.keepsTree)

end Turn.Kept

/-! ## Chains -/

variable {cs : List Candidate} {attempts : List AttemptRecord} {p p' next : Progress}
variable {record : AttemptRecord} {result : Except Failure ConversionReport}
variable {report : ConversionReport} {e : Failure} {call : Call}

/-- What a candidate that loses does to the files: nothing, or the directory of the output is made,
and a file that was called for is gone again. -/
theorem Loses.files_eq_or_same (h : Loses job c p record next) (hfs : p.files.Grounded)
    (hfile : c.backend.KeepsToFile) :
    (c.availability.isInstalled = false ∧ next.files = p.files ∧ next.calls = p.calls) ∨
    ((withParents job.output p.files).Same next.files ∧
      withParents job.output next.files = next.files ∧
      ∃ staged l, Staged staged l (withParents job.output p.files) ∧
        next.calls = p.calls ++ [job.call c staged.path]) := by
  cases h with
  | skipped hmissing =>
    exact .inl ⟨by rw [hmissing]; rfl, Progress.files_told .., Progress.calls_told ..⟩
  | failed hinstalled hturn =>
    obtain ⟨l, hkept⟩ := Turn.kept_of_turn hturn hfs hfile
    simp only [Progress.files_told, Progress.calls_told, Job.called]
    exact .inr ⟨hkept.same_discarded, hkept.withParents_discarded, _, l, hkept.staged, rfl⟩

/-- The next candidate finds the same files once the directory of the output is made. -/
theorem Loses.keeps (h : Loses job c p record next) (hfs : p.files.Grounded)
    (hfile : c.backend.KeepsToFile) :
    (withParents job.output p.files).Same (withParents job.output next.files) ∧
      next.files.Grounded := by
  rcases h.files_eq_or_same hfs hfile with ⟨-, hfiles, -⟩ | ⟨hsame, hparents, -⟩
  · rw [hfiles]
    exact ⟨.refl _, hfs⟩
  · rw [hparents]
    exact ⟨hsame, hfs.keepsTree ((withParents_adds hfs job.output).keepsTree.trans hsame.keepsTree)⟩

/-- A run that fails leaves what was there when the turns began, and the directory of the output if
there was a turn. The induction is on the chain; what a turn leaves is what the next one finds. -/
theorem Chain.files_of_error (h : Chain job cs attempts p result p') (herror : result = .error e)
    (hfs : p.files.Grounded) (hfile : ∀ c ∈ cs, c.backend.KeepsToFile) :
    (p'.files = p.files ∧ ∀ c ∈ cs, c.availability.isInstalled = false) ∨
      (withParents job.output p.files).Same p'.files := by
  induction h with
  | exhausted => exact .inl ⟨rfl, by simp⟩
  | lost hloses hrest ih =>
    obtain ⟨hc, hrestFile⟩ := List.forall_mem_cons.1 hfile
    obtain ⟨hkeeps, hgrounded⟩ := hloses.keeps hfs hc
    rcases ih herror hgrounded hrestFile with ⟨hfiles, hmissing⟩ | hsame
    · rcases hloses.files_eq_or_same hfs hc with ⟨hnot, hnext, -⟩ | ⟨hnext, -⟩
      · exact .inl ⟨hfiles.trans hnext, List.forall_mem_cons.2 ⟨hnot, hmissing⟩⟩
      · exact .inr (hfiles ▸ hnext)
    · exact .inr (hkeeps.trans hsame)
  | unstaged hinstalled hturn =>
    obtain ⟨-, rfl⟩ := stage_eq_error (Job.stage_of_turn_error hturn)
    exact .inr (.refl _)
  | unpersisted hinstalled hturn hverdict hpersist =>
    obtain ⟨l, hkept⟩ :=
      Turn.kept_of_turn hturn hfs (hfile _ (List.mem_cons_self ..))
    obtain ⟨-, rfl⟩ := persist_eq_error hpersist
    exact .inr hkept.same_discarded
  | succeeded => cases herror

/-- The failure of a run without a document says that all backends have failed, or that the output
could not be written. -/
theorem Chain.failure_of_error (h : Chain job cs attempts p result p')
    (herror : result = .error e) : (∃ errors, e = .allBackendsExhausted errors) ∨
      ∃ path cause, e = .outputWriteFailed path cause := by
  induction h with
  | exhausted =>
    cases herror
    exact .inl ⟨_, rfl⟩
  | lost hloses hrest ih => exact ih herror
  | unstaged hinstalled hturn =>
    cases herror
    obtain ⟨⟨cause, rfl⟩, -⟩ := stage_eq_error (Job.stage_of_turn_error hturn)
    exact .inr ⟨_, cause, rfl⟩
  | unpersisted hinstalled hturn hverdict hpersist =>
    cases herror
    obtain ⟨⟨cause, rfl⟩, -⟩ := persist_eq_error hpersist
    exact .inr ⟨_, cause, rfl⟩
  | succeeded => cases herror

/-- A candidate has won a turn that began with an empty staging file beside the files that were
prepared, and what it left there stands at the output. -/
structure Won (job : Job) (c : Candidate) (t : Turn) (prepared : Files) (l l' : Location)
    (content : Bytes) (executable : Bool) (report : ConversionReport) (p' : Progress) : Prop where
  kept : t.Kept job.output l prepared
  turn : job.turnWith c t.staged t.given = t
  rendered : t.outcome = .rendered
  file : t.left.get? l = some (.file content executable)
  magic : pdfMagic <+: content
  names : t.left.Names job.output l'
  slash : job.output.endsWith "/" = false
  not_directory : t.left.get? l' ≠ some .directory
  files : p'.files = (t.left.erase l).set l' (.file content executable)
  call : p'.calls.getLast? = some (job.call c t.staged.path)
  backend : report.backend = c.backend.name
  output : report.output = job.output
  size : report.pdfBytes = content.length

namespace Won

variable {content : Bytes} {executable : Bool} {l' : Location}

/-- The output is named as it was before the turn. -/
theorem names_prepared (h : Won job c t prepared l l' content executable report p') :
    prepared.Names job.output l' :=
  h.names.keepsTree (h.kept.off.symm.keepsTree_of_file h.file)

/-- The document stands at the output. -/
theorem get?_output (h : Won job c t prepared l l' content executable report p') :
    p'.files.get? l' = some (.file content executable) := by
  rw [h.files, Files.get?_set_self _ h.names.ne_root]

/-- Everything else is as it was before the turn. -/
theorem off_output (h : Won job c t prepared l l' content executable report p') :
    prepared.SameOff l' p'.files where
  current := by rw [h.files, Files.current_set, Files.current_erase, h.kept.off.current]
  entry l'' hl'' := by
    rw [h.files, Files.get?_set_of_ne _ hl'']
    by_cases hl : l'' = l
    · rw [hl, Files.get?_erase_self _ h.kept.staged.names.ne_root, h.kept.staged.free]
    · rw [Files.get?_erase_of_ne _ hl, h.kept.off.entry l'' hl]

/-- No directory has made way for the document. -/
theorem not_directory_prepared (h : Won job c t prepared l l' content executable report p') :
    prepared.get? l' ≠ some .directory := by
  by_cases hl : l' = l
  · simp [hl, h.kept.staged.free]
  · rw [← h.kept.off.entry l' hl]
    exact h.not_directory

/-- The document is read under the path of the output, unless a link that stood there was on the way
to it. -/
theorem readFile_output (h : Won job c t prepared l l' content executable report p') :
    p'.files.readFile job.output = .ok content ∨
      (∃ target, prepared.get? l' = some (.link target)) ∧
        ¬ (prepared.erase l').Names job.output l' := by
  have hne := h.names.ne_root
  by_cases hnames : (prepared.erase l').Names job.output l'
  · have hnone := prepared.get?_erase_self hne
    have hoff := (Files.SameOff.erase l' prepared).symm.trans h.off_output
    have hfile := (hnames.keepsTree (hoff.keepsTree_of_none hnone)).stat_file
      h.slash h.get?_output
    left
    simp [Files.readFile, hfile, bind, Except.bind]
  · right
    refine ⟨?_, hnames⟩
    -- Where no link stands, the file is taken away without harm to the path.
    by_contra hlink
    exact hnames (h.names_prepared.keepsTree ((Files.SameOff.erase l' prepared).keepsTree
      h.not_directory_prepared fun target htarget => hlink ⟨target, htarget⟩))

end Won

/-- A run that gives a document was won by one of the candidates; the turns before it make no
difference to what that one was given. -/
theorem Chain.won_of_ok (h : Chain job cs attempts p result p') (hok : result = .ok report)
    (hfs : p.files.Grounded) (hfile : ∀ c ∈ cs, c.backend.KeepsToFile) :
    ∃ c ∈ cs, ∃ t l l' content executable,
      Won job c t (withParents job.output p.files) l l' content executable report p' := by
  induction h with
  | exhausted | unstaged | unpersisted => cases hok
  | lost hloses hrest ih =>
    obtain ⟨hc, hrestFile⟩ := List.forall_mem_cons.1 hfile
    obtain ⟨hkeeps, hgrounded⟩ := hloses.keeps hfs hc
    obtain ⟨c, hmem, t, l, l', content, executable, hwon⟩ := ih hok hgrounded hrestFile
    exact ⟨c, List.mem_cons_of_mem _ hmem, t, l, l', content, executable,
      { hwon with kept := hwon.kept.of_same hkeeps }⟩
  | @succeeded c rest attempts p location t size fs hinstalled hturn hverdict hpersist =>
    cases hok
    obtain ⟨l, hkept⟩ := Turn.kept_of_turn hturn hfs (hfile c (List.mem_cons_self ..))
    obtain ⟨hrendered, content, executable, hfile, hmagic, rfl⟩ := hkept.file_of_verdict hverdict
    obtain ⟨l', e, hnames, he, hdirectory, hslash, rfl⟩ := persist_eq_ok hpersist hkept.names
    rw [hfile] at he
    cases he
    rw [hkept.destination] at hnames hslash
    refine ⟨c, List.mem_cons_self .., t, l, l', content, executable, {
      kept := hkept
      turn := Job.turnWith_of_turn hturn
      rendered := hrendered
      file := hfile
      magic := hmagic
      names := hnames
      slash := hslash
      not_directory := hdirectory
      files := Progress.files_told ..
      call := ?_
      backend := rfl
      output := rfl
      size := rfl }⟩
    rw [Progress.calls_told]
    simp [Job.called]

/-- A first candidate that leaves a PDF file gives a document, if that can be put in place. -/
theorem Chain.exists_report {cs : List Candidate} {l' : Location} {content : Bytes}
    {executable : Bool} (h : Chain job (c :: cs) attempts p result p')
    (hinstalled : c.availability.isInstalled = true) (hturn : job.turn c p.files = .ok t)
    (hkept : t.Kept job.output l prepared) (hrendered : t.outcome = .rendered)
    (hfile : t.left.get? l = some (.file content executable)) (hmagic : pdfMagic <+: content)
    (hnames : prepared.Names job.output l') (hslash : job.output.endsWith "/" = false)
    (hdirectory : prepared.get? l' ≠ some .directory) : ∃ report, result = .ok report := by
  have hverdict : t.verdict c.backend.name = .ok content.length := by
    rw [Turn.verdict, hrendered]
    exact validatePdf_eq_ok_iff.2
      ⟨content, executable, hkept.names.stat_file hkept.staged.slash hfile, hmagic, rfl⟩
  have hleft : t.left.get? l' ≠ some .directory := by
    by_cases hl : l' = l
    · simp [hl, hfile]
    · rwa [hkept.off.entry l' hl]
  have hdestination := hnames.keepsTree hkept.keepsTree
  rw [← hkept.destination] at hdestination hslash
  have hpersist := persist_of_names hkept.names hfile hdestination hslash hleft
  -- All that the turn does is known, which leaves the chain one way to go on.
  cases h with
  | lost hloses =>
    cases hloses with
    | skipped hmissing =>
      rw [hmissing] at hinstalled
      cases hinstalled
    | failed _ hturn' hverdict' =>
      rw [hturn] at hturn'
      cases hturn'
      rw [hverdict] at hverdict'
      cases hverdict'
  | unstaged _ hturn' =>
    rw [hturn] at hturn'
    cases hturn'
  | unpersisted _ hturn' _ hpersist' =>
    rw [hturn] at hturn'
    cases hturn'
    rw [hpersist] at hpersist'
    cases hpersist'
  | succeeded => exact ⟨_, rfl⟩

/-- Every file that a backend was called for is a staging file that was not there before. -/
theorem Chain.staged_of_mem_calls (h : Chain job cs attempts p result p') (hfs : p.files.Grounded)
    (hfile : ∀ c ∈ cs, c.backend.KeepsToFile) (hcall : call ∈ p'.calls) :
    call ∈ p.calls ∨
      ∃ staged l, call.target = staged.path ∧ Staged staged l (withParents job.output p.files) := by
  induction h with
  | exhausted => exact .inl hcall
  | lost hloses hrest ih =>
    obtain ⟨hc, hrestFile⟩ := List.forall_mem_cons.1 hfile
    obtain ⟨hkeeps, hgrounded⟩ := hloses.keeps hfs hc
    rcases ih hgrounded hrestFile hcall with hnext | ⟨staged, l, htarget, hstaged⟩
    · rcases hloses.files_eq_or_same hfs hc with ⟨-, -, hcalls⟩ | ⟨-, -, staged, l, hstaged, hcalls⟩
      · exact .inl (hcalls ▸ hnext)
      · rw [hcalls, List.mem_append, List.mem_singleton] at hnext
        rcases hnext with hcall | rfl
        · exact .inl hcall
        · exact .inr ⟨staged, l, rfl, hstaged⟩
    · exact .inr ⟨staged, l, htarget, hstaged.of_same hkeeps.symm⟩
  | unstaged hinstalled hturn => exact .inl (by rwa [Progress.calls_told] at hcall)
  | unpersisted hinstalled hturn | succeeded hinstalled hturn =>
    obtain ⟨l, hkept⟩ := Turn.kept_of_turn hturn hfs (hfile _ (List.mem_cons_self ..))
    simp only [Job.called, Progress.calls_told, List.mem_append, List.mem_singleton] at hcall
    rcases hcall with hcall | rfl
    · exact .inl hcall
    · exact .inr ⟨_, l, rfl, hkept.staged⟩

end Conversion

end DocPress
