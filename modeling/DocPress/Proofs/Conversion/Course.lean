import DocPress.Proofs.Conversion.Chain

/-!
# DocPress.Proofs.Conversion.Course

The course of a conversion up to the turns of the backends, one constructor for each place at which
it can end:

1. No backend is installed.
2. The source cannot be read.
3. The HTML document cannot be written.
4. The backends have their turns (`DocPress.Proofs.Conversion.Chain`).
-/

namespace DocPress.Conversion

open DocPress.Backend DocPress.Document DocPress.FileSystem DocPress.Page DocPress.Program

/-! ## What a conversion begins with -/

/-- Some backend of a configuration is installed. -/
def Config.HasBackend (config : Config) (m : Machine) (fs : Files) : Prop :=
  ∃ b ∈ config.registry m, (b.probe fs).isInstalled = true

/-- The candidates of a conversion that begins with these files. -/
def Config.candidates (config : Config) (m : Machine) (fs : Files) : List Candidate :=
  candidatesOf ((config.registry m).probeAll fs)

/-- What the backends of a conversion share when a text was read. -/
def Config.job (config : Config) (output text : String) : Job :=
  ⟨config, .ofMarkdown config.anchors text, output⟩

/-- Writes the HTML document, if it is asked for. -/
def Job.emitHtml (job : Job) : Action Failure Unit :=
  match job.config.emitHtml with
  | some path => writeHtml path (documentFor job.body .css job.config)
  | none => pure ()

/-- The progress of a job whose HTML document is ready, with the files as they are then. -/
def Job.ready (job : Job) (p : Progress) (fs : Files) : Progress :=
  { p.told job.config.observer (.htmlReady job.body.html.utf8ByteSize) with files := fs }

/-- The HTML document can fail only as an output. -/
theorem Job.failure_of_emitHtml {job : Job} {e : Failure} {fs left : Files}
    (h : job.emitHtml.run.run fs = (.error e, left)) :
    ∃ path cause, job.config.emitHtml = some path ∧ e = .outputWriteFailed path cause := by
  unfold Job.emitHtml at h
  split at h
  · next path hpath =>
    rw [writeHtml, Action.run_mapError] at h
    split at h <;> cases h
    exact ⟨path, _, hpath, rfl⟩
  · cases h

/-! ## Candidates -/

section Candidates

variable {config : Config} {m : Machine} {fs : Files} {i : Nat}

/-- A candidate is a backend of the registry with its number and what was found out about it. -/
theorem getElem?_candidates (config : Config) (m : Machine) (fs : Files) (i : Nat) :
    (config.candidates m fs)[i]? =
      (config.registry m)[i]?.map fun b => ⟨i, b, b.probe fs⟩ := by
  simp only [Config.candidates, candidatesOf, Registry.probeAll, List.getElem?_map,
    List.getElem?_zipIdx, Option.map_map]
  cases (config.registry m)[i]? <;> simp

/-- A candidate is one of the backends, with what was found of it. -/
theorem mem_candidates_iff {c : Candidate} : c ∈ config.candidates m fs ↔
    ∃ i b, (config.registry m)[i]? = some b ∧ c = ⟨i, b, b.probe fs⟩ := by
  simp only [List.mem_iff_getElem?, getElem?_candidates, Option.map_eq_some_iff]
  simp only [@eq_comm _ c]

/-- The configuration is good for a conversion exactly if some backend is installed. -/
theorem isViable_iff :
    (checkCapabilities m config fs).isViable = true ↔ config.HasBackend m fs := by
  simp only [checkCapabilities, CapabilityReport.ofProbes, CapabilityReport.isViable,
    CapabilityReport.hasBackend, markdownStatus, Registry.probeAll, Config.HasBackend,
    Bool.true_and, List.any_eq_true, List.map_map, List.mem_map, Function.comp_apply]
  have havailable (b : Backend) : (b.status (b.probe fs)).available = (b.probe fs).isInstalled := by
    unfold Backend.status
    cases b.probe fs <;> rfl
  constructor
  · rintro ⟨-, ⟨b, hb, rfl⟩, h⟩
    exact ⟨b, hb, by rwa [← havailable]⟩
  · rintro ⟨b, hb, h⟩
    exact ⟨_, ⟨b, hb, rfl⟩, by rwa [havailable]⟩

end Candidates

/-! ## Courses -/

/-- How a conversion goes, from the progress before to the result and the progress in the end. -/
inductive Course (m : Machine) (config : Config) (input output : String) (p : Progress) :
    Except Failure ConversionReport → Progress → Prop
  | missing (hmissing : ¬ config.HasBackend m p.files) :
      Course m config input output p
        (.error (.missingCapability (checkCapabilities m config p.files).missing
          (checkCapabilities m config p.files).installGuidance)) p
  | unread (hbackend : config.HasBackend m p.files) (hread : readSource p.files input = .error e) :
      Course m config input output p (.error e) p
  | unwritten (hbackend : config.HasBackend m p.files) (hread : readSource p.files input = .ok text)
      (hemit : (config.job output text).emitHtml.run.run p.files = (.error e, fs)) :
      Course m config input output p (.error e) ((config.job output text).ready p fs)
  | tried (hbackend : config.HasBackend m p.files) (hread : readSource p.files input = .ok text)
      (hemit : (config.job output text).emitHtml.run.run p.files = (.ok (), fs))
      (hchain : Chain (config.job output text) (config.candidates m p.files) []
        ((config.job output text).ready p fs) result p') :
      Course m config input output p result p'

/-- A conversion up to the turns: it is told that the body is ready before the HTML document is
written, and the turns begin with empty lists. -/
theorem run_convertTelling {tell : Event → Run Unit} (m : Machine) (input output : String)
    (htell : ∀ bytes p, (tell (.htmlReady bytes)).run.run p =
      (.ok (), p.told config.observer (.htmlReady bytes))) (p : Progress) :
    (convertTelling tell m config input output).run.run p =
      if (checkCapabilities m config p.files).isViable then
        match readSource p.files input with
        | .error e => (.error e, p)
        | .ok text => match (config.job output text).emitHtml.run.run p.files with
          | (.error e, fs) => (.error e, (config.job output text).ready p fs)
          | (.ok (), fs) =>
            (tryCandidatesTelling tell (config.job output text) (config.candidates m p.files) []
              []).run.run ((config.job output text).ready p fs)
      else (.error (.missingCapability (checkCapabilities m config p.files).missing
        (checkCapabilities m config p.files).installGuidance), p) := by
  rw [checkCapabilities]
  simp only [convertTelling, Run.run_bind, Run.run_get]
  cases (CapabilityReport.ofProbes ((config.registry m).probeAll p.files)).isViable with
  | false => rfl
  | true =>
    simp only [Bool.not_true, Bool.false_eq_true, if_false, if_true, Run.run_bind, Run.run_onFiles,
      Action.run_ask]
    cases readSource p.files input with
    | error e => rfl
    | ok text =>
      simp only [htell, Job.emitHtml, Job.ready, Config.job, Config.candidates]
      cases config.emitHtml with
      | none =>
        simp only [Action.run_pure, Progress.told_same_files]
      | some path =>
        simp only [Run.run_bind, Run.run_onFiles, Progress.files_told]
        rcases (writeHtml path (documentFor (.ofMarkdown config.anchors text) .css config)).run.run
          p.files with ⟨e | _, fs⟩ <;> rfl

/-- The same for a conversion that tells its observer. -/
theorem run_convert (m : Machine) (config : Config) (input output : String) (p : Progress) :
    (convert m config input output).run.run p =
      if (checkCapabilities m config p.files).isViable then
        match readSource p.files input with
        | .error e => (.error e, p)
        | .ok text => match (config.job output text).emitHtml.run.run p.files with
          | (.error e, fs) => (.error e, (config.job output text).ready p fs)
          | (.ok (), fs) =>
            (tryCandidates (config.job output text) (config.candidates m p.files) [] []).run.run
              ((config.job output text).ready p fs)
      else (.error (.missingCapability (checkCapabilities m config p.files).missing
        (checkCapabilities m config p.files).installGuidance), p) :=
  run_convertTelling m input output (fun _ p => Run.run_emit _ _ p) p

/-- Every conversion is a course. -/
theorem course_convert (m : Machine) (config : Config) (input output : String) (p : Progress) :
    Course m config input output p ((convert m config input output).run.run p).1
      ((convert m config input output).run.run p).2 := by
  rw [run_convert]
  split
  · next hviable =>
    have hbackend := isViable_iff.1 hviable
    cases hread : readSource p.files input with
    | error e => exact .unread hbackend hread
    | ok text =>
      dsimp only
      rcases hemit : (config.job output text).emitHtml.run.run p.files with ⟨e | _, fs⟩
      · exact .unwritten hbackend hread hemit
      · exact .tried hbackend hread hemit (chain_tryCandidates _ _ agree_nil _)
  · next hviable => exact .missing fun hbackend => hviable (isViable_iff.2 hbackend)

/-- Where nothing keeps the backends from having their turns, the rest is a chain. -/
theorem Course.chain (h : Course m config input output p result p')
    (hbackend : config.HasBackend m p.files) (hread : readSource p.files input = .ok text)
    (hemit : (config.job output text).emitHtml.run.run p.files = (.ok (), fs)) :
    Chain (config.job output text) (config.candidates m p.files) []
      ((config.job output text).ready p fs) result p' := by
  cases h with
  | missing hmissing => exact absurd hbackend hmissing
  | unread _ hread' =>
    rw [hread] at hread'
    cases hread'
  | unwritten _ hread' hemit' =>
    rw [hread] at hread'
    cases hread'
    rw [hemit] at hemit'
    cases hemit'
  | tried _ hread' hemit' hchain =>
    rw [hread] at hread'
    cases hread'
    rw [hemit] at hemit'
    cases hemit'
    exact hchain

end DocPress.Conversion
