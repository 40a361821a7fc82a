import DocPress.Conversion.Run
import DocPress.Proofs.Conversion.Staging

/-!
# DocPress.Proofs.Conversion.Chain

The turns of the candidates as a relation, one constructor for each way in which they can go on:

1. A candidate loses, and the next one has its turn (`Loses`): it is missing and skipped, or it
   fails, breaks off, or leaves no PDF file.
2. There is no staging file for it; this ends the conversion.
3. It leaves a PDF file that cannot be put in place; this ends the conversion, too.
4. It leaves a PDF file, and that is the document.
5. No candidate is left.

`chain_tryCandidates` says that every run is of this form. What holds of all runs is then shown by
induction on it.

A run keeps two lists of what became of the backends: records for a report, and errors for a
failure. A chain has the records alone; the errors are at all times those that the records stand
for (`Agree`).
-/

namespace DocPress.Conversion

open DocPress.Backend DocPress.FileSystem DocPress.Page

/-! ## Records and errors -/

/-- The error that a record stands for, if it stands for one. -/
def AttemptRecord.error? (r : AttemptRecord) : Option BackendError :=
  match r.outcome with
  | .skipped reason => some (.unavailable r.backend reason)
  | .failed error => some error
  | .succeeded _ => none

/-- The errors are those that the records stand for, one for each and in their order. -/
def Agree (attempts : List AttemptRecord) (failures : List BackendError) : Prop :=
  attempts.map (·.error?) = failures.map some

theorem agree_nil : Agree [] [] := rfl

/-- A backend that has lost adds a record, and the error for which it stands. -/
theorem Agree.concat {attempts : List AttemptRecord} {failures : List BackendError}
    {record : AttemptRecord} {e : BackendError} (h : Agree attempts failures)
    (he : record.error? = some e) : Agree (attempts ++ [record]) (failures ++ [e]) := by
  rw [Agree, List.map_append, List.map_append, h, List.map_singleton, List.map_singleton, he]

/-- The errors can be read off the records. -/
theorem Agree.filterMap {attempts : List AttemptRecord} {failures : List BackendError}
    (h : Agree attempts failures) : attempts.filterMap (·.error?) = failures := by
  have hmap : (attempts.map (·.error?)).filterMap id = failures := by
    rw [h, List.filterMap_map]
    exact List.filterMap_some
  rwa [List.filterMap_map] at hmap

/-! ## Parts of a run -/

/-- The progress after an observer was told something. -/
def Progress.told (p : Progress) (observer : Option Observer) (event : Event) : Progress :=
  if observer = some .recording then { p with events := p.events ++ [event] } else p

@[simp] theorem Progress.files_told (p : Progress) (observer : Option Observer) (event : Event) :
    (p.told observer event).files = p.files := by
  unfold told
  split <;> rfl

@[simp] theorem Progress.calls_told (p : Progress) (observer : Option Observer) (event : Event) :
    (p.told observer event).calls = p.calls := by
  unfold told
  split <;> rfl

/-- It makes no difference whether an observer is told before or after the files have changed. -/
theorem Progress.told_with_files (p : Progress) (observer : Option Observer) (event : Event)
    (fs : Files) : { p.told observer event with files := fs } =
      { p with files := fs }.told observer event := by
  unfold told
  split <;> rfl

theorem Progress.told_same_files (p : Progress) (observer : Option Observer) (event : Event) :
    { p.told observer event with files := p.files } = p.told observer event := by
  unfold told
  split <;> rfl

namespace Run

variable {α β : Type}

/-- The second part is run on what the first one leaves, unless that has failed. -/
theorem run_bind (x : Run α) (f : α → Run β) (p : Progress) :
    (x >>= f).run.run p = match x.run.run p with
      | (.ok a, p') => (f a).run.run p'
      | (.error e, p') => (.error e, p') := by
  simp only [ExceptT.run_bind, StateT.run_bind]
  rcases x.run.run p with ⟨_ | _, _⟩ <;> rfl

@[simp] theorem run_pure (a : α) (p : Progress) : (pure a : Run α).run.run p = (.ok a, p) := rfl

@[simp] theorem run_throw (e : Failure) (p : Progress) :
    (throw e : Run α).run.run p = (.error e, p) := rfl

@[simp] theorem run_get (p : Progress) : (get : Run Progress).run.run p = (.ok p, p) := rfl

@[simp] theorem run_set (p p' : Progress) : (set p' : Run PUnit).run.run p = (.ok ⟨⟩, p') := rfl

@[simp] theorem run_modify (f : Progress → Progress) (p : Progress) :
    (modify f : Run PUnit).run.run p = (.ok ⟨⟩, f p) := rfl

/-- What is done to the files is done to the files of the progress; what was told and called stays.
-/
theorem run_onFiles (action : Action Failure α) (p : Progress) :
    (onFiles action).run.run p =
      ((action.run.run p.files).1, { p with files := (action.run.run p.files).2 }) := by
  simp only [onFiles, run_bind, run_get]
  rcases action.run.run p.files with ⟨_ | _, _⟩ <;> rfl

/-- To tell an observer never fails. -/
theorem run_emit (observer : Option Observer) (event : Event) (p : Progress) :
    (emit observer event).run.run p = (.ok (), p.told observer event) := by
  rw [emit, Progress.told]
  split <;> rfl

/-- An observer is told of everything, but for a success, of which something else may be made. -/
def TellsTurns (tell : Event → Run Unit) (observer : Option Observer) : Prop :=
  ∀ event p, (∀ backend output, event ≠ .succeeded backend output) →
    (tell event).run.run p = (.ok (), p.told observer event)

/-- A conversion tells its observer of everything. -/
theorem tellsTurns_emit (observer : Option Observer) : TellsTurns (emit observer) observer :=
  fun event p _ => run_emit observer event p

end Run

/-! ## Turns -/

/-- The turn of a backend: the staging file that it was given, with all files as they were then, how
it ended, and the files that it left. -/
structure Turn where
  staged : StagedOutput
  given : Files
  outcome : RenderOutcome
  left : Files

namespace Turn

/-- What the turn has brought: the size of a PDF file, or an error. -/
def verdict (t : Turn) (backend : String) : Except BackendError Nat :=
  match t.outcome with
  | .failed e => .error e
  | .panicked message => .error (panicError backend message)
  | .rendered => validatePdf t.left t.staged.path backend

/-- The files once the staging file is given up. -/
def discarded (t : Turn) : Files :=
  ((t.staged.discard : Action Failure Unit).run.run t.left).2

end Turn

namespace Job

variable {job : Job} {c : Candidate}

/-- The call of a candidate to render into a file. -/
def call (job : Job) (c : Candidate) (target : String) : Call :=
  ⟨c.position, documentFor job.body c.backend.flavor job.config, target, job.config.layout⟩

/-- The turn of a candidate that is given a staging file. -/
def turnWith (job : Job) (c : Candidate) (staged : StagedOutput) (given : Files) : Turn :=
  let call := job.call c staged.path
  let ended := (c.backend.render call.html call.target call.layout).run given
  ⟨staged, given, ended.1, ended.2⟩

/-- The turn of a candidate; if there is no staging file for it, the failure and the files then. -/
def turn (job : Job) (c : Candidate) (fs : Files) : Except (Failure × Files) Turn :=
  match (stage job.output).run.run fs with
  | (.error e, fs') => .error (e, fs')
  | (.ok staged, given) => .ok (job.turnWith c staged given)

/-- The report on a winner. -/
def report (job : Job) (c : Candidate) (pdfBytes : Nat) (attempts : List AttemptRecord) :
    ConversionReport where
  backend := c.backend.name
  output := job.output
  htmlBytes := job.body.html.utf8ByteSize
  pdfBytes := pdfBytes
  durationMs := 0
  attempts := attempts ++ [⟨c.backend.name, .succeeded 0⟩]

/-- The progress when a candidate has rendered: it was called, and these are the files. -/
def called (job : Job) (c : Candidate) (t : Turn) (p : Progress) (fs : Files) : Progress :=
  let started := p.told job.config.observer (.started c.backend.name)
  { started with files := fs, calls := started.calls ++ [job.call c t.staged.path] }

end Job

/-! ## Chains -/

/-- A candidate loses: what is recorded of it, and the progress after its turn. -/
inductive Loses (job : Job) (c : Candidate) (p : Progress) : AttemptRecord → Progress → Prop
  | skipped {reason} (hmissing : c.availability = .missing reason) :
      Loses job c p ⟨c.backend.name, .skipped reason⟩
        (p.told job.config.observer (.skipped c.backend.name reason))
  | failed {location t e} (hinstalled : c.availability = .installed location)
      (hturn : job.turn c p.files = .ok t) (hverdict : t.verdict c.backend.name = .error e) :
      Loses job c p ⟨c.backend.name, .failed e⟩
        ((job.called c t p t.discarded).told job.config.observer
          (.failed c.backend.name e.message))

/-- How the turns of candidates go, from the attempts and the progress before them to the result and
the progress in the end. -/
inductive Chain (job : Job) : List Candidate → List AttemptRecord → Progress →
    Except Failure ConversionReport → Progress → Prop
  | exhausted {attempts p} :
      Chain job [] attempts p
        (.error (.allBackendsExhausted (attempts.filterMap (·.error?)))) p
  | lost {c rest attempts p record next result p'} (hloses : Loses job c p record next)
      (hrest : Chain job rest (attempts ++ [record]) next result p') :
      Chain job (c :: rest) attempts p result p'
  | unstaged {c rest attempts p location e fs} (hinstalled : c.availability = .installed location)
      (hturn : job.turn c p.files = .error (e, fs)) :
      Chain job (c :: rest) attempts p (.error e)
        { p.told job.config.observer (.started c.backend.name) with files := fs }
  | unpersisted {c rest attempts p location t size e fs}
      (hinstalled : c.availability = .installed location)
      (hturn : job.turn c p.files = .ok t) (hverdict : t.verdict c.backend.name = .ok size)
      (hpersist : t.staged.persist.run.run t.left = (.error e, fs)) :
      Chain job (c :: rest) attempts p (.error e) (job.called c t p fs)
  | succeeded {c rest attempts p location t size fs}
      (hinstalled : c.availability = .installed location)
      (hturn : job.turn c p.files = .ok t) (hverdict : t.verdict c.backend.name = .ok size)
      (hpersist : t.staged.persist.run.run t.left = (.ok (), fs)) :
      Chain job (c :: rest) attempts p (.ok (job.report c size attempts))
        ((job.called c t p fs).told job.config.observer (.succeeded c.backend.name job.output))

variable {job : Job} {c : Candidate} {rest : List Candidate} {attempts : List AttemptRecord}
variable {failures : List BackendError} {p : Progress}

/-! ## Runs are chains -/

/-- A backend is logged with the same document, path and layout as it is run with, and what it has
brought is judged on the files that it leaves. -/
theorem run_renderInto (job : Job) (c : Candidate) (staged : StagedOutput) (p : Progress) :
    (renderInto job c staged.path).run.run p =
      (.ok ((job.turnWith c staged p.files).verdict c.backend.name),
        { p with
          files := (job.turnWith c staged p.files).left
          calls := p.calls ++ [job.call c staged.path] }) := by
  simp only [renderInto, Run.run_bind, Run.run_modify, Run.run_onFiles, Action.run_liftM, Job.call,
    Job.turnWith, Turn.verdict]
  rcases (c.backend.render (documentFor job.body c.backend.flavor job.config) staged.path
    job.config.layout).run p.files with ⟨outcome, left⟩
  cases outcome <;> rfl

section Turns

variable {tell : Event → Run Unit} (htell : Run.TellsTurns tell job.config.observer)

include htell

/-- A missing backend adds its record and its error, and the next one has its turn. -/
theorem run_tryCandidatesTelling_missing (h : c.availability = .missing reason) :
    (tryCandidatesTelling tell job (c :: rest) attempts failures).run.run p =
      (tryCandidatesTelling tell job rest (attempts ++ [⟨c.backend.name, .skipped reason⟩])
        (failures ++ [.unavailable c.backend.name reason])).run.run
        (p.told job.config.observer (.skipped c.backend.name reason)) := by
  rw [tryCandidatesTelling]
  simp only [h, Run.run_bind, htell (.skipped c.backend.name reason) p (by simp)]

/-- All ways in which the turn of an installed backend can go on. Only the telling of a success is
left open. -/
theorem run_tryCandidatesTelling_installed (h : c.availability = .installed location) :
    (tryCandidatesTelling tell job (c :: rest) attempts failures).run.run p =
      match job.turn c p.files with
      | .error (e, fs) =>
        (.error e, { p.told job.config.observer (.started c.backend.name) with files := fs })
      | .ok t => match t.verdict c.backend.name with
        | .error e =>
          (tryCandidatesTelling tell job rest (attempts ++ [⟨c.backend.name, .failed e⟩])
            (failures ++ [e])).run.run
            ((job.called c t p t.discarded).told job.config.observer
              (.failed c.backend.name e.message))
        | .ok size => match t.staged.persist.run.run t.left with
          | (.error e, fs) => (.error e, job.called c t p fs)
          | (.ok (), fs) =>
            match (tell (.succeeded c.backend.name job.output)).run.run (job.called c t p fs) with
            | (.ok (), p') => (.ok (job.report c size attempts), p')
            | (.error e, p') => (.error e, p') := by
  rw [tryCandidatesTelling, Job.turn]
  simp only [h, Run.run_bind, htell (.started c.backend.name) p (by simp), Run.run_onFiles,
    Progress.files_told]
  rcases (stage job.output).run.run p.files with ⟨e | staged, given⟩
  · rfl
  · simp only [run_renderInto]
    have hstaged : (job.turnWith c staged given).staged = staged := rfl
    generalize job.turnWith c staged given = t at hstaged ⊢
    subst hstaged
    cases t.verdict c.backend.name with
    | error e =>
      -- Whether the file is given up before or after the observer is told makes no difference.
      have htold (p : Progress) := htell (.failed c.backend.name e.message) p (by simp)
      simp only [Run.run_bind, Run.run_onFiles, htold, Progress.files_told, Turn.discarded,
        StagedOutput.discard, run_discardTemporary, Job.called, Progress.told_with_files]
    | ok size =>
      simp only [Run.run_bind, Run.run_onFiles]
      rcases t.staged.persist.run.run t.left with ⟨e | _, fs⟩
      · rfl
      · simp only [Job.called]
        rcases (tell (.succeeded c.backend.name job.output)).run.run _ with ⟨e | _, p'⟩ <;> rfl

end Turns

/-- Every run is a chain. The induction is on the candidates; each of them that loses keeps the
records and the errors in agreement. -/
theorem chain_tryCandidates (job : Job) (cs : List Candidate) (hagree : Agree attempts failures)
    (p : Progress) :
    Chain job cs attempts p ((tryCandidates job cs attempts failures).run.run p).1
      ((tryCandidates job cs attempts failures).run.run p).2 := by
  have htell := Run.tellsTurns_emit job.config.observer
  rw [tryCandidates]
  induction cs generalizing attempts failures p with
  | nil =>
    rw [← hagree.filterMap]
    exact .exhausted
  | cons c rest ih =>
    cases havailable : c.availability with
    | missing reason =>
      rw [run_tryCandidatesTelling_missing htell havailable]
      exact .lost (.skipped havailable) (ih (hagree.concat rfl) _)
    | installed location =>
      rw [run_tryCandidatesTelling_installed htell havailable]
      cases hturn : job.turn c p.files with
      | error failure => exact .unstaged havailable hturn
      | ok t =>
        dsimp only
        cases hverdict : t.verdict c.backend.name with
        | error e =>
          exact .lost (.failed havailable hturn hverdict) (ih (hagree.concat rfl) _)
        | ok size =>
          dsimp only
          rcases hpersist : t.staged.persist.run.run t.left with ⟨e | _, fs⟩
          · exact .unpersisted havailable hturn hverdict hpersist
          · dsimp only
            rw [Run.run_emit]
            exact .succeeded havailable hturn hverdict hpersist

end DocPress.Conversion
