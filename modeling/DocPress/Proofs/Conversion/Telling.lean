import DocPress.Proofs.Conversion.Course

/-!
# DocPress.Proofs.Conversion.Telling

A conversion does not depend on how it is told:

* `Run.Alike` — two parts of a conversion that do the same, whatever was told before and whatever
  is kept of what they tell. With alike ways of telling whole conversions are alike
  (`convertTelling_alike`), so those with different observers are (`convert_alike`).
* `Run.breakingOff` — a way of telling that breaks off in place of a success. What is there then has
  been done before the success is told (`convert_breakingOff`).
* `Run.stoppingAtTurns` — one that breaks off at the first turn of a backend
  (`convert_stoppingAtTurns`).
-/

namespace DocPress.Conversion

open DocPress.Backend DocPress.Document DocPress.FileSystem DocPress.Page DocPress.Program

/-! ## Parts that do the same -/

/-- The progress is the same, but for what was told. -/
structure Progress.Alike (p q : Progress) : Prop where
  files : p.files = q.files
  calls : p.calls = q.calls

namespace Run

variable {α β : Type} {x y : Run α} {f g : α → Run β}

/-- Two parts of a conversion do the same: from progresses that are alike they come to the same
result and to progresses that are alike. -/
def Alike (x y : Run α) : Prop :=
  ∀ p q : Progress, p.Alike q →
    (x.run.run p).1 = (y.run.run q).1 ∧ (x.run.run p).2.Alike (y.run.run q).2

namespace Alike

/-- Two steps that do the same, one after the other. -/
theorem bind (hx : Alike x y) (hf : ∀ a, Alike (f a) (g a)) : Alike (x >>= f) (y >>= g) := by
  intro p q hpq
  have hxy := hx p q hpq
  rw [run_bind, run_bind]
  rcases hp : x.run.run p with ⟨result, p'⟩
  rcases hq : y.run.run q with ⟨result', q'⟩
  rw [hp, hq] at hxy
  obtain ⟨hresult, hprogress⟩ : result = result' ∧ p'.Alike q' := hxy
  subst hresult
  cases result with
  | error e => exact ⟨rfl, hprogress⟩
  | ok a => exact hf a p' q' hprogress

/-- What is asked for is alike, not the same. -/
theorem get_bind {f g : Progress → Run β} (h : ∀ p q : Progress, p.Alike q → Alike (f p) (g q)) :
    Alike (get >>= f) (get >>= g) := by
  intro p q hpq
  rw [run_bind, run_bind]
  exact h p q hpq p q hpq

theorem pure (a : α) : Alike (Pure.pure a : Run α) (Pure.pure a) :=
  fun _ _ hpq => ⟨rfl, hpq⟩

theorem throw (e : Failure) : Alike (MonadExcept.throw e : Run α) (MonadExcept.throw e) :=
  fun _ _ hpq => ⟨rfl, hpq⟩

/-- What follows a failure is never done. -/
theorem throw_bind (e : Failure) :
    Alike ((MonadExcept.throw e : Run α) >>= f) (MonadExcept.throw e >>= g) :=
  fun _ _ hpq => ⟨rfl, hpq⟩

/-- What is done to the files does not depend on what was told. -/
theorem onFiles (action : Action Failure α) : Alike (Run.onFiles action) (Run.onFiles action) := by
  intro p q hpq
  rw [run_onFiles, run_onFiles, hpq.files]
  exact ⟨rfl, rfl, hpq.calls⟩

/-- To tell different observers does the same, but for what they are told. -/
theorem emit (observer observer' : Option Observer) (event : Event) :
    Alike (Run.emit observer event) (Run.emit observer' event) := by
  intro p q hpq
  rw [run_emit, run_emit]
  refine ⟨rfl, ?_, ?_⟩
  · rw [Progress.files_told, Progress.files_told, hpq.files]
  · rw [Progress.calls_told, Progress.calls_told, hpq.calls]

/-- A call does not depend on what was told. -/
theorem renderInto (job : Job) (c : Candidate) (target : String) :
    Alike (Conversion.renderInto job c target) (Conversion.renderInto job c target) := by
  unfold Conversion.renderInto
  refine bind ?_ fun _ => bind (onFiles _) fun outcome => ?_
  · intro p q hpq
    exact ⟨rfl, hpq.files, by simp [hpq.calls]⟩
  · cases outcome with
    | failed e => exact pure _
    | panicked message => exact pure _
    | rendered =>
      refine get_bind fun p q hpq => ?_
      rw [hpq.files]
      exact pure _

end Alike

end Run

/-! ## Conversions told in different ways -/

section Ways

variable {tell tell' : Event → Run Unit}

/-- The turns do the same with alike ways of telling; the induction is on the candidates. -/
theorem tryCandidatesTelling_alike (htell : ∀ event, Run.Alike (tell event) (tell' event))
    (job : Job) (cs : List Candidate) (attempts : List AttemptRecord)
    (failures : List BackendError) :
    Run.Alike (tryCandidatesTelling tell job cs attempts failures)
      (tryCandidatesTelling tell' job cs attempts failures) := by
  induction cs generalizing attempts failures with
  | nil => exact .throw _
  | cons c rest ih =>
    rw [tryCandidatesTelling, tryCandidatesTelling]
    cases c.availability with
    | missing reason => exact (htell _).bind fun _ => ih _ _
    | installed location =>
      refine (htell _).bind fun _ => (Run.Alike.onFiles _).bind fun staged =>
        (Run.Alike.renderInto job c _).bind fun verdict => ?_
      cases verdict with
      | ok size => exact (Run.Alike.onFiles _).bind fun _ => (htell _).bind fun _ => .pure _
      | error e => exact (htell _).bind fun _ => (Run.Alike.onFiles _).bind fun _ => ih _ _

/-- With alike ways of telling, conversions do the same. -/
theorem convertTelling_alike (htell : ∀ event, Run.Alike (tell event) (tell' event)) (m : Machine)
    (config : Config) (input output : String) :
    Run.Alike (convertTelling tell m config input output)
      (convertTelling tell' m config input output) := by
  unfold convertTelling
  refine Run.Alike.get_bind fun p q hpq => ?_
  rw [hpq.files]
  dsimp only
  split
  · exact Run.Alike.throw_bind _
  · refine (Run.Alike.onFiles _).bind fun text => (htell _).bind fun _ => ?_
    cases config.emitHtml with
    | none => exact tryCandidatesTelling_alike htell _ _ _ _
    | some path =>
      exact (Run.Alike.onFiles _).bind fun _ => tryCandidatesTelling_alike htell _ _ _ _

end Ways

/-! ## Observers -/

/-- No step looks at the observer but the telling. -/
theorem tryCandidatesTelling_observer (tell : Event → Run Unit) (job : Job)
    (observer : Option Observer) (cs : List Candidate) (attempts : List AttemptRecord)
    (failures : List BackendError) :
    tryCandidatesTelling tell { job with config := { job.config with observer } } cs attempts
        failures =
      tryCandidatesTelling tell job cs attempts failures := by
  induction cs generalizing attempts failures with
  | nil => rfl
  | cons c rest ih =>
    rw [tryCandidatesTelling, tryCandidatesTelling]
    simp only [ih]
    rfl

/-- The observer of a configuration is not looked at where the way of telling is given. -/
theorem convertTelling_observer (tell : Event → Run Unit) (m : Machine) (config : Config)
    (observer : Option Observer) (input output : String) :
    convertTelling tell m { config with observer } input output =
      convertTelling tell m config input output := by
  unfold convertTelling
  have hturns (body : Body) := tryCandidatesTelling_observer tell ⟨config, body, output⟩ observer
  simp only [hturns]
  rfl

/-- The observer makes no difference to what a conversion does. -/
theorem convert_alike (m : Machine) (config : Config) (observer : Option Observer)
    (input output : String) :
    Run.Alike (convert m { config with observer } input output)
      (convert m config input output) := by
  rw [convert, convertTelling_observer]
  exact convertTelling_alike (fun event => .emit _ _ event) m config input output

/-! ## Telling that breaks off -/

/-- Tells an observer of everything, but breaks off with a failure in place of a success. -/
def Run.breakingOff (observer : Option Observer) (e : Failure) : Event → Run Unit
  | .succeeded _ _ => throw e
  | event => Run.emit observer event

/-- Up to a success the observer is told of everything. -/
theorem Run.tellsTurns_breakingOff (observer : Option Observer) (e : Failure) :
    TellsTurns (breakingOff observer e) observer := by
  intro event p hevent
  cases event with
  | succeeded backend output => exact absurd rfl (hevent backend output)
  | htmlReady | skipped | started | failed => exact run_emit _ _ p

/-- A run that breaks off in place of a success: a failure goes as it would have gone, and with a
success everything is done but to tell of it. -/
structure BrokenOff (observer : Option Observer) (e : Failure) (output : String)
    (run broken : Except Failure ConversionReport × Progress) : Prop where
  of_error : ∀ failure, run.1 = .error failure → broken = run
  of_ok : ∀ report, run.1 = .ok report →
    broken.1 = .error e ∧ run.2 = broken.2.told observer (.succeeded report.backend output)

/-- A run that fails is not broken off. -/
theorem BrokenOff.failed {observer : Option Observer} {e failure : Failure} {output : String}
    {run : Except Failure ConversionReport × Progress} (h : run.1 = .error failure) :
    BrokenOff observer e output run run where
  of_error _ _ := rfl
  of_ok report hok := by
    rw [h] at hok
    cases hok

/-- With a success all turns have been carried through before it is told. -/
theorem tryCandidates_breakingOff (job : Job) (e : Failure) (cs : List Candidate)
    (attempts : List AttemptRecord) (failures : List BackendError) (p : Progress) :
    let tell := Run.breakingOff job.config.observer e
    BrokenOff job.config.observer e job.output ((tryCandidates job cs attempts failures).run.run p)
      ((tryCandidatesTelling tell job cs attempts failures).run.run p) := by
  intro tell
  have hemit := Run.tellsTurns_emit job.config.observer
  have hbreak := Run.tellsTurns_breakingOff job.config.observer e
  rw [tryCandidates]
  induction cs generalizing attempts failures p with
  | nil => exact .failed rfl
  | cons c rest ih =>
    cases havailable : c.availability with
    | missing reason =>
      rw [run_tryCandidatesTelling_missing hemit havailable,
        run_tryCandidatesTelling_missing hbreak havailable]
      exact ih ..
    | installed location =>
      rw [run_tryCandidatesTelling_installed hemit havailable,
        run_tryCandidatesTelling_installed hbreak havailable]
      cases job.turn c p.files with
      | error failure => exact .failed rfl
      | ok t =>
        dsimp only
        cases t.verdict c.backend.name with
        | error e => exact ih ..
        | ok size =>
          dsimp only
          rcases t.staged.persist.run.run t.left with ⟨failure | _, fs⟩
          · exact .failed rfl
          · dsimp only
            rw [Run.run_emit]
            constructor
            · intro failure h
              cases h
            · intro report h
              cases h
              exact ⟨rfl, rfl⟩

/-- All that a conversion does is done when its success is told. -/
theorem convert_breakingOff (m : Machine) (config : Config) (input output : String) (e : Failure)
    (p : Progress) :
    BrokenOff config.observer e output ((convert m config input output).run.run p)
      ((convertTelling (Run.breakingOff config.observer e) m config input output).run.run p) := by
  rw [run_convert, run_convertTelling m input output
    (fun bytes p => Run.tellsTurns_breakingOff _ e _ p (by simp)) p]
  split
  · cases readSource p.files input with
    | error failure => exact .failed rfl
    | ok text =>
      dsimp only
      rcases (config.job output text).emitHtml.run.run p.files with ⟨failure | _, fs⟩
      · exact .failed rfl
      · exact tryCandidates_breakingOff (config.job output text) e _ _ _ _
  · exact .failed rfl

/-- Tells an observer that the body is ready, but breaks off with a failure at the first turn. -/
def Run.stoppingAtTurns (observer : Option Observer) (e : Failure) : Event → Run Unit
  | .htmlReady bytes => emit observer (.htmlReady bytes)
  | _ => throw e

/-- All that a conversion does before the backends have their turns is to write the HTML
document. -/
theorem convert_stoppingAtTurns {m : Machine} {config : Config} {input text : String} {p : Progress}
    (output : String) (e : Failure) (hbackend : config.HasBackend m p.files)
    (hread : readSource p.files input = .ok text) :
    (convertTelling (Run.stoppingAtTurns config.observer e) m config input output).run.run p =
      match (config.job output text).emitHtml.run.run p.files with
      | (.error failure, fs) => (.error failure, (config.job output text).ready p fs)
      | (.ok (), fs) => (.error e, (config.job output text).ready p fs) := by
  have htell (bytes : Nat) (p : Progress) :
      (Run.stoppingAtTurns config.observer e (.htmlReady bytes)).run.run p =
        (.ok (), p.told config.observer (.htmlReady bytes)) := Run.run_emit ..
  rw [run_convertTelling m input output htell p, if_pos (isViable_iff.2 hbackend), hread]
  dsimp only
  rcases (config.job output text).emitHtml.run.run p.files with ⟨failure | _, fs⟩
  · rfl
  · -- Some backend is installed, so there is a first candidate, and it is told of.
    obtain ⟨b, hb, -⟩ := hbackend
    obtain ⟨i, hi⟩ := List.mem_iff_getElem?.1 hb
    have hcandidate : ⟨i, b, b.probe p.files⟩ ∈ config.candidates m p.files :=
      mem_candidates_iff.2 ⟨i, b, hi, rfl⟩
    cases hcandidates : config.candidates m p.files with
    | nil =>
      rw [hcandidates] at hcandidate
      cases hcandidate
    | cons c rest =>
      dsimp only
      rw [tryCandidatesTelling]
      cases c.availability <;> rfl

end DocPress.Conversion
