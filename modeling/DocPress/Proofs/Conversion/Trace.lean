import Mathlib.Data.List.Forall2
import DocPress.Proofs.Conversion.Confined
import DocPress.Proofs.Conversion.Winner

/-!
# DocPress.Proofs.Conversion.Trace

What an observer is told of the turns of the backends, in agreement with their result:

1. Each backend that loses is told of by its record (`AttemptRecord.events`): one event if it is
   skipped, two if it fails.
2. What comes then depends on how the turns end (`Job.Ends`): nothing if no backend is left, the
   start of a turn that cannot be carried through, or the start and the success of the winner.
3. If the HTML document cannot be written, there are no turns and nothing is told of them
   (`Job.Told`).
-/

namespace DocPress.Conversion

open DocPress.Backend DocPress.Document DocPress.FileSystem DocPress.Program DocPress.Text

/-! ## Events of records and of errors -/

/-- What is told of a backend, by its record. -/
def AttemptRecord.events (r : AttemptRecord) (output : String) : List Event :=
  match r.outcome with
  | .skipped reason => [.skipped r.backend reason]
  | .failed e => [.started r.backend, .failed r.backend e.message]
  | .succeeded _ => [.started r.backend, .succeeded r.backend output]

/-- What is told of a candidate that has come to an error. -/
def Candidate.events (c : Candidate) (e : BackendError) : List Event :=
  match c.availability, e with
  | .missing _, .unavailable _ reason => [.skipped c.backend.name reason]
  | _, _ => [.started c.backend.name, .failed c.backend.name e.message]

/-- How the turns of candidates end after some of them have lost: with no candidate left, with one
whose file cannot be made or put in place, or with the winner. The last argument is what is told of
that. -/
inductive Job.Ends (job : Job) (records : List AttemptRecord) :
    Option Candidate → Except Failure ConversionReport → List Event → Prop
  | exhausted :
      Ends job records none (.error (.allBackendsExhausted (records.filterMap (·.error?)))) []
  | cutOff {c cause} (hinstalled : c.availability.isInstalled = true) :
      Ends job records (some c) (.error (.outputWriteFailed job.output cause))
        [.started c.backend.name]
  | won {c size} (hinstalled : c.availability.isInstalled = true) :
      Ends job records (some c) (.ok (job.report c size records))
        [.started c.backend.name, .succeeded c.backend.name job.output]

/-- What is told of a conversion once the body is ready, by its result. -/
inductive Job.Told (job : Job) (cs : List Candidate) (fs : Files) :
    Except Failure ConversionReport → List Event → Prop
  | unwritten {path cause left} (hpath : job.config.emitHtml = some path)
      (hemit : job.emitHtml.run.run fs = (.error (.outputWriteFailed path cause), left)) :
      Told job cs fs (.error (.outputWriteFailed path cause)) []
  | tried {emitted records result last} (hemit : job.emitHtml.run.run fs = (.ok (), emitted))
      (hlost : job.LostAll cs emitted records.length records)
      (hends : job.Ends records cs[records.length]? result last) :
      Told job cs fs result (records.flatMap (·.events job.output) ++ last)

variable {job : Job} {c : Candidate} {cs : List Candidate} {attempts records : List AttemptRecord}
variable {p p' next : Progress} {result : Except Failure ConversionReport} {fs : Files}
variable {record r : AttemptRecord} {told last : List Event} {report : ConversionReport}
variable {errors : List BackendError} {output : String}

/-- A recording observer keeps what it is told, in its order. -/
theorem Progress.events_told {observer : Option Observer} (h : observer = some .recording)
    (p : Progress) (event : Event) : (p.told observer event).events = p.events ++ [event] := by
  rw [told, if_pos h]

/-- The error of a candidate that has lost tells the same as its record. -/
theorem Job.Lost.events (h : job.Lost c fs r) (output : String) :
    ∃ e, r.error? = some e ∧ r.events output = c.events e := by
  cases h with
  | @skipped reason hmissing =>
    refine ⟨.unavailable c.backend.name reason, rfl, ?_⟩
    simp only [AttemptRecord.events, Candidate.events, hmissing]
  | @failed location t e hinstalled hturn hverdict =>
    refine ⟨e, rfl, ?_⟩
    simp only [AttemptRecord.events, Candidate.events, hinstalled]

/-- Of a candidate with an error no success is told, and its start is not the last that is told. -/
theorem AttemptRecord.events_of_error (h : r.error?.isSome = true) (output : String) :
    (∀ name path, .succeeded name path ∉ r.events output) ∧
      ∀ name, (r.events output).getLast? ≠ some (.started name) := by
  obtain ⟨backend, outcome⟩ := r
  cases outcome with
  | skipped reason => simp [events]
  | failed e => simp [events]
  | succeeded duration => cases h

/-- Each record of a backend that has lost stands for an error. -/
theorem Job.LostAll.error? {n : Nat} (h : job.LostAll cs fs n records) (hr : r ∈ records) :
    r.error?.isSome = true := by
  obtain ⟨i, hi⟩ := List.mem_iff_getElem?.1 hr
  have hlt : i < n := by
    rw [← h.length]
    exact (List.getElem?_eq_some_iff.1 hi).1
  obtain ⟨c, r', -, hr', hlost⟩ := h.lost i hlt
  rw [hi] at hr'
  cases hr'
  obtain ⟨e, he, -⟩ := hlost.events ""
  rw [he]
  rfl

/-! ## Chains -/

/-- A staging file has the output as its destination. -/
theorem Job.destination_of_turn {t : Turn} (h : job.turn c fs = .ok t) :
    t.staged.destination = job.output := by
  rw [Job.turn, run_stage] at h
  rcases hparents : (ensureDirectories (directoryOf job.output)).run.run fs with ⟨e | _, fs₁⟩ <;>
    rw [hparents] at h
  · cases h
  · dsimp only at h
    rcases htemporary :
        (makeTemporary (directoryOf job.output) stagingStart stagingEnd).run.run fs₁ with
      ⟨e | path, fs₂⟩ <;> rw [htemporary] at h <;> cases h
    rfl

/-- A candidate that loses is told of by its record. -/
theorem Loses.events (h : Loses job c p record next)
    (hrecording : job.config.observer = some .recording) :
    next.events = p.events ++ record.events job.output := by
  cases h with
  | skipped hmissing => exact Progress.events_told hrecording p _
  | failed hinstalled hturn hverdict =>
    rw [Progress.events_told hrecording, Job.called]
    simp only [Progress.events_told hrecording, AttemptRecord.events, List.append_assoc,
      List.singleton_append]

/-- The records of the candidates that have lost, and how the turns end, tell all that is told. The
induction is on the chain; each turn that is lost puts its record in front. -/
theorem Chain.events (h : Chain job cs attempts p result p')
    (hrecording : job.config.observer = some .recording) :
    ∃ records last, job.LostAll cs p.files records.length records ∧
      job.Ends (attempts ++ records) cs[records.length]? result last ∧
      p'.events = p.events ++ (records.flatMap (·.events job.output) ++ last) := by
  induction h with
  | @exhausted attempts p =>
    refine ⟨[], [], ⟨rfl, by simp⟩, ?_, by simp⟩
    rw [List.append_nil]
    exact .exhausted
  | @lost c rest attempts p record next result p' hloses hrest ih =>
    obtain ⟨records, last, hlost, hends, hevents⟩ := ih
    refine ⟨record :: records, last, .cons hloses.lost (by rwa [← hloses.files]), ?_, ?_⟩
    · rwa [List.append_assoc, List.singleton_append] at hends
    · rw [hevents, hloses.events hrecording, List.flatMap_cons, List.append_assoc,
        List.append_assoc]
  | @unstaged c rest attempts p location e fs hinstalled hturn =>
    -- The turn is begun and told of, but ends the conversion, so no record is made of it.
    obtain ⟨⟨cause, rfl⟩, -⟩ := stage_eq_error (Job.stage_of_turn_error hturn)
    refine ⟨[], [.started c.backend.name], ⟨rfl, by simp⟩, ?_, ?_⟩
    · exact .cutOff (by rw [hinstalled]; rfl)
    · simp only [Progress.events_told hrecording, List.flatMap_nil, List.nil_append]
  | @unpersisted c rest attempts p location t size e fs hinstalled hturn hverdict hpersist =>
    obtain ⟨⟨cause, rfl⟩, -⟩ := persist_eq_error hpersist
    rw [Job.destination_of_turn hturn]
    refine ⟨[], [.started c.backend.name], ⟨rfl, by simp⟩, ?_, ?_⟩
    · exact .cutOff (by rw [hinstalled]; rfl)
    · simp only [Job.called, Progress.events_told hrecording, List.flatMap_nil, List.nil_append]
  | @succeeded c rest attempts p location t size fs hinstalled hturn hverdict hpersist =>
    refine ⟨[], [.started c.backend.name, .succeeded c.backend.name job.output], ⟨rfl, by simp⟩,
      ?_, ?_⟩
    · rw [List.append_nil]
      exact .won (by rw [hinstalled]; rfl)
    · simp only [Job.called, Progress.events_told hrecording, List.flatMap_nil, List.nil_append,
        List.append_assoc, List.singleton_append]

/-! ## Results and what is told of them -/

namespace Job

/-- Where all candidates have lost, their errors tell the same as their records. -/
theorem LostAll.flatMap_events (h : job.LostAll cs fs cs.length records) (output : String) :
    (records.filterMap (·.error?)).length = cs.length ∧
      records.flatMap (·.events output) =
        (cs.zip (records.filterMap (·.error?))).flatMap fun (c, e) => c.events e := by
  have hlost : List.Forall₂ (fun c r => ∃ fs, job.Lost c fs r) cs records := by
    refine List.forall₂_iff_get.2 ⟨h.length.symm, fun i hc hr => ?_⟩
    obtain ⟨c, r, hci, hri, hlost⟩ := h.lost i hc
    rw [List.getElem?_eq_getElem hc] at hci
    rw [List.getElem?_eq_getElem hr] at hri
    cases hci
    cases hri
    exact ⟨_, hlost⟩
  clear h
  induction hlost with
  | nil => exact ⟨rfl, rfl⟩
  | @cons c r cs records hlost _ ih =>
    obtain ⟨fs, hlost⟩ := hlost
    obtain ⟨e, he, hevents⟩ := hlost.events output
    rw [List.filterMap_cons_some he, List.zip_cons_cons, List.flatMap_cons, List.flatMap_cons,
      List.length_cons, List.length_cons, ih.1, ih.2, hevents]
    exact ⟨rfl, rfl⟩

/-- Of candidates that have lost, no success is told, and no start is the last that is told. -/
theorem LostAll.not_mem_events {n : Nat} (h : job.LostAll cs fs n records) (output : String) :
    (∀ name path, .succeeded name path ∉ records.flatMap (·.events output)) ∧
      ∀ name, (records.flatMap (·.events output)).getLast? ≠ some (.started name) := by
  constructor
  · intro name path hmem
    obtain ⟨r, hr, hr'⟩ := List.mem_flatMap.1 hmem
    exact (AttemptRecord.events_of_error (h.error? hr) output).1 name path hr'
  · intro name hlast
    rw [List.getLast?_flatMap] at hlast
    obtain ⟨r, hr, hr'⟩ := List.exists_of_findSome?_eq_some hlast
    exact (AttemptRecord.events_of_error (h.error? (List.mem_reverse.1 hr)) output).2 name hr'

namespace Told

variable (h : job.Told cs fs result told)

include h

/-- A conversion that begins ends with a report, or in one of two ways without one. -/
theorem result_cases : (∃ report, result = .ok report) ∨
    (∃ errors, result = .error (.allBackendsExhausted errors)) ∨
      ∃ path cause, result = .error (.outputWriteFailed path cause) := by
  cases h with
  | unwritten => exact .inr (.inr ⟨_, _, rfl⟩)
  | @tried emitted records _ last hemit hlost hends =>
    generalize cs[records.length]? = c? at hends
    cases hends with
    | exhausted => exact .inr (.inl ⟨_, rfl⟩)
    | cutOff => exact .inr (.inr ⟨_, _, rfl⟩)
    | won => exact .inl ⟨_, rfl⟩

/-- A report tells all that was told. -/
theorem of_ok (hok : result = .ok report) :
    told = report.attempts.flatMap (·.events job.output) ∧
      report.htmlBytes = job.body.html.utf8ByteSize ∧
      [.started report.backend, .succeeded report.backend job.output] <:+ told := by
  cases h with
  | unwritten => cases hok
  | @tried emitted records _ last hemit hlost hends =>
    subst hok
    generalize cs[records.length]? = c? at hends
    cases hends with
    | won => exact ⟨by simp [report, AttemptRecord.events], rfl, List.suffix_append _ _⟩

/-- The errors of all candidates tell all that was told. -/
theorem of_exhausted (hexhausted : result = .error (.allBackendsExhausted errors)) :
    errors.length = cs.length ∧ told = (cs.zip errors).flatMap fun (c, e) => c.events e := by
  cases h with
  | unwritten => cases hexhausted
  | @tried emitted records _ last hemit hlost hends =>
    subst hexhausted
    generalize hc : cs[records.length]? = c? at hends
    cases hends with
    | exhausted =>
      have hlength : records.length = cs.length := by
        refine Nat.le_antisymm (Nat.le_of_not_lt fun hlt => ?_) (List.getElem?_eq_none_iff.1 hc)
        obtain ⟨c, r, hnone, -⟩ := hlost.lost cs.length hlt
        rw [List.getElem?_eq_none (Nat.le_refl _)] at hnone
        cases hnone
      rw [hlength] at hlost
      rw [List.append_nil]
      exact hlost.flatMap_events job.output

/-- A success is told last, and only of a conversion that has succeeded. -/
theorem of_succeeded {name path : String} {i : Nat} (hi : told[i]? = some (.succeeded name path)) :
    i + 1 = told.length ∧ path = job.output ∧ ∃ report, result = .ok report := by
  cases h with
  | unwritten => cases hi
  | @tried emitted records _ last hemit hlost hends =>
    generalize cs[records.length]? = c? at hends
    have hnot := (hlost.not_mem_events job.output).1 name path
    generalize records.flatMap (·.events job.output) = before at hi hnot
    rcases Nat.lt_or_ge i before.length with hlt | hge
    · rw [List.getElem?_append_left hlt] at hi
      exact absurd (List.mem_of_getElem? hi) hnot
    · rw [List.getElem?_append_right hge] at hi
      rw [List.length_append]
      cases hends with
      | exhausted => cases hi
      | cutOff =>
        have hmem := List.mem_of_getElem? hi
        simp at hmem
      | @won c size =>
        match hk : i - before.length, hi with
        | 1, hi =>
          cases hi
          exact ⟨by simp; omega, rfl, _, rfl⟩

/-- A start is told last exactly if the file of a turn could not be made or put in place. -/
theorem getLast?_started : (∃ name, told.getLast? = some (.started name)) ↔
    (∃ emitted, job.emitHtml.run.run fs = (.ok (), emitted)) ∧
      ∃ cause, result = .error (.outputWriteFailed job.output cause) := by
  cases h with
  | @unwritten path cause left hpath hemit =>
    constructor
    · rintro ⟨name, hname⟩
      cases hname
    · rintro ⟨⟨emitted, hok⟩, -⟩
      rw [hemit] at hok
      cases hok
  | @tried emitted records _ last hemit hlost hends =>
    have hnot := (hlost.not_mem_events job.output).2
    generalize cs[records.length]? = c? at hends
    constructor
    · rintro ⟨name, hname⟩
      refine ⟨⟨emitted, hemit⟩, ?_⟩
      cases hends with
      | exhausted =>
        rw [List.append_nil] at hname
        exact absurd hname (hnot name)
      | cutOff => exact ⟨_, rfl⟩
      | won => simp at hname
    · rintro ⟨-, cause, hresult⟩
      cases hends with
      | exhausted | won => cases hresult
      | @cutOff c cause => exact ⟨c.backend.name, by simp⟩

end Told

end Job

end DocPress.Conversion
