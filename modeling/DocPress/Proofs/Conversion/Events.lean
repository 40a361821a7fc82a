import DocPress.Proofs.Conversion.Prepared
import DocPress.Proofs.Conversion.Script
import DocPress.Proofs.Conversion.Source
import DocPress.Proofs.Conversion.Telling
import DocPress.Proofs.Conversion.Trace

/-!
# DocPress.Proofs.Conversion.Events

What an observer is told of a whole conversion: nothing if it does not begin; otherwise that the
body is ready, and then what becomes of the backends (`DocPress.Proofs.Conversion.Trace`). The
events and the result determine each other as far as they speak of the same things.
-/

namespace DocPress.Conversion

open DocPress.Backend DocPress.Document DocPress.FileSystem DocPress.Program DocPress.Text

variable {job : Job} {cs : List Candidate} {attempts : List AttemptRecord} {fs : Files}
variable {p p' : Progress} {result : Except Failure ConversionReport} {report : ConversionReport}
variable {errors : List BackendError} {output : String}
variable {m : Machine} {config : Config} {input text : String}

/-! ## Parts of a conversion -/

/-- The winner's file was put in place last of all. -/
theorem Chain.persisted_of_ok (h : Chain job cs attempts p result p') (hok : result = .ok report) :
    ∃ (staged : StagedOutput) (left : Files), staged.destination = job.output ∧
      staged.persist.run.run left = (.ok (), p'.files) := by
  induction h with
  | exhausted | unstaged | unpersisted => cases hok
  | lost hloses hrest ih => exact ih hok
  | @succeeded c rest attempts p location t size fs hinstalled hturn hverdict hpersist =>
    refine ⟨t.staged, t.left, Job.destination_of_turn hturn, ?_⟩
    rw [hpersist, Progress.files_told]
    rfl

/-- A document was put in place last of all. -/
theorem Course.persisted_of_ok (h : Course m config input output p result p')
    (hok : result = .ok report) :
    ∃ (staged : StagedOutput) (left : Files), staged.destination = output ∧
      staged.persist.run.run left = (.ok (), p'.files) := by
  cases h with
  | missing | unread | unwritten => cases hok
  | tried _ _ _ hchain => exact hchain.persisted_of_ok hok

/-! ## Courses -/

/-- Of a conversion that begins, it is told first that the body is ready. -/
theorem Course.exists_told (h : Course m config input output p result p')
    (hrecording : config.observer = some .recording)
    (hbegins : config.Begins m input text p.files) :
    ∃ told, p'.events = p.events ++
        .htmlReady (Body.ofMarkdown config.anchors text).html.utf8ByteSize :: told ∧
      (config.job output text).Told (config.candidates m p.files) p.files result told := by
  have hready (fs : Files) : ((config.job output text).ready p fs).events = p.events ++
      [.htmlReady (Body.ofMarkdown config.anchors text).html.utf8ByteSize] :=
    Progress.events_told hrecording p _
  obtain ⟨hbackend, hread⟩ := hbegins
  cases h with
  | missing hmissing => exact absurd hbackend hmissing
  | unread _ hread' =>
    rw [hread] at hread'
    cases hread'
  | unwritten _ hread' hemit =>
    rw [hread] at hread'
    cases hread'
    obtain ⟨path, cause, hpath, rfl⟩ := Job.failure_of_emitHtml hemit
    exact ⟨[], hready _, .unwritten hpath hemit⟩
  | tried _ hread' hemit hchain =>
    rw [hread] at hread'
    cases hread'
    obtain ⟨records, last, hlost, hends, hevents⟩ := hchain.events hrecording
    refine ⟨_, ?_, .tried hemit hlost hends⟩
    rw [hevents, hready, List.append_assoc, List.singleton_append]

/-- A conversion that does not begin ends at once. -/
theorem Course.of_not_begins (h : Course m config input output p result p')
    (hnot : ∀ text, ¬ config.Begins m input text p.files) :
    p' = p ∧ ((∃ missing guidance, result = .error (.missingCapability missing guidance)) ∨
      ∃ e, readSource p.files input = .error e ∧ result = .error e) := by
  cases h with
  | missing => exact ⟨rfl, .inl ⟨_, _, rfl⟩⟩
  | unread _ hread => exact ⟨rfl, .inr ⟨_, hread, rfl⟩⟩
  | unwritten hbackend hread | tried hbackend hread => exact absurd ⟨hbackend, hread⟩ (hnot _)

/-- What is told of a conversion, and its result, if it begins and if it does not. -/
theorem Course.told_cases (h : Course m config input output p result p')
    (hrecording : config.observer = some .recording) (hnew : p.events = []) :
    (∃ text told, config.Begins m input text p.files ∧
      p'.events = .htmlReady (Body.ofMarkdown config.anchors text).html.utf8ByteSize :: told ∧
      (config.job output text).Told (config.candidates m p.files) p.files result told) ∨
    (p'.events = [] ∧ ((∃ missing guidance, result = .error (.missingCapability missing guidance)) ∨
      ∃ e, readSource p.files input = .error e ∧ result = .error e)) := by
  by_cases hbegins : ∃ text, config.Begins m input text p.files
  · obtain ⟨text, hbegins⟩ := hbegins
    obtain ⟨told, hevents, htold⟩ := h.exists_told hrecording hbegins
    rw [hnew, List.nil_append] at hevents
    exact .inl ⟨text, told, hbegins, hevents, htold⟩
  · obtain ⟨rfl, hresult⟩ := h.of_not_begins fun text hbegins' => hbegins ⟨text, hbegins'⟩
    exact .inr ⟨hnew, hresult⟩

section Traces

variable (h : Course m config input output p result p')
variable (hrecording : config.observer = some .recording) (hnew : p.events = [])

include h hrecording hnew

/-- Nothing is told of a conversion exactly if it does not begin. -/
theorem Course.events_eq_nil_iff : p'.events = [] ↔
    (∃ missing guidance, result = .error (.missingCapability missing guidance)) ∨
      ∃ e, readSource p.files input = .error e ∧ result = .error e := by
  rcases h.told_cases hrecording hnew with ⟨text, told, hbegins, hevents, htold⟩ | ⟨hnil, hresult⟩
  · constructor
    · intro hnil
      rw [hnil] at hevents
      cases hevents
    · rintro (⟨missing, guidance, rfl⟩ | ⟨e, hunread, -⟩)
      · rcases htold.result_cases with ⟨_, h⟩ | ⟨_, h⟩ | ⟨_, _, h⟩ <;> cases h
      · rw [hbegins.2] at hunread
        cases hunread
  · exact ⟨fun _ => hresult, fun _ => hnil⟩

/-- A report tells all that was told. -/
theorem Course.events_of_ok (hok : result = .ok report) :
    p'.events = .htmlReady report.htmlBytes :: report.attempts.flatMap (·.events output) ∧
      [.started report.backend, .succeeded report.backend output] <:+ p'.events := by
  rcases h.told_cases hrecording hnew with ⟨text, told, -, hevents, htold⟩ |
    ⟨-, ⟨missing, guidance, hresult⟩ | ⟨e, -, hresult⟩⟩
  · obtain ⟨hattempts, hsize, hsuffix⟩ := htold.of_ok hok
    rw [hevents, hsize]
    exact ⟨by rw [hattempts]; rfl, hsuffix.trans (List.suffix_cons _ _)⟩
  · rw [hok] at hresult
    cases hresult
  · rw [hok] at hresult
    cases hresult

/-- The errors of all candidates tell all that was told of them. -/
theorem Course.events_of_exhausted (hexhausted : result = .error (.allBackendsExhausted errors)) :
    ∃ text, config.Begins m input text p.files ∧
      errors.length = (config.candidates m p.files).length ∧
      p'.events = .htmlReady (Body.ofMarkdown config.anchors text).html.utf8ByteSize ::
        ((config.candidates m p.files).zip errors).flatMap fun (c, e) => c.events e := by
  rcases h.told_cases hrecording hnew with ⟨text, told, hbegins, hevents, htold⟩ |
    ⟨-, ⟨missing, guidance, hresult⟩ | ⟨e, hunread, hresult⟩⟩
  · obtain ⟨hlength, hall⟩ := htold.of_exhausted hexhausted
    exact ⟨text, hbegins, hlength, by rw [hevents, hall]⟩
  · rw [hexhausted] at hresult
    cases hresult
  · rw [hexhausted] at hresult
    cases hresult
    cases isOfSource_of_readSource hunread

/-- A success is told last, and only of a document. -/
theorem Course.of_succeeded {i : Nat} {name path : String}
    (hi : p'.events[i]? = some (.succeeded name path)) :
    i + 1 = p'.events.length ∧ path = output ∧ ∃ report, result = .ok report := by
  rcases h.told_cases hrecording hnew with ⟨text, told, -, hevents, htold⟩ | ⟨hnil, -⟩
  · rw [hevents] at hi ⊢
    cases i with
    | zero => cases hi
    | succ i =>
      obtain ⟨hlast, hpath, hok⟩ := htold.of_succeeded hi
      exact ⟨by rw [List.length_cons, hlast], hpath, hok⟩
  · rw [hnil] at hi
    cases hi

/-- A start is told last exactly if the file of a turn could not be made or put in place. -/
theorem Course.getLast?_started : (∃ name, p'.events.getLast? = some (.started name)) ↔
    ∃ text emitted cause, config.Begins m input text p.files ∧
      (config.job output text).emitHtml.run.run p.files = (.ok (), emitted) ∧
      result = .error (.outputWriteFailed output cause) := by
  rcases h.told_cases hrecording hnew with ⟨text, told, hbegins, hevents, htold⟩ | ⟨hnil, hresult⟩
  · have hlast (name : String) : p'.events.getLast? = some (.started name) ↔
        told.getLast? = some (.started name) := by
      rw [hevents]
      cases told with
      | nil => simp
      | cons event told => rw [List.getLast?_cons_cons]
    simp only [hlast]
    rw [htold.getLast?_started]
    constructor
    · rintro ⟨⟨emitted, hemit⟩, cause, hresult⟩
      exact ⟨text, emitted, cause, hbegins, hemit, hresult⟩
    · rintro ⟨text', emitted, cause, hbegins', hemit, hresult⟩
      obtain rfl := hbegins.unique hbegins'
      exact ⟨⟨emitted, hemit⟩, cause, hresult⟩
  · constructor
    · rintro ⟨name, hname⟩
      rw [hnil] at hname
      cases hname
    · rintro ⟨text, emitted, cause, hbegins, -, rfl⟩
      rcases hresult with ⟨missing, guidance, hresult⟩ | ⟨e, hunread, -⟩
      · cases hresult
      · rw [hbegins.2] at hunread
        cases hunread

end Traces

/-! ## Conversions -/

/-- What an observer is told of a conversion agrees with the result, and makes no difference to
it. -/
theorem convert_events (m : Machine) (config : Config) (input output : String) (fs : Files)
    (hrecording : config.observer = some .recording) :
    let run := (convert m config input output).run.run ⟨fs, [], []⟩
    let cs := config.candidates m fs
    let size (text : String) := (Body.ofMarkdown config.anchors text).html.utf8ByteSize
    -- Nothing is told if no backend is installed or the source cannot be read.
    (run.2.events = [] ↔
      (∃ missing guidance, run.1 = .error (.missingCapability missing guidance)) ∨
        ∃ e, readSource fs input = .error e ∧ run.1 = .error e) ∧
    -- Otherwise the size of the body is told, then what becomes of the candidates in their order.
    (∀ text, config.Begins m input text fs → ∃ told, run.2.events = .htmlReady (size text) :: told ∧
      (config.job output text).Told cs fs run.1 told) ∧
    -- A success is told exactly of a document, once and last.
    ((∃ report, run.1 = .ok report) ↔
      ∃ name, [.started name, .succeeded name output] <:+ run.2.events) ∧
    (∀ i name path, run.2.events[i]? = some (.succeeded name path) →
      i + 1 = run.2.events.length ∧ path = output) ∧
    -- A start is told last exactly if the file of a turn could not be made or put in place.
    ((∃ name, run.2.events.getLast? = some (.started name)) ↔
      ∃ text emitted cause, config.Begins m input text fs ∧
        (config.job output text).emitHtml.run.run fs = (.ok (), emitted) ∧
        run.1 = .error (.outputWriteFailed output cause)) ∧
    -- The report, and the errors of all backends, tell the same as the events.
    (∀ report, run.1 = .ok report → run.2.events =
      .htmlReady report.htmlBytes :: report.attempts.flatMap (·.events output)) ∧
    (∀ errors, run.1 = .error (.allBackendsExhausted errors) →
      ∃ text, config.Begins m input text fs ∧ errors.length = cs.length ∧ run.2.events =
        .htmlReady (size text) :: (cs.zip errors).flatMap fun (c, e) => c.events e) ∧
    -- When the success is told, the file has been put in place, and nothing else is left to do.
    (∀ report e, run.1 = .ok report →
      let broken := (convertTelling (Run.breakingOff config.observer e) m config input
        output).run.run ⟨fs, [], []⟩
      broken.1 = .error e ∧ broken.2.files = run.2.files ∧
        run.2.events = broken.2.events ++ [.succeeded report.backend output] ∧
        ∃ (staged : StagedOutput) (left : Files), staged.destination = output ∧
          staged.persist.run.run left = (.ok (), broken.2.files)) ∧
    -- With another observer, or none, the result and the files are the same.
    ∀ observer, let other := (convert m { config with observer } input output).run.run ⟨fs, [], []⟩
      other.1 = run.1 ∧ other.2.files = run.2.files := by
  intro run cs size
  have hcourse := course_convert m config input output ⟨fs, [], []⟩
  refine ⟨hcourse.events_eq_nil_iff hrecording rfl, fun text => hcourse.exists_told hrecording,
    ⟨fun ⟨report, hok⟩ => ?_, fun ⟨name, hsuffix⟩ => ?_⟩, fun i name path hi => ?_,
    hcourse.getLast?_started hrecording rfl, fun report hok => ?_,
    fun errors => hcourse.events_of_exhausted hrecording rfl, ?_, ?_⟩
  · exact ⟨report.backend, (hcourse.events_of_ok hrecording rfl hok).2⟩
  · obtain ⟨before, hevents⟩ := hsuffix
    have hlast : run.2.events[before.length + 1]? = some (.succeeded name output) := by
      rw [← hevents, List.getElem?_append_right (by omega)]
      simp
    exact (hcourse.of_succeeded hrecording rfl hlast).2.2
  · obtain ⟨hlast, hpath, -⟩ := hcourse.of_succeeded hrecording rfl hi
    exact ⟨hlast, hpath⟩
  · exact (hcourse.events_of_ok hrecording rfl hok).1
  · intro report e hok broken
    obtain ⟨herror, hprogress⟩ := (convert_breakingOff m config input output e _).of_ok report hok
    have hfiles : run.2.files = broken.2.files := by
      rw [hprogress, Progress.files_told]
    refine ⟨herror, hfiles.symm, ?_, ?_⟩
    · rw [hprogress, Progress.events_told hrecording]
    · rw [← hfiles]
      exact hcourse.persisted_of_ok hok
  · intro observer other
    obtain ⟨hresult, hprogress⟩ :=
      convert_alike m config observer input output ⟨fs, [], []⟩ ⟨fs, [], []⟩ ⟨rfl, rfl⟩
    exact ⟨hresult, hprogress.files⟩

/-- Five backends with the fourth as the winner: the observer is told of the three that lost as
their records have it, and at last of the success. -/
theorem convert_events_fourth :
    let config := { Sample.config Sample.fiveScripts (some "b.pdf") with
      observer := some .recording }
    let run := (convert Sample.machine config "a.md" "b.pdf").run.run
      ⟨Sample.files pdfMagic, [], []⟩
    config.observer = some .recording ∧ ∃ report, run.1 = .ok report ∧
      run.2.events = .htmlReady report.htmlBytes :: report.attempts.flatMap (·.events "b.pdf") ∧
      ∃ name, [.started name, .succeeded name "b.pdf"] <:+ run.2.events := by
  intro config run
  obtain ⟨-, -, hok, -, -, htold, -, -, hothers⟩ := convert_events Sample.machine config "a.md"
    "b.pdf" (Sample.files pdfMagic) rfl
  obtain ⟨report, hreport⟩ := Sample.exists_report (Sample.emitHtml_files pdfMagic _ "# x")
  -- The small conversion has no observer; with this one its result is the same.
  have hresult : run.1 = .ok report := (hothers none).1.symm.trans hreport
  exact ⟨rfl, report, hresult, htold report hresult, hok.1 ⟨report, hresult⟩⟩

end DocPress.Conversion
