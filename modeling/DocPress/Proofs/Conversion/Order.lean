import DocPress.Proofs.Conversion.Prepared
import DocPress.Proofs.Conversion.Script
import DocPress.Proofs.Conversion.Source

/-!
# DocPress.Proofs.Conversion.Order

In which order a conversion can fail:

1. No backend is installed. The report on capabilities says so, too, and in the same words.
2. The source cannot be read.
3. The HTML document cannot be written.
4. The backends have had their turns. If all of them have failed, then each one that is installed
   was called (`Chain.positions_of_exhausted`).

An earlier failure hides all later ones, and no backend is called before the turns.
-/

namespace DocPress.Conversion

open DocPress.Backend DocPress.Document DocPress.FileSystem DocPress.Program

variable {m : Machine} {config : Config} {input output text path guidance : String}
variable {missing : List String} {p p' : Progress} {result : Except Failure ConversionReport}
variable {job : Job} {cs : List Candidate} {attempts : List AttemptRecord} {e : Failure}
variable {errors : List BackendError} {fs left : Files}

/-! ## Turns -/

/-- Turns end with the failure of all backends, of the output, or with a report; what they fail with
is not the fault of anything before them. -/
theorem Chain.failure_of_turns (h : Chain job cs attempts p result p') (herror : result = .error e) :
    e.isOfSource = false ∧ ∀ missing guidance, e ≠ .missingCapability missing guidance := by
  rcases h.failure_of_error herror with ⟨errors, rfl⟩ | ⟨path, cause, rfl⟩ <;>
    exact ⟨rfl, by simp⟩

/-- If all candidates have failed, then all that are installed were called, in their order. -/
theorem Chain.positions_of_exhausted (h : Chain job cs attempts p result p')
    (hexhausted : result = .error (.allBackendsExhausted errors)) :
    p'.calls.map (·.position) = p.calls.map (·.position) ++ installedPositions cs := by
  induction h with
  | exhausted => rw [installedPositions, List.filter_nil, List.map_nil, List.append_nil]
  | @lost c rest attempts p record next result p' hloses hrest ih =>
    rw [ih hexhausted, hloses.positions, installedPositions_cons c rest, List.append_assoc]
  | unstaged hinstalled hturn =>
    obtain ⟨⟨cause, rfl⟩, -⟩ := stage_eq_error (Job.stage_of_turn_error hturn)
    cases hexhausted
  | unpersisted hinstalled hturn hverdict hpersist =>
    obtain ⟨⟨cause, rfl⟩, -⟩ := persist_eq_error hpersist
    cases hexhausted
  | succeeded => cases hexhausted

/-- Some candidate is installed if some backend is. -/
theorem installedPositions_ne_nil (h : config.HasBackend m fs) :
    installedPositions (config.candidates m fs) ≠ [] := by
  obtain ⟨b, hb, hinstalled⟩ := h
  obtain ⟨i, hi⟩ := List.mem_iff_getElem?.1 hb
  have hmem : i ∈ installedPositions (config.candidates m fs) :=
    List.mem_map.2 ⟨⟨i, b, b.probe fs⟩,
      List.mem_filter.2 ⟨mem_candidates_iff.2 ⟨i, b, hi, rfl⟩, hinstalled⟩, rfl⟩
  exact List.ne_nil_of_mem hmem

/-! ## Courses -/

namespace Course

variable (h : Course m config input output p result p')

include h

/-- A conversion fails for want of a backend exactly if the report on capabilities says so. -/
theorem missing_iff : result = .error (.missingCapability missing guidance) ↔
    (checkCapabilities m config p.files).isViable = false ∧
      missing = (checkCapabilities m config p.files).missing ∧
      guidance = (checkCapabilities m config p.files).installGuidance := by
  have hviable (hbackend : config.HasBackend m p.files) :
      (checkCapabilities m config p.files).isViable = true := isViable_iff.2 hbackend
  cases h with
  | missing hmissing =>
    have hnot : (checkCapabilities m config p.files).isViable = false :=
      Bool.eq_false_iff.2 fun hviable => hmissing (isViable_iff.1 hviable)
    simp only [hnot, Except.error.injEq, Failure.missingCapability.injEq, true_and]
    simp only [@eq_comm _ missing, @eq_comm _ guidance]
  | unread hbackend hread =>
    rw [hviable hbackend]
    constructor
    · intro hresult
      cases hresult
      cases isOfSource_of_readSource hread
    · simp
  | unwritten hbackend hread hemit =>
    rw [hviable hbackend]
    obtain ⟨path, cause, -, rfl⟩ := Job.failure_of_emitHtml hemit
    simp
  | tried hbackend hread hemit hchain =>
    rw [hviable hbackend]
    constructor
    · intro hresult
      exact absurd rfl ((hchain.failure_of_turns hresult).2 missing guidance)
    · simp

/-- With a backend, a conversion fails as a source exactly if the source cannot be read. -/
theorem unread_iff (hbackend : config.HasBackend m p.files) :
    readSource p.files input = .error e ↔ result = .error e ∧ e.isOfSource = true := by
  cases h with
  | missing hmissing => exact absurd hbackend hmissing
  | unread _ hread =>
    rw [hread]
    constructor
    · intro hresult
      cases hresult
      exact ⟨rfl, isOfSource_of_readSource hread⟩
    · rintro ⟨hresult, -⟩
      cases hresult
      rfl
  | unwritten _ hread hemit =>
    obtain ⟨path, cause, -, rfl⟩ := Job.failure_of_emitHtml hemit
    rw [hread]
    constructor
    · intro hresult
      cases hresult
    · rintro ⟨hresult, hsource⟩
      cases hresult
      cases hsource
  | tried _ hread hemit hchain =>
    rw [hread]
    constructor
    · intro hresult
      cases hresult
    · rintro ⟨hresult, hsource⟩
      rw [(hchain.failure_of_turns hresult).1] at hsource
      cases hsource

/-- If the HTML document cannot be written, that is the failure. -/
theorem of_unwritten (hbackend : config.HasBackend m p.files)
    (hread : readSource p.files input = .ok text)
    (hemit : (config.job output text).emitHtml.run.run p.files = (.error e, left)) :
    result = .error e ∧ p'.calls = p.calls := by
  cases h with
  | missing hmissing => exact absurd hbackend hmissing
  | unread _ hread' =>
    rw [hread] at hread'
    cases hread'
  | unwritten _ hread' hemit' =>
    rw [hread] at hread'
    cases hread'
    rw [hemit] at hemit'
    cases hemit'
    exact ⟨rfl, Progress.calls_told ..⟩
  | tried _ hread' hemit' =>
    rw [hread] at hread'
    cases hread'
    rw [hemit] at hemit'
    cases hemit'

/-- A conversion that does not begin calls no backend. -/
theorem calls_of_not_begins (hnot : ∀ text, ¬ config.Begins m input text p.files) :
    p'.calls = p.calls := by
  cases h with
  | missing | unread => rfl
  | unwritten hbackend hread | tried hbackend hread => exact absurd ⟨hbackend, hread⟩ (hnot _)

/-- If all backends have failed, then all that are installed were called. -/
theorem positions_of_exhausted (hnew : p.calls = [])
    (hexhausted : result = .error (.allBackendsExhausted errors)) :
    p'.calls.map (·.position) = installedPositions (config.candidates m p.files) ∧
      config.HasBackend m p.files := by
  cases h with
  | missing => cases hexhausted
  | unread _ hread =>
    cases hexhausted
    cases isOfSource_of_readSource hread
  | unwritten _ _ hemit =>
    obtain ⟨path, cause, -, rfl⟩ := Job.failure_of_emitHtml hemit
    cases hexhausted
  | tried hbackend hread hemit hchain =>
    refine ⟨?_, hbackend⟩
    rw [hchain.positions_of_exhausted hexhausted, Job.ready, Progress.calls_told, hnew]
    rfl

end Course

/-! ## Conversions -/

/-- Which failure a conversion ends with if several could be had, and which backends were called
before. -/
theorem convert_order (m : Machine) (config : Config) (input output : String) (fs : Files) :
    let run := (convert m config input output).run.run ⟨fs, [], []⟩
    let report := checkCapabilities m config fs
    -- Without a backend the failure is that of the report, whatever the source is.
    (∀ missing guidance, run.1 = .error (.missingCapability missing guidance) ↔
      report.isViable = false ∧ missing = report.missing ∧ guidance = report.installGuidance) ∧
    (report.isViable = false → run.2.calls = []) ∧
    -- With one, the source comes first.
    (report.isViable = true → ∀ e, readSource fs input = .error e ↔
      run.1 = .error e ∧ e.isOfSource = true) ∧
    (∀ e, readSource fs input = .error e → run.2.calls = []) ∧
    -- Then the HTML document is written.
    (report.isViable = true → ∀ text path e left, readSource fs input = .ok text →
      config.emitHtml = some path →
      (writeHtml path (renderHtml text .css config)).run.run fs = (.error e, left) →
      (∃ cause, run.1 = .error (.outputWriteFailed path cause)) ∧ run.2.calls = []) ∧
    -- All backends have failed only if all that are installed were called, and some are.
    (∀ errors, run.1 = .error (.allBackendsExhausted errors) →
      run.2.calls.map (·.position) = installedPositions (config.candidates m fs) ∧
        run.2.calls ≠ []) := by
  intro run report
  have hcourse := course_convert m config input output ⟨fs, [], []⟩
  refine ⟨fun missing guidance => hcourse.missing_iff, fun hnot => ?_, fun hviable e => ?_,
    fun e hread => ?_, fun hviable text path e left hread hpath hwrite => ?_,
    fun errors hexhausted => ?_⟩
  · refine hcourse.calls_of_not_begins fun text hbegins => ?_
    rw [show report.isViable = true from isViable_iff.2 hbegins.1] at hnot
    cases hnot
  · exact hcourse.unread_iff (isViable_iff.1 hviable)
  · refine hcourse.calls_of_not_begins fun text hbegins => ?_
    rw [show readSource fs input = .ok text from hbegins.2] at hread
    cases hread
  · have hemit : (config.job output text).emitHtml.run.run fs = (.error e, left) := by
      rw [Job.emitHtml, show (config.job output text).config.emitHtml = some path from hpath]
      exact hwrite
    obtain ⟨hresult, hcalls⟩ := hcourse.of_unwritten (isViable_iff.1 hviable) hread hemit
    obtain ⟨path', cause, hpath', rfl⟩ := Job.failure_of_emitHtml hemit
    rw [show (config.job output text).config.emitHtml = some path from hpath] at hpath'
    cases hpath'
    exact ⟨⟨cause, hresult⟩, hcalls⟩
  · obtain ⟨hpositions, hbackend⟩ := hcourse.positions_of_exhausted rfl hexhausted
    refine ⟨hpositions, fun hnone => installedPositions_ne_nil hbackend ?_⟩
    rw [← hpositions, show run.2.calls = [] from hnone, List.map_nil]

/-- Three backends that all lose: the first is missing, so only the other two are called. -/
theorem convert_order_three :
    let run := (convert Sample.machine (Sample.config Sample.threeScripts (some "b.pdf")) "a.md"
      "b.pdf").run.run ⟨Sample.files pdfMagic, [], []⟩
    (∃ errors, run.1 = .error (.allBackendsExhausted errors)) ∧
      run.2.calls.map (·.position) = [1, 2] := by
  intro run
  obtain ⟨errors, hexhausted⟩ :=
    Sample.exists_errors (Sample.emitHtml_files pdfMagic Sample.threeScripts "# x")
  obtain ⟨-, -, -, -, -, hcalls⟩ := convert_order Sample.machine
    (Sample.config Sample.threeScripts (some "b.pdf")) "a.md" "b.pdf" (Sample.files pdfMagic)
  exact ⟨⟨errors, hexhausted⟩, (hcalls errors hexhausted).1⟩

end DocPress.Conversion
