import DocPress.Proofs.Conversion.Script

/-!
# DocPress.Proofs.Conversion.Fallback

The fallback chain of a conversion: the first backend that makes a PDF file makes the document, and
the report tells what became of all that were considered before it. If there is no such backend, the
failure holds one error for each.
-/

namespace DocPress.Conversion

open DocPress.Backend DocPress.Document DocPress.FileSystem DocPress.Program DocPress.Text

variable {records : List AttemptRecord}

/-- Candidates stand at their positions. -/
theorem installedPositions_take (config : Config) (m : Machine) (fs : Files) (n : Nat) :
    installedPositions ((config.candidates m fs).take n) = (List.range n).filter fun i =>
      ((config.candidates m fs)[i]?).any (·.availability.isInstalled) := by
  induction n with
  | zero => simp [installedPositions]
  | succ n ih =>
    have hsplit (a b : List Candidate) :
        installedPositions (a ++ b) = installedPositions a ++ installedPositions b := by
      rw [installedPositions, List.filter_append, List.map_append]
      rfl
    have hget := getElem?_candidates config m fs n
    rw [List.take_add_one, hsplit, ih, List.range_succ, List.filter_append]
    congr 1
    cases hb : (config.registry m)[n]? with
    | none =>
      rw [hb] at hget
      simp [installedPositions, hget]
    | some b =>
      rw [hb] at hget
      cases hinstalled : (b.probe fs).isInstalled <;>
        simp [installedPositions, hget, hinstalled]

/-- Where every record stands for an error, the errors are as many, in the same order. -/
theorem map_some_errors (h : ∀ r ∈ records, r.error?.isSome = true) :
    (records.filterMap (·.error?)).map some = records.map (·.error?) := by
  induction records with
  | nil => rfl
  | cons r records ih =>
    obtain ⟨hr, hrecords⟩ := List.forall_mem_cons.1 h
    obtain ⟨e, he⟩ := Option.isSome_iff_exists.1 hr
    rw [List.filterMap_cons_some he, List.map_cons, List.map_cons, ih hrecords, he]

/-- The backends have their turns in order until one wins, and exactly those that have had a turn
were called; if none wins, the failure holds the errors of all of them. -/
theorem convert_fallback (m : Machine) (config : Config) (input output text : String)
    (fs ready : Files) (hbackend : config.HasBackend m fs) (hread : readSource fs input = .ok text)
    (hemit : (config.job output text).emitHtml.run.run fs = (.ok (), ready))
    (hclear : (config.job output text).Unobstructed (config.candidates m fs) ready) :
    let job := config.job output text
    let cs := config.candidates m fs
    let run := (convert m config input output).run.run ⟨fs, [], []⟩
    (∀ k, job.FirstWinner cs ready k →
      ∃ c report, cs[k]? = some c ∧ run.1 = .ok report ∧ report.backend = c.backend.name ∧
        report.attempts.length = k + 1 ∧
        (∀ i < k, ∃ c r, cs[i]? = some c ∧ report.attempts[i]? = some r ∧
          job.Lost c (job.filesBefore cs ready i) r) ∧
        (∃ duration, report.attempts[k]? = some ⟨c.backend.name, .succeeded duration⟩) ∧
        run.2.calls.map (·.position) =
          (List.range (k + 1)).filter fun i => (cs[i]?).any (·.availability.isInstalled)) ∧
    ((∀ k, ¬ job.WinsAt cs ready k) →
      ∃ errors, run.1 = .error (.allBackendsExhausted errors) ∧ errors.length = cs.length ∧
        (∀ i < cs.length, ∃ c r, cs[i]? = some c ∧ errors[i]? = r.error? ∧
          job.Lost c (job.filesBefore cs ready i) r) ∧
        run.2.calls.map (·.position) =
          (List.range cs.length).filter fun i => (cs[i]?).any (·.availability.isInstalled)) := by
  intro job cs run
  have hchain : Chain job cs [] (job.ready ⟨fs, [], []⟩ ready) run.1 run.2 :=
    (course_convert m config input output ⟨fs, [], []⟩).chain hbackend hread hemit
  have hcalls : (job.ready ⟨fs, [], []⟩ ready).calls = [] := Progress.calls_told ..
  constructor
  · intro k hk
    obtain ⟨c, size, records, hc, hresult, hlost, hpositions⟩ := hchain.of_firstWinner hclear hk
    -- The winner's own record comes last, so those before it are the ones that were lost.
    have hrecord (i : Nat) (hi : i < k) (r : AttemptRecord) (hr : records[i]? = some r) :
        (job.report c size ([] ++ records)).attempts[i]? = some r := by
      rw [Job.report, List.nil_append, List.getElem?_append_left (by rwa [hlost.length])]
      exact hr
    refine ⟨c, _, hc, hresult, rfl, ?_, ?_, ⟨0, ?_⟩, ?_⟩
    · simp [Job.report, hlost.length]
    · intro i hi
      obtain ⟨c', r, hc', hr, hi'⟩ := hlost.lost i hi
      exact ⟨c', r, hc', hrecord i hi r hr, hi'⟩
    · simp [Job.report, hlost.length]
    · rw [hpositions, hcalls]
      exact installedPositions_take config m fs (k + 1)
  · intro hnone
    obtain ⟨records, hresult, hlost, herrors, hpositions⟩ := hchain.of_noWinner hclear hnone
    -- Every record stands for an error here, so errors and records have the same positions.
    have hmap := map_some_errors herrors
    refine ⟨_, hresult, ?_, ?_, ?_⟩
    · simpa [hlost.length] using congrArg List.length hmap
    · intro i hi
      obtain ⟨c, r, hc, hr, hi'⟩ := hlost.lost i hi
      refine ⟨c, r, hc, ?_, hi'⟩
      have hget := congrArg (·[i]?) hmap
      obtain ⟨e, he⟩ := Option.isSome_iff_exists.1 (herrors r (List.mem_of_getElem? hr))
      rw [he]
      simpa [hr, he] using hget
    · have htake := installedPositions_take config m fs (config.candidates m fs).length
      rw [List.take_length] at htake
      rw [hpositions, hcalls]
      exact htake

/-- Five backends: the first is missing, the second panics over a PDF file, the third deletes its
file. The fourth wins with four records, and the fifth is not called. -/
theorem convert_fallback_fourth :
    let run := (convert Sample.machine (Sample.config Sample.fiveScripts (some "b.pdf")) "a.md"
      "b.pdf").run.run ⟨Sample.files pdfMagic, [], []⟩
    ∃ report, run.1 = .ok report ∧ report.backend = "good" ∧ report.attempts.length = 4 ∧
      run.2.calls.map (·.position) = [1, 2, 3] := by
  have hbackend := Sample.hasBackend_five (some "b.pdf") (Sample.files pdfMagic)
  have hemit := Sample.emitHtml_files pdfMagic Sample.fiveScripts "# x"
  obtain ⟨-, hclear⟩ := Sample.chain hbackend hemit
  obtain ⟨hwinner, -⟩ := convert_fallback Sample.machine _ "a.md" "b.pdf" "# x" _ _ hbackend
    (Sample.readSource_files pdfMagic) hemit hclear
  obtain ⟨c, report, hc, hresult, hname, hlength, -, -, hcalls⟩ :=
    hwinner 3 (Sample.firstWinner _ _ _ _)
  rw [Sample.getElem?_candidates] at hc
  cases hc
  refine ⟨report, hresult, hname, hlength, ?_⟩
  rw [hcalls]
  simp only [Sample.getElem?_candidates]
  decide

end DocPress.Conversion
