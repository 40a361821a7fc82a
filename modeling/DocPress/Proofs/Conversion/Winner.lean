import DocPress.Proofs.Conversion.Course

/-!
# DocPress.Proofs.Conversion.Winner

Which candidate makes the document, and what is recorded of the others:

1. The winner is the first candidate that is installed, says that it has rendered, and leaves a file
   that begins as a PDF file in the place that it was given (`Job.FirstWinner`).
2. Each candidate before it is recorded with the reason why it was skipped or the error of its turn
   (`Job.Lost`). None behind it is called.
3. If there is no winner, the same errors make up the failure.

Backends are arbitrary here: they may do anything to the files. So the files with which a candidate
has its turn are part of what is said (`Job.filesBefore`).
-/

namespace DocPress.Conversion

open DocPress.Backend DocPress.Document DocPress.FileSystem DocPress.Program

/-! ## Turns in order -/

namespace Job

/-- The files after a turn that was not won. -/
def filesAfter (job : Job) (c : Candidate) (fs : Files) : Files :=
  match c.availability with
  | .missing _ => fs
  | .installed _ => match job.turn c fs with
    | .error (_, fs') => fs'
    | .ok t => t.discarded

/-- The files when the candidate at a position has its turn, if none before it has won. -/
def filesBefore (job : Job) : List Candidate → Files → Nat → Files
  | c :: cs, fs, i + 1 => job.filesBefore cs (job.filesAfter c fs) i
  | _, fs, _ => fs

/-- The candidate at a position wins: it is installed, says that it has rendered, and its staging
file then has four bytes or more and begins as a PDF file. -/
def WinsAt (job : Job) (cs : List Candidate) (fs : Files) (i : Nat) : Prop :=
  ∃ c t content executable, cs[i]? = some c ∧ c.availability.isInstalled = true ∧
    job.turn c (job.filesBefore cs fs i) = .ok t ∧ t.outcome = .rendered ∧
    t.left.stat t.staged.path = .ok (.file content executable) ∧
    4 ≤ content.length ∧ pdfMagic <+: content

/-- The first position at which a candidate wins. -/
structure FirstWinner (job : Job) (cs : List Candidate) (fs : Files) (k : Nat) : Prop where
  wins : job.WinsAt cs fs k
  first : ∀ i < k, ¬ job.WinsAt cs fs i

/-- What is recorded of a candidate that has not won: the reason for which it is missing, or the
error of its turn. -/
inductive Lost (job : Job) (c : Candidate) (fs : Files) : AttemptRecord → Prop
  | skipped (hmissing : c.availability = .missing reason) :
      Lost job c fs ⟨c.backend.name, .skipped reason⟩
  | failed (hinstalled : c.availability = .installed location) (hturn : job.turn c fs = .ok t)
      (hverdict : t.verdict c.backend.name = .error e) :
      Lost job c fs ⟨c.backend.name, .failed e⟩

/-- Every staging file that is asked for can be made, and the winner's can be put in place. -/
structure Unobstructed (job : Job) (cs : List Candidate) (fs : Files) : Prop where
  stage : ∀ i c, cs[i]? = some c → c.availability.isInstalled = true →
    (∀ j < i, ¬ job.WinsAt cs fs j) → ∃ t, job.turn c (job.filesBefore cs fs i) = .ok t
  persist : ∀ i c t, cs[i]? = some c → job.turn c (job.filesBefore cs fs i) = .ok t →
    job.FirstWinner cs fs i → ∃ fs', t.staged.persist.run.run t.left = (.ok (), fs')

variable {job : Job} {c : Candidate} {cs : List Candidate} {fs : Files} {t : Turn} {i k : Nat}

/-! ## The first turn and the others -/

@[simp] theorem filesBefore_zero (job : Job) (cs : List Candidate) (fs : Files) :
    job.filesBefore cs fs 0 = fs := by
  cases cs <;> rfl

/-- The first candidate wins if its turn brings a PDF file. -/
theorem winsAt_zero_iff (hinstalled : c.availability = .installed location)
    (hturn : job.turn c fs = .ok t) :
    job.WinsAt (c :: cs) fs 0 ↔ ∃ size, t.verdict c.backend.name = .ok size := by
  have hverdict : (∃ size, t.verdict c.backend.name = .ok size) ↔ t.outcome = .rendered ∧
      ∃ content executable, t.left.stat t.staged.path = .ok (.file content executable) ∧
        pdfMagic <+: content := by
    unfold Turn.verdict
    cases t.outcome <;> simp [validatePdf_eq_ok_iff]
  rw [hverdict]
  constructor
  · rintro ⟨c', t', content, executable, hc, -, hturn', hrendered, hstat, -, hmagic⟩
    cases hc
    rw [filesBefore_zero, hturn] at hturn'
    cases hturn'
    exact ⟨hrendered, content, executable, hstat, hmagic⟩
  · rintro ⟨hrendered, content, executable, hstat, hmagic⟩
    refine ⟨c, t, content, executable, rfl, by rw [hinstalled]; rfl, ?_, hrendered, hstat, ?_,
      hmagic⟩
    · rwa [filesBefore_zero]
    · rw [← length_pdfMagic]
      exact hmagic.length_le

theorem not_winsAt_nil : ¬ job.WinsAt [] fs i := by
  rintro ⟨c, t, content, executable, hc, -⟩
  contradiction

/-- Whether a later candidate wins is said of the files after the first turn. -/
theorem winsAt_succ_iff :
    job.WinsAt (c :: cs) fs (i + 1) ↔ job.WinsAt cs (job.filesAfter c fs) i := Iff.rfl

/-- If the first candidate does not win, the first winner is that of the others. -/
theorem FirstWinner.tail (h : job.FirstWinner (c :: cs) fs k)
    (hzero : ¬ job.WinsAt (c :: cs) fs 0) :
    ∃ j, k = j + 1 ∧ job.FirstWinner cs (job.filesAfter c fs) j := by
  cases k with
  | zero => exact absurd h.wins hzero
  | succ j => exact ⟨j, rfl, h.wins, fun i hi => h.first (i + 1) (by omega)⟩

/-- Once the first candidate has lost, the others are unobstructed by what it leaves. -/
theorem Unobstructed.tail (h : job.Unobstructed (c :: cs) fs)
    (hzero : ¬ job.WinsAt (c :: cs) fs 0) : job.Unobstructed cs (job.filesAfter c fs) where
  stage i c' hc' hinstalled hfirst := by
    refine h.stage (i + 1) c' hc' hinstalled fun j hj => ?_
    cases j with
    | zero => exact hzero
    | succ j => exact hfirst j (by omega)
  persist i c' t hc' hturn hwinner := by
    refine h.persist (i + 1) c' t hc' hturn ⟨hwinner.wins, fun j hj => ?_⟩
    cases j with
    | zero => exact hzero
    | succ j => exact hwinner.first j (by omega)

end Job

/-! ## Candidates that lose -/

/-- The positions of the installed ones among candidates. -/
def installedPositions (cs : List Candidate) : List Nat :=
  (cs.filter (·.availability.isInstalled)).map (·.position)

section Loses

variable {job : Job} {c : Candidate} {cs : List Candidate} {p next : Progress}
variable {record : AttemptRecord}

/-- A candidate that loses in a chain has lost, and its record says why. -/
theorem Loses.lost (h : Loses job c p record next) : job.Lost c p.files record := by
  cases h with
  | skipped hmissing => exact .skipped hmissing
  | failed hinstalled hturn hverdict => exact .failed hinstalled hturn hverdict

/-- It leaves the files after its turn. -/
theorem Loses.files (h : Loses job c p record next) : next.files = job.filesAfter c p.files := by
  cases h with
  | skipped hmissing => simp only [Job.filesAfter, hmissing, Progress.files_told]
  | failed hinstalled hturn =>
    simp only [Job.filesAfter, hinstalled, hturn, Progress.files_told, Job.called]

/-- A candidate that loses was called if it is installed. -/
theorem Loses.positions (h : Loses job c p record next) : next.calls.map (·.position) =
    p.calls.map (·.position) ++ installedPositions [c] := by
  cases h with
  | skipped hmissing => simp [installedPositions, hmissing, Availability.isInstalled]
  | failed hinstalled =>
    simp [installedPositions, hinstalled, Availability.isInstalled, Job.called, Job.call]

/-- A candidate that loses does not win. -/
theorem Loses.not_winsAt (h : Loses job c p record next) : ¬ job.WinsAt (c :: cs) p.files 0 := by
  cases h with
  | skipped hmissing =>
    rintro ⟨c', t, content, executable, hc, hinstalled, -⟩
    cases hc
    rw [hmissing] at hinstalled
    contradiction
  | failed hinstalled hturn hverdict =>
    rw [Job.winsAt_zero_iff hinstalled hturn, hverdict]
    rintro ⟨size, hsize⟩
    cases hsize

/-- The record of a candidate that loses stands for an error. -/
theorem Loses.error?_record (h : Loses job c p record next) : record.error?.isSome = true := by
  cases h <;> rfl

end Loses

/-! ## Chains without obstacles -/

section Chains

variable {job : Job} {cs : List Candidate} {attempts : List AttemptRecord} {p p' : Progress}
variable {result : Except Failure ConversionReport} {k n : Nat} {fs : Files} {c : Candidate}
variable {r : AttemptRecord} {records : List AttemptRecord}

/-- Records of the first candidates, none of which has won. -/
structure Job.LostAll (job : Job) (cs : List Candidate) (fs : Files) (n : Nat)
    (records : List AttemptRecord) : Prop where
  length : records.length = n
  lost : ∀ i < n, ∃ c r, cs[i]? = some c ∧ records[i]? = some r ∧
    job.Lost c (job.filesBefore cs fs i) r

/-- One more candidate in front that has lost. -/
theorem Job.LostAll.cons (hlost : job.Lost c fs r)
    (h : job.LostAll cs (job.filesAfter c fs) n records) :
    job.LostAll (c :: cs) fs (n + 1) (r :: records) where
  length := by rw [List.length_cons, h.length]
  lost i hi := by
    cases i with
    | zero => exact ⟨c, r, rfl, rfl, by rwa [filesBefore_zero]⟩
    | succ i => exact h.lost i (by omega)

/-- Without obstacles the first turn is either lost or won. -/
theorem Job.Unobstructed.exists_turn (h : job.Unobstructed (c :: cs) fs)
    (hinstalled : c.availability = .installed location) : ∃ t, job.turn c fs = .ok t := by
  have hturn := h.stage 0 c rfl (by rw [hinstalled]; rfl) (by simp)
  rwa [filesBefore_zero] at hturn

/-- The winner's file can be put in place if it is the first candidate's. -/
theorem Job.Unobstructed.exists_persist (h : job.Unobstructed (c :: cs) fs)
    (hturn : job.turn c fs = .ok t) (hzero : job.WinsAt (c :: cs) fs 0) :
    ∃ fs', t.staged.persist.run.run t.left = (.ok (), fs') :=
  h.persist 0 c t rfl (by rwa [filesBefore_zero]) ⟨hzero, by simp⟩

/-- The installed ones among candidates, the first of them apart. -/
theorem installedPositions_cons (c : Candidate) (cs : List Candidate) :
    installedPositions (c :: cs) = installedPositions [c] ++ installedPositions cs := by
  rw [installedPositions, ← List.singleton_append, List.filter_append, List.map_append]
  rfl

/-- The winner makes the document. The induction is on the chain; each turn that is lost takes one
candidate off, and the first winner moves up by one. -/
theorem Chain.of_firstWinner (h : Chain job cs attempts p result p')
    (hclear : job.Unobstructed cs p.files) (hk : job.FirstWinner cs p.files k) :
    ∃ c size records, cs[k]? = some c ∧ result = .ok (job.report c size (attempts ++ records)) ∧
      job.LostAll cs p.files k records ∧
      p'.calls.map (·.position) =
        p.calls.map (·.position) ++ installedPositions (cs.take (k + 1)) := by
  induction h generalizing k with
  | exhausted => exact absurd hk.wins Job.not_winsAt_nil
  | @lost c rest attempts p record next result p' hloses hrest ih =>
    -- The winner is one of the others, which have their turns with the files after this one.
    obtain ⟨j, rfl, hj⟩ := hk.tail hloses.not_winsAt
    have hclear := hclear.tail hloses.not_winsAt
    rw [← hloses.files] at hclear hj
    obtain ⟨winner, size, records, hwinner, rfl, hlost, hcalls⟩ := ih hclear hj
    refine ⟨winner, size, record :: records, hwinner, ?_, ?_, ?_⟩
    · rw [List.append_assoc, List.singleton_append]
    · exact .cons hloses.lost (by rwa [← hloses.files])
    · rw [hcalls, hloses.positions, List.take_succ_cons, installedPositions_cons c (rest.take _),
        List.append_assoc]
  | unstaged hinstalled hturn =>
    obtain ⟨t, ht⟩ := hclear.exists_turn hinstalled
    rw [hturn] at ht
    cases ht
  | unpersisted hinstalled hturn hverdict hpersist =>
    obtain ⟨fs', hfs'⟩ := hclear.exists_persist hturn
      ((Job.winsAt_zero_iff hinstalled hturn).mpr ⟨_, hverdict⟩)
    rw [hpersist] at hfs'
    cases hfs'
  | @succeeded c rest attempts p location t size fs hinstalled hturn hverdict hpersist =>
    have hzero : job.WinsAt (c :: rest) p.files 0 :=
      (Job.winsAt_zero_iff hinstalled hturn).mpr ⟨size, hverdict⟩
    obtain rfl : k = 0 := by
      by_contra hne
      exact hk.first 0 (by omega) hzero
    refine ⟨c, size, [], rfl, by rw [List.append_nil], ⟨rfl, by simp⟩, ?_⟩
    simp [Job.called, Job.call, installedPositions, hinstalled, Availability.isInstalled]

/-- Without a winner all candidates lose. -/
theorem Chain.of_noWinner (h : Chain job cs attempts p result p')
    (hclear : job.Unobstructed cs p.files) (hnone : ∀ i, ¬ job.WinsAt cs p.files i) :
    ∃ records,
      result = .error (.allBackendsExhausted ((attempts ++ records).filterMap (·.error?))) ∧
      job.LostAll cs p.files cs.length records ∧
      (∀ r ∈ records, r.error?.isSome = true) ∧
      p'.calls.map (·.position) = p.calls.map (·.position) ++ installedPositions cs := by
  induction h with
  | exhausted =>
    exact ⟨[], by rw [List.append_nil], ⟨rfl, by simp⟩, by simp, by simp [installedPositions]⟩
  | @lost c rest attempts p record next result p' hloses hrest ih =>
    have hclear := hclear.tail hloses.not_winsAt
    rw [← hloses.files] at hclear
    obtain ⟨records, rfl, hlost, herrors, hcalls⟩ := ih hclear fun i hi =>
      hnone (i + 1) (Job.winsAt_succ_iff.2 (by rwa [← hloses.files]))
    refine ⟨record :: records, ?_, ?_, ?_, ?_⟩
    · rw [List.append_assoc, List.singleton_append]
    · exact .cons hloses.lost (by rwa [← hloses.files])
    · exact List.forall_mem_cons.2 ⟨hloses.error?_record, herrors⟩
    · rw [hcalls, hloses.positions, installedPositions_cons c rest, List.append_assoc]
  | unstaged hinstalled hturn =>
    obtain ⟨t, ht⟩ := hclear.exists_turn hinstalled
    rw [hturn] at ht
    cases ht
  | unpersisted hinstalled hturn hverdict | succeeded hinstalled hturn hverdict =>
    exact absurd ((Job.winsAt_zero_iff hinstalled hturn).mpr ⟨_, hverdict⟩) (hnone 0)

end Chains

end DocPress.Conversion
