import DocPress.Proofs.Conversion.Staging

/-!
# DocPress.Proofs.Conversion.Bench

Many staging files at once. A bench is the files together with a handle for every staging file that
was asked for, in that order; a handle that is put in place or dropped is gone, and so is one that
was not to be had.

* `Bench.step` — one operation, done as a conversion does it;
* `Bench.Steps` — the same in terms of locations, one constructor for each way in which an operation
  can end (`Bench.steps_step`);
* `Bench.Cause` — why an operation changes an entry (`Bench.Steps.cause`). What no operation does to
  any entry follows from the four causes.
-/

namespace DocPress.Conversion

open DocPress.Backend DocPress.FileSystem DocPress.Text

/-- A staging file in use, and what was last written to it. -/
structure Handle where
  staged : StagedOutput
  written : Bytes

/-- What is done to staging files. A handle is given by its number. -/
inductive Operation where
  | stage (destination : String)
  | write (handle : Nat) (content : Bytes)
  | validate (handle : Nat) (backend : String)
  | persist (handle : Nat)
  | drop (handle : Nat)

namespace Operation

/-- The destination of a new staging file. -/
def destination? : Operation → Option String
  | .stage destination => some destination
  | _ => none

/-- The handle of a staging file that is there already. -/
def handle? : Operation → Option Nat
  | .stage _ => none
  | .write handle _ | .validate handle _ | .persist handle | .drop handle => some handle

end Operation

/-- Files, and the handles of all staging files that were asked for, as far as they are in use. -/
structure Bench where
  files : Files
  handles : List (Option Handle)

namespace Bench

/-- The handle with a number, if it is in use. -/
def handle? (b : Bench) (i : Nat) : Option Handle :=
  b.handles[i]?.join

/-- Does an operation, and says whether it succeeds. Nothing is done with a handle that is gone. -/
def step (b : Bench) : Operation → Bench × Bool
  | .stage destination =>
    match (stage destination).run.run b.files with
    | (.ok staged, files) => (⟨files, b.handles ++ [some ⟨staged, []⟩]⟩, true)
    | (.error _, files) => (⟨files, b.handles ++ [none]⟩, false)
  | .write i content =>
    match b.handle? i with
    | none => (b, false)
    | some h =>
      match b.files.writeFile h.staged.path content with
      | .ok files => (⟨files, b.handles.set i (some { h with written := content })⟩, true)
      | .error _ => (b, false)
  | .validate i backend =>
    match b.handle? i with
    | none => (b, false)
    | some h => (b, (validatePdf b.files h.staged.path backend).toBool)
  | .persist i =>
    match b.handle? i with
    | none => (b, false)
    | some h =>
      match h.staged.persist.run.run b.files with
      | (result, files) => (⟨files, b.handles.set i none⟩, result.toBool)
  | .drop i =>
    match b.handle? i with
    | none => (b, false)
    | some h =>
      (⟨((h.staged.discard : Action Failure Unit).run.run b.files).2, b.handles.set i none⟩, true)

end Bench

/-- The staging file of a handle stands at a location, with what was written to it. -/
structure Handle.Holds (h : Handle) (l : Location) (fs : Files) : Prop where
  beside : Beside h.staged l fs
  file : fs.get? l = some (.file h.written false)

/-- It stands at one location. -/
theorem Handle.Holds.unique {h : Handle} {fs : Files} (hholds : h.Holds l fs)
    (hholds' : h.Holds l' fs) (hfs : fs.Grounded) : l' = l :=
  (hholds.beside.names hfs).unique (hholds'.beside.names hfs)

namespace Bench

/-! ## Operations in terms of locations -/

/-- The ways in which an operation can end. -/
inductive Steps (b : Bench) : Operation → Bench × Bool → Prop
  | refused : Steps b (.stage d) (⟨withParents d b.files, b.handles ++ [none]⟩, false)
  | staged (hbeside : Beside staged l (withParents staged.destination b.files))
      (hfree : (withParents staged.destination b.files).get? l = none) :
      Steps b (.stage staged.destination)
        (⟨(withParents staged.destination b.files).set l (.file [] false),
          b.handles ++ [some ⟨staged, []⟩]⟩, true)
  | written (hhandle : b.handle? i = some h) (hholds : h.Holds l b.files) :
      Steps b (.write i content)
        (⟨b.files.set l (.file content false),
          b.handles.set i (some { h with written := content })⟩, true)
  | validated (hhandle : b.handle? i = some h) (hholds : h.Holds l b.files)
      (hok : ok = true ↔ pdfMagic <+: h.written) : Steps b (.validate i backend) (b, ok)
  | placed (hhandle : b.handle? i = some h) (hholds : h.Holds l b.files)
      (hnames : b.files.Names h.staged.destination l')
      (hdirectory : b.files.get? l' ≠ some .directory) :
      Steps b (.persist i)
        (⟨(b.files.erase l).set l' (.file h.written false), b.handles.set i none⟩, true)
  | failed (hhandle : b.handle? i = some h) (hholds : h.Holds l b.files) :
      Steps b (.persist i) (⟨b.files.erase l, b.handles.set i none⟩, false)
  | dropped (hhandle : b.handle? i = some h) (hholds : h.Holds l b.files) :
      Steps b (.drop i) (⟨b.files.erase l, b.handles.set i none⟩, true)
  | idle (hop : op.handle? = some i) (hhandle : b.handle? i = none) : Steps b op (b, false)

/-- An entry that an operation changes is a directory that is made for a staging file, a new staging
file, that of the handle itself, or a destination. -/
inductive Cause (b : Bench) (op : Operation) (r : Bench × Bool) (l : Location) : Prop
  | directory (hop : op = .stage destination) (hway : b.files.OnWay destination l)
      (hbefore : b.files.get? l = none) (hafter : r.1.files.get? l = some .directory)
  | staged (hbefore : b.files.get? l = none) (hhandle : r.1.handle? i = some h)
      (hholds : h.Holds l r.1.files)
  | own (hop : op.handle? = some i) (hhandle : b.handle? i = some h) (hholds : h.Holds l b.files)
      (hafter : r.1.files.get? l = none ∨ ∃ content, r.1.files.get? l = some (.file content false))
  | placed (hop : op = .persist i) (hok : r.2 = true) (hhandle : b.handle? i = some h)
      (hnames : b.files.Names h.staged.destination l) (hbefore : b.files.get? l ≠ some .directory)
      (hafter : r.1.files.get? l = some (.file h.written false))

/-- A handle that is in use after an operation was in use before and has its file as it was, or it
was written to, or it is new. -/
inductive Origin (b : Bench) (op : Operation) (r : Bench × Bool) (i : Nat) (h : Handle) : Prop
  | kept (hhandle : b.handle? i = some h) (hfile : op.handle? ≠ some i ∨ r.1.files = b.files)
  | written (hhandle : b.handle? i = some h') (hholds : h'.Holds l b.files)
      (hstaged : h'.staged = h.staged) (hfile : r.1.files.get? l = some (.file h.written false))
  | staged (hop : op = .stage h.staged.destination) (hi : i = b.handles.length)
      (hbefore : b.files.get? l = none) (hholds : h.Holds l r.1.files)

variable {r : Bench × Bool} {destination : String}
variable {fs : Files} {l : Location} {h : Handle} {b : Bench} {op : Operation} {i : Nat}

/-- Where a staging file stands, its removal leaves nothing. -/
theorem run_discard (hholds : h.Holds l fs) (hfs : fs.Grounded) :
    ((h.staged.discard : Action Failure Unit).run.run fs).2 = fs.erase l := by
  rw [StagedOutput.discard, run_discardTemporary,
    Files.removeFile_of_file (hholds.beside.names hfs) hholds.beside.slash hholds.file]

/-- A staging file is made or refused; in either case the directories are there. -/
theorem steps_stage (hfs : b.files.Grounded) (destination : String) :
    b.Steps (.stage destination) (b.step (.stage destination)) := by
  rw [step]
  rcases hstage : (stage destination).run.run b.files with ⟨failure | staged, files⟩
  · obtain ⟨-, rfl⟩ := stage_eq_error hstage
    exact .refused
  · obtain ⟨l, hstaged, hbeside, rfl, -, rfl⟩ := stage_eq_ok hstage hfs
    exact .staged hbeside hstaged.free

/-- What is written through the path of a staging file is written to that file. -/
theorem steps_write (hfs : b.files.Grounded) (hhandle : b.handle? i = some h)
    (hholds : h.Holds l b.files) (content : Bytes) :
    b.Steps (.write i content) (b.step (.write i content)) := by
  have hwrite := Files.writeFile_of_file (hholds.beside.names hfs) hholds.beside.slash hholds.file
    content
  simp only [step, hhandle, hwrite]
  exact .written hhandle hholds

/-- To look at a staging file changes nothing. -/
theorem steps_validate (hfs : b.files.Grounded) (hhandle : b.handle? i = some h)
    (hholds : h.Holds l b.files) (backend : String) :
    b.Steps (.validate i backend) (b.step (.validate i backend)) := by
  have hstat := (hholds.beside.names hfs).stat_file hholds.beside.slash hholds.file
  simp only [step, hhandle]
  refine .validated hhandle hholds ?_
  cases hvalidate : validatePdf b.files h.staged.path backend with
  | ok size =>
    obtain ⟨content, executable, hstat', hmagic, -⟩ := validatePdf_eq_ok_iff.1 hvalidate
    rw [hstat] at hstat'
    cases hstat'
    simp [Except.toBool, hmagic]
  | error e =>
    have hmagic : ¬ pdfMagic <+: h.written := fun hmagic => by
      have hok := (@validatePdf_eq_ok_iff _ _ backend _).2 ⟨h.written, false, hstat, hmagic, rfl⟩
      rw [hvalidate] at hok
      cases hok
    simp [Except.toBool, hmagic]

/-- A staging file is put in place, or is gone with nothing else changed. -/
theorem steps_persist (hfs : b.files.Grounded) (hhandle : b.handle? i = some h)
    (hholds : h.Holds l b.files) : b.Steps (.persist i) (b.step (.persist i)) := by
  simp only [step, hhandle]
  rcases hpersist : h.staged.persist.run.run b.files with ⟨failure | _, files⟩
  · obtain ⟨-, rfl⟩ := persist_eq_error hpersist
    rw [run_discard hholds hfs]
    exact .failed hhandle hholds
  · obtain ⟨l', e, hnames, he, hdirectory, -, rfl⟩ :=
      persist_eq_ok hpersist (hholds.beside.names hfs)
    obtain rfl : .file h.written false = e := Option.some.inj (hholds.file.symm.trans he)
    exact .placed hhandle hholds hnames hdirectory

/-- A staging file that is given up is gone, and all else stays. -/
theorem steps_drop (hfs : b.files.Grounded) (hhandle : b.handle? i = some h)
    (hholds : h.Holds l b.files) : b.Steps (.drop i) (b.step (.drop i)) := by
  simp only [step, hhandle, run_discard hholds hfs]
  exact .dropped hhandle hholds

/-- Every operation ends in one of these ways, as long as each handle has its file. -/
theorem steps_step (hfs : b.files.Grounded)
    (hholds : ∀ i h, b.handle? i = some h → ∃ l, h.Holds l b.files) (op : Operation) :
    b.Steps op (b.step op) := by
  cases op with
  | stage destination => exact steps_stage hfs destination
  | write i content =>
    cases hhandle : b.handle? i with
    | some h => exact (hholds i h hhandle).elim fun l hl => steps_write hfs hhandle hl content
    | none =>
      simp only [step, hhandle]
      exact .idle rfl hhandle
  | validate i backend =>
    cases hhandle : b.handle? i with
    | some h => exact (hholds i h hhandle).elim fun l hl => steps_validate hfs hhandle hl backend
    | none =>
      simp only [step, hhandle]
      exact .idle rfl hhandle
  | persist i =>
    cases hhandle : b.handle? i with
    | some h => exact (hholds i h hhandle).elim fun l hl => steps_persist hfs hhandle hl
    | none =>
      simp only [step, hhandle]
      exact .idle rfl hhandle
  | drop i =>
    cases hhandle : b.handle? i with
    | some h => exact (hholds i h hhandle).elim fun l hl => steps_drop hfs hhandle hl
    | none =>
      simp only [step, hhandle]
      exact .idle rfl hhandle

/-! ## Handles -/

/-- A new handle has the next number. -/
theorem handle?_concat (b : Bench) (fs : Files) (x : Option Handle) (j : Nat) :
    (Bench.mk fs (b.handles ++ [x])).handle? j =
      if j = b.handles.length then x else b.handle? j := by
  unfold handle?
  rcases Nat.lt_trichotomy j b.handles.length with hlt | rfl | hgt
  · rw [if_neg (by omega), List.getElem?_append_left hlt]
  · simp
  · rw [if_neg (by omega), List.getElem?_eq_none (by simp; omega), List.getElem?_eq_none (by omega)]

/-- Handles are numbered in order, so one in use has a number that was given. -/
theorem lt_of_handle? (hhandle : b.handle? i = some h) : i < b.handles.length := by
  by_contra hge
  rw [handle?, List.getElem?_eq_none (by omega)] at hhandle
  contradiction

/-- Only the handle of an operation changes. -/
theorem handle?_set (hhandle : b.handle? i = some h) (fs : Files) (x : Option Handle) (j : Nat) :
    (Bench.mk fs (b.handles.set i x)).handle? j = if j = i then x else b.handle? j := by
  unfold handle?
  by_cases hj : j = i
  · rw [if_pos hj, hj, List.getElem?_set_self (lt_of_handle? hhandle), Option.join_some]
  · rw [if_neg hj, List.getElem?_set_ne (Ne.symm hj)]

/-- The working directory stays. -/
theorem Steps.current (hsteps : b.Steps op r) (hfs : b.files.Grounded) :
    r.1.files.current = b.files.current := by
  cases hsteps with
  | refused | staged => exact (withParents_adds hfs _).current
  | written | validated | placed | failed | dropped | idle => rfl

/-- A handle that is gone does not come back. -/
theorem Steps.stays_gone (hsteps : b.Steps op r) (hgone : b.handles[i]? = some none) :
    r.1.handles[i]? = some none := by
  have hi : i < b.handles.length := (List.getElem?_eq_some_iff.1 hgone).1
  have hset {k : Nat} {h : Handle} (hhandle : b.handle? k = some h) (x : Option Handle) :
      (b.handles.set k x)[i]? = some none := by
    have hne : k ≠ i := by
      rintro rfl
      simp [handle?, hgone] at hhandle
    rw [List.getElem?_set_ne hne, hgone]
  cases hsteps with
  | refused | staged => exact (List.getElem?_append_left hi).trans hgone
  | written hhandle | placed hhandle | failed hhandle | dropped hhandle => exact hset hhandle _
  | validated | idle => exact hgone

/-- A handle that nothing is done with stays. -/
theorem Steps.handle?_of_ne (hsteps : b.Steps op r) (hhandle : b.handle? i = some h)
    (hop : op.handle? ≠ some i) : r.1.handle? i = some h := by
  have hconcat (fs : Files) (x : Option Handle) :
      (Bench.mk fs (b.handles ++ [x])).handle? i = some h := by
    rw [handle?_concat, if_neg (Nat.ne_of_lt (lt_of_handle? hhandle)), hhandle]
  have hset {k : Nat} {h' : Handle} (hhandle' : b.handle? k = some h') (hk : k ≠ i) (fs : Files)
      (x : Option Handle) : (Bench.mk fs (b.handles.set k x)).handle? i = some h := by
    rw [handle?_set hhandle', if_neg hk.symm, hhandle]
  cases hsteps with
  | refused | staged => exact hconcat _ _
  | written hhandle' | placed hhandle' | failed hhandle' | dropped hhandle' =>
    exact hset hhandle' (by simpa [Operation.handle?] using hop) _ _
  | validated | idle => exact hhandle

/-- A handle that is put in place or dropped is gone. -/
theorem Steps.gone_of_ends (hsteps : b.Steps op r) (hop : op = .persist i ∨ op = .drop i)
    (hhandle : b.handle? i = some h) : r.1.handles[i]? = some none := by
  have hset : (b.handles.set i none)[i]? = some none :=
    List.getElem?_set_self (lt_of_handle? hhandle)
  have hhandle? : op.handle? = some i := by rcases hop with rfl | rfl <;> rfl
  cases hsteps with
  | placed | failed | dropped =>
    obtain rfl := Option.some.inj hhandle?
    exact hset
  | idle hidle hnone =>
    rw [hhandle?] at hidle
    cases hidle
    rw [hhandle] at hnone
    contradiction
  | _ => simp at hop

/-! ## Why entries change -/

/-- What differs after directories were made is one of them. -/
theorem withParents_cause (hfs : b.files.Grounded) (hop : op = .stage destination)
    (hafter : r.1.files.get? l = (withParents destination b.files).get? l) :
    r.1.files.get? l = b.files.get? l ∨ b.Cause op r l := by
  have hadds := withParents_adds hfs destination
  rcases hadds.entry l with heq | ⟨hbefore, hmade, above, habove, hnames⟩
  · exact .inl (hafter.trans heq)
  · have hway := (hadds.sameWay destination).symm.onWay (hnames.onWay habove)
    exact .inr (.directory hop hway hbefore (hafter.trans hmade))

/-- A new staging file stands where nothing stood. -/
theorem holds_staged {staged : StagedOutput} (hfs : b.files.Grounded)
    (hbeside : Beside staged l (withParents staged.destination b.files))
    (hfree : (withParents staged.destination b.files).get? l = none) :
    b.files.get? l = none ∧ (Handle.mk staged []).Holds l
      ((withParents staged.destination b.files).set l (.file [] false)) := by
  have hadds := withParents_adds hfs staged.destination
  have hne := (hbeside.names (hfs.keepsTree hadds.keepsTree)).ne_root
  have hoff := Files.SameOff.set l (.file [] false) (withParents staged.destination b.files)
  have hkeeps := hoff.keepsTree_of_none hfree
  exact ⟨hadds.of_none hfree, hbeside.keepsTree hkeeps, Files.get?_set_self _ hne _⟩

/-- Every change has one of these causes. -/
theorem Steps.cause (hsteps : b.Steps op r) (hfs : b.files.Grounded) (l : Location) :
    r.1.files.get? l = b.files.get? l ∨ b.Cause op r l := by
  cases hsteps with
  | refused => exact withParents_cause hfs rfl rfl
  | @staged staged l' hbeside hfree =>
    by_cases hl : l = l'
    · subst hl
      obtain ⟨hbefore, hholds⟩ := holds_staged hfs hbeside hfree
      exact .inr (.staged hbefore ((handle?_concat ..).trans (if_pos rfl)) hholds)
    · exact withParents_cause hfs rfl (Files.get?_set_of_ne _ hl _)
  | @written i h l' content hhandle hholds =>
    by_cases hl : l = l'
    · subst hl
      have hne := (hholds.beside.names hfs).ne_root
      exact .inr (.own rfl hhandle hholds (.inr ⟨content, Files.get?_set_self _ hne _⟩))
    · exact .inl (Files.get?_set_of_ne _ hl _)
  | validated => exact .inl rfl
  | @placed i h l' d hhandle hholds hnames hdirectory =>
    -- Two entries change; the destination comes first, as it may be the staging file itself.
    by_cases hd : l = d
    · subst hd
      exact .inr (.placed rfl rfl hhandle hnames hdirectory
        (Files.get?_set_self _ hnames.ne_root _))
    · have hafter := Files.get?_set_of_ne (b.files.erase l') hd (.file h.written false)
      by_cases hl : l = l'
      · subst hl
        have hne := (hholds.beside.names hfs).ne_root
        exact .inr (.own rfl hhandle hholds
          (.inl (hafter.trans (Files.get?_erase_self _ hne))))
      · exact .inl (hafter.trans (Files.get?_erase_of_ne _ hl))
  | @failed i h l' hhandle hholds | @dropped i h l' hhandle hholds =>
    by_cases hl : l = l'
    · subst hl
      have hne := (hholds.beside.names hfs).ne_root
      exact .inr (.own rfl hhandle hholds (.inl (Files.get?_erase_self _ hne)))
    · exact .inl (Files.get?_erase_of_ne _ hl)
  | idle => exact .inl rfl

/-- No directory is lost. -/
theorem Cause.directory_kept (hcause : b.Cause op r l)
    (hdirectory : b.files.get? l = some .directory) : r.1.files.get? l = some .directory := by
  cases hcause with
  | directory _ _ hbefore hafter => exact hafter
  | staged hbefore => simp [hbefore] at hdirectory
  | own _ _ hholds => simp [hholds.file] at hdirectory
  | placed _ _ _ _ hbefore => exact absurd hdirectory hbefore

/-- Directories stay, whatever is done. -/
theorem Steps.directory (hsteps : b.Steps op r) (hfs : b.files.Grounded) (l : Location)
    (hdirectory : b.files.get? l = some .directory) : r.1.files.get? l = some .directory := by
  rcases hsteps.cause hfs l with heq | hcause
  · rw [heq, hdirectory]
  · exact hcause.directory_kept hdirectory

/-- So the working directory stays in place. -/
theorem Steps.grounded (hsteps : b.Steps op r) (hfs : b.files.Grounded) : r.1.files.Grounded :=
  hfs.of_directories (hsteps.current hfs) (hsteps.directory hfs)

/-- Only where something is put in place can a link be lost, and none is made. -/
theorem Cause.links (hcause : b.Cause op r l) :
    (∃ i h, op = .persist i ∧ r.2 = true ∧ b.handle? i = some h ∧
      b.files.Names h.staged.destination l) ∨
    ∀ target, r.1.files.get? l = some (.link target) ↔ b.files.get? l = some (.link target) := by
  cases hcause with
  | directory _ _ hbefore hafter => exact .inr (by simp [hbefore, hafter])
  | staged hbefore _ hholds => exact .inr (by simp [hbefore, hholds.file])
  | own _ _ hholds hafter =>
    rcases hafter with hafter | ⟨content, hafter⟩
    · exact .inr (by simp [hholds.file, hafter])
    · exact .inr (by simp [hholds.file, hafter])
  | placed hop hok hhandle hnames => exact .inl ⟨_, _, hop, hok, hhandle, hnames⟩

/-- Every handle that is in use has one of these origins. -/
theorem Steps.origin (hsteps : b.Steps op r) (hfs : b.files.Grounded)
    (hhandle : r.1.handle? i = some h) : b.Origin op r i h := by
  cases hsteps with
  | refused =>
    rw [handle?_concat] at hhandle
    split at hhandle
    · contradiction
    · exact .kept hhandle (.inl (by simp [Operation.handle?]))
  | staged hbeside hfree =>
    rw [handle?_concat] at hhandle
    split at hhandle
    · next hi =>
      cases hhandle
      obtain ⟨hbefore, hholds⟩ := holds_staged hfs hbeside hfree
      exact .staged rfl hi hbefore hholds
    · exact .kept hhandle (.inl (by simp [Operation.handle?]))
  | written hbefore hholds =>
    rw [handle?_set hbefore] at hhandle
    split at hhandle
    · next hi =>
      cases hhandle
      have hne := (hholds.beside.names hfs).ne_root
      exact .written (hi ▸ hbefore) hholds rfl (Files.get?_set_self _ hne _)
    · next hi => exact .kept hhandle (.inl (by simpa [Operation.handle?] using Ne.symm hi))
  | placed hbefore | failed hbefore | dropped hbefore =>
    rw [handle?_set hbefore] at hhandle
    split at hhandle
    · contradiction
    · next hi => exact .kept hhandle (.inl (by simpa [Operation.handle?] using Ne.symm hi))
  | validated | idle => exact .kept hhandle (.inr rfl)

end Bench

end DocPress.Conversion
