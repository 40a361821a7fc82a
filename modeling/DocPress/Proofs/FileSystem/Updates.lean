import DocPress.Proofs.FileSystem.Names

/-!
# DocPress.Proofs.FileSystem.Updates

Each single update in terms of the locations that its paths name, and the actions that are made of
updates as functions from files to a result and files.
-/

namespace DocPress.FileSystem

open DocPress.Text

namespace Files

variable {fs fs' : Files} {l : Location} {path source target : String} {content : Bytes}

/-! ## Single updates -/

/-- A file that a path names is removed. -/
theorem removeFile_of_file (h : fs.Names path l) (hslash : path.endsWith "/" = false)
    (he : fs.get? l = some (.file content executable)) : fs.removeFile path = .ok (fs.erase l) := by
  obtain ⟨d, name, slash, hplace, rfl⟩ := h
  obtain rfl : slash = false := (placeFrom_eq_ok_iff.1 hplace).2.2.2.2.2.trans hslash
  simp [removeFile, hplace, he, bind, Except.bind]

/-- Only what a path names can be removed through it. -/
theorem removeFile_eq_ok (h : fs.removeFile path = .ok fs') (hnames : fs.Names path l) :
    fs' = fs.erase l := by
  obtain ⟨d, name, slash, hplace, rfl⟩ := hnames
  cases he : fs.get? (d ++ [name]) with
  | none => simp [removeFile, hplace, he, bind, Except.bind] at h
  | some e =>
    cases e with
    | directory => simp [removeFile, hplace, he, bind, Except.bind] at h
    | file | link =>
      cases slash <;> simp [removeFile, hplace, he, bind, Except.bind] at h
      exact h.symm

/-- Nothing can be removed where nothing stands. -/
theorem removeFile_of_none (h : fs.Names path l) (he : fs.get? l = none) :
    fs.removeFile path = .error .notFound := by
  obtain ⟨d, name, slash, hplace, rfl⟩ := h
  simp [removeFile, hplace, he, bind, Except.bind]

/-- A renamed file leaves its location for the one that the target names, where no directory
stands. -/
theorem renameFile_eq_ok (h : fs.renameFile source target = .ok fs') (hs : fs.Names source l) :
    ∃ l' e, fs.Names target l' ∧ fs.get? l = some e ∧ fs.get? l' ≠ some .directory ∧
      target.endsWith "/" = false ∧ fs' = (fs.erase l).set l' e := by
  obtain ⟨d, name, slash, hplace, rfl⟩ := hs
  cases hnew : fs.place target with
  | error e => simp [renameFile, hplace, hnew, bind, Except.bind] at h
  | ok place =>
    obtain ⟨d', name?, slash'⟩ := place
    cases name? with
    | none => simp [renameFile, hplace, hnew, bind, Except.bind] at h
    | some name' =>
      cases he : fs.get? (d ++ [name]) with
      | none => simp [renameFile, hplace, hnew, he, bind, Except.bind] at h
      | some e =>
        have hend := (placeFrom_eq_ok_iff.1 hnew).2.2.2.2.2
        by_cases hslash : slash' = true
        · simp [renameFile, hplace, hnew, he, hslash, bind, Except.bind] at h
        · by_cases hd : fs.get? (d' ++ [name']) = some .directory
          · simp [renameFile, hplace, hnew, he, hslash, hd, isDirectoryAt, bind, Except.bind] at h
          · simp only [renameFile, hplace, hnew, he, isDirectoryAt, bind, Except.bind] at h
            simp only [Bool.not_eq_true] at hslash
            refine ⟨d' ++ [name'], e, ⟨d', name', slash', hnew, rfl⟩, rfl, hd, ?_, ?_⟩
            · rw [← hend, hslash]
            · simp only [hslash, Bool.false_eq_true, if_false, beq_iff_eq, if_neg hd] at h
              exact (Except.ok.inj h).symm

/-- A file that a path names is moved to where another path names no directory. -/
theorem renameFile_of_file (hs : fs.Names source l) (ht : fs.Names target l')
    (hslash : target.endsWith "/" = false) (he : fs.get? l = some e)
    (hdirectory : fs.get? l' ≠ some .directory) :
    fs.renameFile source target = .ok ((fs.erase l).set l' e) := by
  obtain ⟨d, name, slash, hplace, rfl⟩ := hs
  obtain ⟨d', name', slash', hplace', rfl⟩ := ht
  obtain rfl : slash' = false := (placeFrom_eq_ok_iff.1 hplace').2.2.2.2.2.trans hslash
  simp [renameFile, hplace, hplace', he, isDirectoryAt, hdirectory, bind, Except.bind]

/-- A directory that is made comes to stand where nothing was. -/
theorem makeDirectory_eq_ok (h : fs.makeDirectory path = .ok fs') :
    ∃ l, fs.Names path l ∧ fs.get? l = none ∧ fs' = fs.set l .directory := by
  cases hplace : fs.place path with
  | error e => simp [makeDirectory, hplace, bind, Except.bind] at h
  | ok place =>
    obtain ⟨d, name?, slash⟩ := place
    cases name? with
    | none => simp [makeDirectory, hplace, bind, Except.bind] at h
    | some name =>
      cases he : fs.get? (d ++ [name]) with
      | some e => simp [makeDirectory, hplace, he, bind, Except.bind] at h
      | none =>
        refine ⟨d ++ [name], ⟨d, name, slash, hplace, rfl⟩, he, ?_⟩
        simpa [makeDirectory, hplace, he, bind, Except.bind, eq_comm] using h

/-- A file is written where neither a directory nor a link stands. -/
theorem writeLocation_eq_ok {n : Nat} {base : Location} (h : fs.writeLocation n base path = .ok l) :
    l ≠ [] ∧ fs.get? l ≠ some .directory ∧ ∀ target, fs.get? l ≠ some (.link target) := by
  fun_induction fs.writeLocation n base path with
  | case1 => contradiction
  | case2 links base path ih =>
    cases hplace : fs.placeFrom links base path with
    | error e => simp [hplace, bind, Except.bind] at h
    | ok place =>
      obtain ⟨d, name?, slash⟩ := place
      cases name? with
      | none => simp [hplace, bind, Except.bind] at h
      | some name =>
        cases slash with
        | true => simp [hplace, bind, Except.bind] at h
        | false =>
          simp only [hplace, bind, Except.bind] at h
          split at h
          · exact ih ⟨d, some name, false⟩ _ h
          · contradiction
          · cases h
            exact ⟨by simp, by assumption, by assumption⟩

/-- A file that may be executed stands at a location. -/
def executableAt (fs : Files) (l : Location) : Bool :=
  match fs.get? l with
  | some (.file _ executable) => executable
  | _ => false

/-- What writing a file does: one location has the content, and is as executable as it was. -/
theorem writeFile_eq_ok (h : fs.writeFile path content = .ok fs') :
    ∃ l, fs.writeLocation (maxLinks + 1) fs.current path = .ok l ∧
      fs' = fs.set l (.file content (fs.executableAt l)) := by
  cases hl : fs.writeLocation (maxLinks + 1) fs.current path with
  | error e => simp [writeFile, hl, bind, Except.bind] at h
  | ok l =>
    simp only [writeFile, hl, bind, Except.bind] at h
    exact ⟨l, rfl, (Except.ok.inj h).symm⟩

/-- Through a path that names a free location, the file is written there. -/
theorem writeLocation_of_none (h : fs.Names path l) (hslash : path.endsWith "/" = false)
    (he : fs.get? l = none) : fs.writeLocation (maxLinks + 1) fs.current path = .ok l := by
  obtain ⟨d, name, slash, hplace, rfl⟩ := h
  obtain rfl : slash = false := (placeFrom_eq_ok_iff.1 hplace).2.2.2.2.2.trans hslash
  rw [place] at hplace
  simp [writeLocation, hplace, he, bind, Except.bind]

/-- Where a file stands, it is written to that one. -/
theorem eq_of_writeLocation (h : fs.writeLocation (maxLinks + 1) fs.current path = .ok l')
    (hnames : fs.Names path l) (he : fs.get? l = some (.file content executable)) : l' = l := by
  obtain ⟨d, name, slash, hplace, rfl⟩ := hnames
  rw [place] at hplace
  cases slash with
  | true => simp [writeLocation, hplace, bind, Except.bind] at h
  | false =>
    simp only [writeLocation, hplace, he, bind, Except.bind] at h
    exact (Except.ok.inj h).symm

/-- A file that is there keeps what it may. -/
theorem writeFile_of_file (h : fs.Names path l) (hslash : path.endsWith "/" = false)
    (he : fs.get? l = some (.file old executable)) (content : Bytes) :
    fs.writeFile path content = .ok (fs.set l (.file content executable)) := by
  obtain ⟨d, name, slash, hplace, rfl⟩ := h
  obtain rfl : slash = false := (placeFrom_eq_ok_iff.1 hplace).2.2.2.2.2.trans hslash
  rw [place] at hplace
  simp [writeFile, writeLocation, hplace, he, bind, Except.bind]

/-- A new file may not be executed. -/
theorem writeFile_of_none (h : fs.Names path l) (hslash : path.endsWith "/" = false)
    (he : fs.get? l = none) (content : Bytes) :
    fs.writeFile path content = .ok (fs.set l (.file content false)) := by
  simp [writeFile, writeLocation_of_none h hslash he, he, bind, Except.bind]

end Files

/-! ## Actions -/

namespace Action

variable {ε δ α β : Type}

/-- The second action is run on what the first one leaves, unless that has failed. -/
theorem run_bind (x : Action ε α) (f : α → Action ε β) (fs : Files) :
    (x >>= f).run.run fs = match x.run.run fs with
      | (.ok a, fs') => (f a).run.run fs'
      | (.error e, fs') => (.error e, fs') := by
  simp only [ExceptT.run_bind, StateT.run_bind]
  rcases x.run.run fs with ⟨_ | _, _⟩ <;> rfl

@[simp] theorem run_pure (a : α) (fs : Files) : (pure a : Action ε α).run.run fs = (.ok a, fs) :=
  rfl

@[simp] theorem run_throw (e : ε) (fs : Files) :
    (throw e : Action ε α).run.run fs = (.error e, fs) := rfl

@[simp] theorem run_get (fs : Files) : (get : Action ε Files).run.run fs = (.ok fs, fs) := rfl

@[simp] theorem run_set (fs fs' : Files) :
    (set fs' : Action ε PUnit).run.run fs = (.ok ⟨⟩, fs') := rfl

/-- An update that fails leaves all as it is. -/
theorem run_update (f : Files → Except ε Files) (fs : Files) :
    (update f).run.run fs = match f fs with
      | .ok fs' => (.ok (), fs')
      | .error e => (.error e, fs) := by
  simp only [update, run_bind, run_get]
  cases f fs <;> rfl

/-- To ask changes nothing. -/
theorem run_ask (f : Files → Except ε α) (fs : Files) : (ask f).run.run fs = (f fs, fs) := by
  simp only [ask, run_bind, run_get]
  cases f fs <;> rfl

/-- An action that cannot fail succeeds, and does what it does. -/
theorem run_liftM (x : StateM Files α) (fs : Files) :
    (liftM x : Action ε α).run.run fs = (.ok (x.run fs).1, (x.run fs).2) := rfl

/-- The error is told in another form; what has been done stays. -/
theorem run_mapError (f : ε → δ) (x : Action ε α) (fs : Files) :
    (x.mapError f).run.run fs = match x.run.run fs with
      | (.ok a, fs') => (.ok a, fs')
      | (.error e, fs') => (.error (f e), fs') := by
  simp only [mapError, ExceptT.run_mk, StateT.run_bind]
  rcases x.run.run fs with ⟨_ | _, _⟩ <;> rfl

/-- What is done at last has no part in the result if it goes well. -/
theorem run_tryFinally (x : Action ε α) {last : Action ε β} {b : β} {fs fs' : Files}
    (h : last.run.run (x.run.run fs).2 = (.ok b, fs')) :
    (tryFinally x last).run.run fs = ((x.run.run fs).1, fs') := by
  have hlast : last (x fs).2 = (.ok b, fs') := h
  change (tryFinally x last) fs = ((x fs).1, fs')
  rcases hx : x fs with ⟨_ | _, fs₁⟩ <;> rw [hx] at hlast <;>
    simp [tryFinally, tryFinally', bind, StateT.bind, Functor.map, ExceptT.map, ExceptT.mk, hx,
      hlast] <;> rfl

end Action

end DocPress.FileSystem
