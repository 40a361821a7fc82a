import DocPress.Proofs.FileSystem.Updates

/-!
# DocPress.Proofs.FileSystem.Directories

Making a directory with its parents:

* it adds directories, each where nothing stood, and each named by the path or by a path above it
  (`ensureDirectories_adds`); this holds also if it fails on the way;
* once it has succeeded the directory is there (`isDirectory_of_ensureDirectories`);
* a directory that is there is left alone (`ensureDirectories_of_isDirectory`).
-/

namespace DocPress.FileSystem

/-- A path is above another one: its parent, or above that. -/
inductive Above : String → String → Prop
  | parent (h : parent? path = some above) : Above above path
  | further (h : parent? path = some between) (h' : Above above between) : Above above path

namespace Files

variable {fs fs' fs'' : Files} {l : Location} {path : String} {P Q : String → Prop}

/-- All that `fs'` has more than `fs` are directories that stand where certain paths lead. -/
structure AddsDirectories (P : String → Prop) (fs fs' : Files) : Prop where
  current : fs'.current = fs.current
  entry : ∀ l, fs'.get? l = fs.get? l ∨
    (fs.get? l = none ∧ fs'.get? l = some .directory ∧ ∃ path, P path ∧ fs'.Names path l)

namespace AddsDirectories

theorem refl (P : String → Prop) (fs : Files) : fs.AddsDirectories P fs :=
  ⟨rfl, fun _ => .inl rfl⟩

/-- What stood somewhere still does. -/
theorem eq_of_some (h : AddsDirectories P fs fs') (he : fs.get? l = some e) :
    fs'.get? l = some e := by
  rcases h.entry l with heq | ⟨hnone, -⟩
  · rw [heq, he]
  · rw [hnone] at he
    contradiction

/-- Where nothing stands now, nothing stood before. -/
theorem of_none (h : AddsDirectories P fs fs') (he : fs'.get? l = none) : fs.get? l = none := by
  rcases h.entry l with heq | ⟨hnone, -⟩
  · rw [← heq, he]
  · exact hnone

/-- Nothing is lost, so the tree is kept. -/
theorem keepsTree (h : AddsDirectories P fs fs') : fs.KeepsTree fs' :=
  ⟨h.current, fun _ => h.eq_of_some, fun _ _ => h.eq_of_some⟩

/-- Directories that are added in two steps are added by both together. -/
theorem trans (h : AddsDirectories P fs fs') (h' : AddsDirectories P fs' fs'') :
    fs.AddsDirectories P fs'' where
  current := h'.current.trans h.current
  entry l := by
    rcases h.entry l with heq | ⟨hnone, hdirectory, path, hpath, hnames⟩
    · rw [← heq]
      exact h'.entry l
    · exact .inr ⟨hnone, h'.eq_of_some hdirectory, path, hpath, hnames.keepsTree h'.keepsTree⟩

/-- The paths may be told less exactly. -/
theorem mono (h : AddsDirectories P fs fs') (hPQ : ∀ path, P path → Q path) :
    fs.AddsDirectories Q fs' where
  current := h.current
  entry l := (h.entry l).imp_right fun ⟨hnone, hdirectory, path, hpath, hnames⟩ =>
    ⟨hnone, hdirectory, path, hPQ path hpath, hnames⟩

end AddsDirectories

/-! ## Paths to directories -/

/-- The way of a path that leads somewhere. -/
theorem walks_of_resolve (h : fs.resolve path = .ok r) : checkPath path = .ok () ∧
    ∃ m, fs.Walks maxLinks (fs.origin path) (namedSegments path) r m := by
  obtain ⟨hcheck, m, hwalks⟩ := resolve_eq_ok_iff.1 h
  exact ⟨hcheck, m, hwalks.of_segments⟩

/-- A way to a directory may have a slash behind it. -/
theorem resolve_of_walks (hcheck : checkPath path = .ok ())
    (h : fs.Walks maxLinks (fs.origin path) (namedSegments path) r m)
    (hr : fs.get? r = some .directory) : fs.resolve path = .ok r := by
  refine resolve_eq_ok_iff.2 ⟨hcheck, m, ?_⟩
  unfold segments
  split
  · exact h.append (.here hr .done)
  · exact h

/-- The way to a directory. -/
theorem walks_of_isDirectory (h : fs.isDirectory path = true) : checkPath path = .ok () ∧
    ∃ r m, fs.Walks maxLinks (fs.origin path) (namedSegments path) r m ∧
      fs.get? r = some .directory := by
  cases hresolve : fs.resolve path with
  | error e => simp [isDirectory, stat, hresolve, bind, Except.bind] at h
  | ok r =>
    have hr : fs.get? r = some .directory := by
      simp only [isDirectory, stat, hresolve, bind, Except.bind] at h
      cases he : fs.get? r with
      | none => simp [he] at h
      | some e => cases e <;> simp [he] at h ⊢
    obtain ⟨hcheck, m, hwalks⟩ := walks_of_resolve hresolve
    exact ⟨hcheck, r, m, hwalks, hr⟩

/-- A path whose way ends in a directory leads to one, with or without a slash at its end. -/
theorem isDirectory_of_walks (hcheck : checkPath path = .ok ())
    (h : fs.Walks maxLinks (fs.origin path) (namedSegments path) r m)
    (hr : fs.get? r = some .directory) : fs.isDirectory path = true := by
  simp [isDirectory, stat, resolve_of_walks hcheck h hr, hr, bind, Except.bind]

/-- A path leads to a directory as long as the tree is kept. -/
theorem isDirectory_keepsTree (h : fs.isDirectory path = true) (hkeeps : fs.KeepsTree fs') :
    fs'.isDirectory path = true := by
  obtain ⟨hcheck, r, m, hwalks, hr⟩ := walks_of_isDirectory h
  refine isDirectory_of_walks (r := r) (m := m) hcheck ?_ (hkeeps.directory r hr)
  rw [origin, hkeeps.current]
  exact hwalks.keepsTree hr hkeeps

/-- A path to a directory still leads there while the tree is kept. -/
theorem resolve_keepsTree (h : fs.resolve path = .ok l) (hl : fs.get? l = some .directory)
    (hkeeps : fs.KeepsTree fs') : fs'.resolve path = .ok l := by
  obtain ⟨hcheck, m, hwalks⟩ := walks_of_resolve h
  refine resolve_of_walks (m := m) hcheck ?_ (hkeeps.directory l hl)
  rw [origin, hkeeps.current]
  exact hwalks.keepsTree hl hkeeps

/-- A directory is found under the path that names it. -/
theorem Names.isDirectory (h : fs.Names path l) (he : fs.get? l = some .directory) :
    fs.isDirectory path = true := by
  obtain ⟨m, hwalks⟩ := h.walks he (by simp)
  obtain ⟨d, name, hcheck, -⟩ := names_iff.1 h
  exact isDirectory_of_walks hcheck hwalks he

/-! ## A single directory -/

/-- A directory that is made stands where its path leads, and is all that is added. -/
theorem addsDirectories_of_makeDirectory (h : fs.makeDirectory path = .ok fs') :
    fs.AddsDirectories (· = path) fs' ∧ fs'.isDirectory path = true := by
  obtain ⟨l, hnames, hnone, rfl⟩ := makeDirectory_eq_ok h
  have hkeeps : fs.KeepsTree (fs.set l .directory) :=
    (SameOff.set l _ fs).keepsTree_of_none hnone
  have hset : (fs.set l .directory).get? l = some .directory := get?_set_self fs hnames.ne_root _
  refine ⟨⟨rfl, fun l' => ?_⟩, (hnames.keepsTree hkeeps).isDirectory hset⟩
  by_cases hl' : l' = l
  · subst hl'
    exact .inr ⟨hnone, hset, path, rfl, hnames.keepsTree hkeeps⟩
  · exact .inl (get?_set_of_ne fs hl' _)

/-- Where a directory is already, none is made. -/
theorem makeDirectory_of_isDirectory (h : fs.isDirectory path = true) :
    fs.makeDirectory path = .error .alreadyExists := by
  obtain ⟨hcheck, r, m, hwalks, hr⟩ := walks_of_isDirectory h
  obtain hnil | ⟨init, name, hconcat⟩ := List.eq_nil_or_concat (namedSegments path)
  · rw [hnil] at hwalks
    cases hwalks
    rw [origin] at hr
    simp [makeDirectory, place, placeFrom, hcheck, hnil, walk, isDirectoryAt, hr, bind, Except.bind]
  · rw [List.concat_eq_append] at hconcat
    rw [hconcat] at hwalks
    obtain ⟨d, m', hinit, hstep⟩ := hwalks.split
    have hwalk := hinit.walk
    rw [origin] at hwalk
    cases hstep with
    | here hd | up hd =>
      simp [makeDirectory, place, placeFrom, hcheck, hconcat, hwalk, isDirectoryAt, hd, bind,
        Except.bind]
    | entry hd hname he | link hd hname he =>
      have hplace : fs.place path = .ok ⟨d, some name, path.endsWith "/"⟩ :=
        placeFrom_eq_ok_iff.2 ⟨hcheck, by simpa [hconcat] using hwalk, hd, by simp [hconcat],
          hname, rfl⟩
      simp [makeDirectory, hplace, he, bind, Except.bind]

end Files

/-! ## The actions -/

section Actions

variable {fs fs' : Files} {path : String}

/-- The error of making a directory is let pass if one is there already. -/
theorem run_ensureDirectory (path : String) (fs : Files) :
    (ensureDirectory path).run.run fs = match fs.makeDirectory path with
      | .ok fs' => (.ok (), fs')
      | .error e => if fs.isDirectory path then (.ok (), fs) else (.error e, fs) := by
  simp only [ensureDirectory, Action.run_bind, Action.run_get]
  cases fs.makeDirectory path with
  | ok fs' => rfl
  | error e =>
    simp only [Action.run_bind, Action.run_get]
    split <;> rfl

/-- One step of the recursion: the directory above is made first, if it is missing. -/
theorem run_ensureDirectoriesUpTo_succ (n : Nat) (path : String) (fs : Files) :
    (ensureDirectoriesUpTo (n + 1) path).run.run fs =
      if path.isEmpty then (.ok (), fs)
      else match fs.lacksParent path, parent? path with
        | true, some above =>
          (ensureDirectoriesUpTo n above >>= fun _ => ensureDirectory path).run.run fs
        | _, _ => (ensureDirectory path).run.run fs := by
  simp only [ensureDirectoriesUpTo]
  split
  · rfl
  · simp only [Action.run_bind, Action.run_get]
    cases fs.lacksParent path with
    | false => rfl
    | true =>
      cases parent? path with
      | none => rfl
      | some above => simp only [if_true, Action.run_bind]

/-- At most the directory itself is added, whether or not making it succeeds. -/
theorem ensureDirectory_adds (path : String) (fs : Files) :
    fs.AddsDirectories (· = path) ((ensureDirectory path).run.run fs).2 := by
  rw [run_ensureDirectory]
  cases h : fs.makeDirectory path with
  | ok fs' => exact (Files.addsDirectories_of_makeDirectory h).1
  | error e =>
    by_cases hd : fs.isDirectory path = true
    · simpa only [if_pos hd] using .refl _ fs
    · simpa only [if_neg hd] using .refl _ fs

/-- A directory has been made, or was there. -/
theorem isDirectory_of_ensureDirectory (h : (ensureDirectory path).run.run fs = (.ok (), fs')) :
    fs'.isDirectory path = true := by
  rw [run_ensureDirectory] at h
  cases hmake : fs.makeDirectory path with
  | ok fs'' =>
    rw [hmake] at h
    cases h
    exact (Files.addsDirectories_of_makeDirectory hmake).2
  | error e =>
    simp only [hmake] at h
    split at h
    · cases h
      assumption
    · cases h

/-- A directory that is there is left alone: making it fails, and the error is let pass. -/
theorem ensureDirectory_of_isDirectory (h : fs.isDirectory path = true) :
    (ensureDirectory path).run.run fs = (.ok (), fs) := by
  rw [run_ensureDirectory, Files.makeDirectory_of_isDirectory h]
  simp [h]

/-- Only directories are added, at the end of the path and above it. The induction is on the bound,
which goes down with each parent. -/
theorem ensureDirectoriesUpTo_adds (n : Nat) (path : String) (fs : Files) :
    fs.AddsDirectories (fun p => p = path ∨ Above p path)
      ((ensureDirectoriesUpTo n path).run.run fs).2 := by
  have hlast (path : String) (fs : Files) : fs.AddsDirectories (fun p => p = path ∨ Above p path)
      ((ensureDirectory path).run.run fs).2 := (ensureDirectory_adds path fs).mono fun _ => .inl
  induction n generalizing path fs with
  | zero => exact hlast path fs
  | succ n ih =>
    rw [run_ensureDirectoriesUpTo_succ]
    by_cases hempty : path.isEmpty = true
    · simpa only [if_pos hempty] using .refl _ fs
    · rw [if_neg hempty]
      cases hlacks : fs.lacksParent path with
      | false => exact hlast path fs
      | true =>
        cases hparent : parent? path with
        | none => exact hlast path fs
        | some above =>
          have habove : fs.AddsDirectories (fun p => p = path ∨ Above p path)
              ((ensureDirectoriesUpTo n above).run.run fs).2 :=
            (ih above fs).mono fun p hp =>
              .inr (hp.elim (fun h => .parent (h ▸ hparent)) (.further hparent))
          simp only [Action.run_bind]
          -- If those above cannot all be made, the ones that were made stay.
          rcases hrun : (ensureDirectoriesUpTo n above).run.run fs with ⟨_ | _, fs'⟩
          · rwa [hrun] at habove
          · rw [hrun] at habove
            exact habove.trans (hlast path fs')

/-- At most the directory and those above it are added, also if it fails on the way. -/
theorem ensureDirectories_adds (path : String) (fs : Files) :
    fs.AddsDirectories (fun p => p = path ∨ Above p path)
      ((ensureDirectories path).run.run fs).2 :=
  ensureDirectoriesUpTo_adds _ _ _

/-- Once it has succeeded, the directory is there. -/
theorem isDirectory_of_ensureDirectories (hpath : path ≠ "")
    (h : (ensureDirectories path).run.run fs = (.ok (), fs')) : fs'.isDirectory path = true := by
  rw [ensureDirectories, run_ensureDirectoriesUpTo_succ, if_neg (by simpa using hpath)] at h
  split at h
  · rw [Action.run_bind] at h
    split at h
    · exact isDirectory_of_ensureDirectory h
    · cases h
  · exact isDirectory_of_ensureDirectory h

/-- If the directory is there, nothing is added at all. -/
theorem ensureDirectories_of_isDirectory (h : fs.isDirectory path = true) :
    (ensureDirectories path).run.run fs = (.ok (), fs) := by
  have hlacks : fs.lacksParent path = false := by
    rw [Files.lacksParent, Files.makeDirectory_of_isDirectory h]
    rfl
  rw [ensureDirectories, run_ensureDirectoriesUpTo_succ, hlacks, ensureDirectory_of_isDirectory h]
  split <;> rfl

end Actions

end DocPress.FileSystem
