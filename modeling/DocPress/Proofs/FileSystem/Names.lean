import DocPress.FileSystem.Update
import DocPress.Proofs.FileSystem.Walk

/-!
# DocPress.Proofs.FileSystem.Names

The entry that a path names: the one with its last segment as its name, in the directory to which
the rest of it leads. A link that stands there is named itself, and the entry need not be there.

Every single update is then said about the location that its path names. A path names the same
location as long as the tree is kept (`Names.keepsTree`).
-/

namespace DocPress.FileSystem

open DocPress.Text

namespace Files

variable {fs fs' : Files} {l d : Location} {path name : String} {slash : Bool} {e : Entry}

/-- A path names a location. -/
def Names (fs : Files) (path : String) (l : Location) : Prop :=
  ∃ d name slash, fs.place path = .ok ⟨d, some name, slash⟩ ∧ l = d ++ [name]

/-! ## Paths -/

/-- What can be a path: it has characters, none of them of code 0, and not too many. -/
theorem checkPath_eq_ok_iff : checkPath path = .ok () ↔
    path ≠ "" ∧ '\x00' ∉ path.toList ∧ path.utf8ByteSize ≤ maxPathBytes := by
  unfold checkPath
  rw [String.contains_char_eq]
  split
  · simp_all
  · split
    · simp_all
    · split <;> simp_all

/-- A path leads where the way along its segments ends, with as many links as may be followed. -/
theorem resolve_eq_ok_iff : fs.resolve path = .ok l ↔
    checkPath path = .ok () ∧ ∃ m, fs.Walks maxLinks (fs.origin path) (segments path) l m := by
  rw [← walk_eq_ok_iff]
  cases hcheck : checkPath path with
  | error e => simp [resolve, hcheck, bind, Except.bind]
  | ok u => simp [resolve, hcheck, bind, Except.bind]

/-! ## Places -/

/-- The place of a path with a name: a directory, and the name in it. -/
theorem placeFrom_eq_ok_iff {n : Nat} {base : Location} :
    fs.placeFrom n base path = .ok ⟨d, some name, slash⟩ ↔
      checkPath path = .ok () ∧
      fs.walk n (if isAbsolute path then [] else base) (namedSegments path).dropLast = .ok d ∧
      fs.get? d = some .directory ∧ (namedSegments path).getLast? = some name ∧ IsName name ∧
      slash = path.endsWith "/" := by
  unfold placeFrom
  constructor
  · intro h
    cases hcheck : checkPath path with
    | error e => simp [hcheck, bind, Except.bind] at h
    | ok u =>
      cases hwalk : fs.walk n (if isAbsolute path then [] else base)
          (namedSegments path).dropLast with
      | error e => simp [hcheck, hwalk, bind, Except.bind] at h
      | ok d' =>
        by_cases hd : fs.get? d' = some .directory
        · cases hlast : (namedSegments path).getLast? with
          | none => simp [hcheck, hwalk, hd, hlast, isDirectoryAt, bind, Except.bind] at h
          | some name' =>
            simp only [hcheck, hwalk, hd, hlast, isDirectoryAt, bind, Except.bind] at h
            grind [IsName]
        · simp [hcheck, hwalk, hd, isDirectoryAt, bind, Except.bind] at h
  · rintro ⟨hcheck, hwalk, hd, hlast, hname, rfl⟩
    have hshort := hname.short
    simp [hcheck, hwalk, hd, hlast, isDirectoryAt, bind, Except.bind, hname.ne_here, hname.ne_up]
    omega

/-- A path with a name is the rest of it and that name. -/
theorem namedSegments_eq_of_getLast? (h : (namedSegments path).getLast? = some name) :
    namedSegments path = (namedSegments path).dropLast ++ [name] := by
  obtain ⟨init, hinit⟩ := List.getLast?_eq_some_iff.1 h
  rw [hinit, List.dropLast_concat]

/-! ## Names -/

/-- What it takes for a path to name a location: the way to its directory, and a last segment that
is a name. -/
theorem names_iff : fs.Names path l ↔ ∃ d name, checkPath path = .ok () ∧
    fs.walk maxLinks (fs.origin path) (namedSegments path).dropLast = .ok d ∧
    fs.get? d = some .directory ∧ (namedSegments path).getLast? = some name ∧ IsName name ∧
    l = d ++ [name] := by
  constructor
  · rintro ⟨d, name, slash, hplace, rfl⟩
    obtain ⟨hcheck, hwalk, hd, hlast, hname, -⟩ := placeFrom_eq_ok_iff.1 hplace
    exact ⟨d, name, hcheck, hwalk, hd, hlast, hname, rfl⟩
  · rintro ⟨d, name, hcheck, hwalk, hd, hlast, hname, rfl⟩
    exact ⟨d, name, _, placeFrom_eq_ok_iff.2 ⟨hcheck, hwalk, hd, hlast, hname, rfl⟩, rfl⟩

namespace Names

theorem ne_root (h : fs.Names path l) : l ≠ [] := by
  obtain ⟨d, name, slash, -, rfl⟩ := h
  simp

/-- A path names one location at most. -/
theorem unique (h : fs.Names path l) (h' : fs.Names path l') : l' = l := by
  obtain ⟨d, name, slash, hplace, rfl⟩ := h
  obtain ⟨d', name', slash', hplace', rfl⟩ := h'
  rw [hplace] at hplace'
  cases hplace'
  rfl

/-- A path names the same location as long as the tree is kept. -/
theorem keepsTree (h : fs.Names path l) (hkeeps : fs.KeepsTree fs') : fs'.Names path l := by
  obtain ⟨d, name, hcheck, hwalk, hd, hlast, hname, rfl⟩ := names_iff.1 h
  obtain ⟨m, hwalks⟩ := walk_eq_ok_iff.1 hwalk
  refine names_iff.2 ⟨d, name, hcheck, ?_, hkeeps.directory d hd, hlast, hname, rfl⟩
  rw [origin, hkeeps.current]
  exact (hwalks.keepsTree hd hkeeps).walk

/-- The directory of the location is there. -/
theorem directory (h : fs.Names path l) : fs.get? l.dropLast = some .directory := by
  obtain ⟨d, name, -, -, hd, -, -, rfl⟩ := names_iff.1 h
  rwa [List.dropLast_concat]

end Names

/-! ## What stands at the end of a path -/

/-- The way to a named entry that is no link. -/
theorem Names.walks (h : fs.Names path l) (he : fs.get? l = some e)
    (hlink : ∀ target, e ≠ .link target) :
    ∃ m, fs.Walks maxLinks (fs.origin path) (namedSegments path) l m := by
  obtain ⟨d, name, -, hwalk, hd, hlast, hname, rfl⟩ := names_iff.1 h
  obtain ⟨m, hwalks⟩ := walk_eq_ok_iff.1 hwalk
  rw [namedSegments_eq_of_getLast? hlast]
  exact ⟨m, hwalks.concat hd hname he hlink⟩

/-- A file is found under the path that names it. -/
theorem Names.stat_file (h : fs.Names path l) (hslash : path.endsWith "/" = false)
    (he : fs.get? l = some (.file content executable)) :
    fs.stat path = .ok (.file content executable) := by
  obtain ⟨m, hwalks⟩ := h.walks he (by simp)
  obtain ⟨d, name, hcheck, -⟩ := names_iff.1 h
  simp [stat, resolve, segments, hcheck, hslash, hwalks.walk, he, bind, Except.bind]

/-- A file that is named is read. -/
theorem Names.readFile (h : fs.Names path l) (hslash : path.endsWith "/" = false)
    (he : fs.get? l = some (.file content executable)) : fs.readFile path = .ok content := by
  simp [Files.readFile, h.stat_file hslash he, bind, Except.bind]

/-- Where nothing stands, nothing is found. -/
theorem Names.stat_ne_ok (h : fs.Names path l) (hslash : path.endsWith "/" = false)
    (he : fs.get? l = none) : fs.stat path ≠ .ok e := by
  intro hstat
  obtain ⟨d, name, hcheck, hwalk, hd, hlast, hname, rfl⟩ := names_iff.1 h
  cases hresolve : fs.walk maxLinks (fs.origin path) (namedSegments path) with
  | error e => simp [stat, resolve, segments, hcheck, hslash, hresolve, bind, Except.bind] at hstat
  | ok r =>
    obtain ⟨m, hwalks⟩ := walk_eq_ok_iff.1 hresolve
    rw [namedSegments_eq_of_getLast? hlast] at hwalks
    obtain ⟨d', m', hwalks', hstep⟩ := hwalks.split
    obtain rfl : d = d' := by
      have := hwalk.symm.trans hwalks'.walk
      cases this
      rfl
    -- The last step goes to an entry, and there is none.
    cases hstep with
    | here => exact hname.ne_here rfl
    | up => exact hname.ne_up rfl
    | entry _ _ hentry => simp [he] at hentry
    | link _ _ hentry => simp [he] at hentry

end Files

end DocPress.FileSystem
