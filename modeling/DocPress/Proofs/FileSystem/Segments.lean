import Mathlib.Data.List.Induction
import DocPress.FileSystem.Temporary
import DocPress.Proofs.FileSystem.Directories

/-!
# DocPress.Proofs.FileSystem.Segments

The segments of paths that are put together, and of a path that is made absolute: a name joined to
a directory is one more segment, and the working directory comes before all of a relative path. So
both forms of a path lead to the same place, as long as the working directory is what it seems
(`Files.Grounded`).
-/

namespace DocPress.FileSystem

/-! ## Segments -/

/-- A text that can be a name: it has characters, and none of them is a slash. -/
def IsSegment (name : String) : Prop :=
  name ≠ "" ∧ '/' ∉ name.toList

/-- A slash parts the segments before it from those behind it. -/
theorem namedSegments_append_slash (a b : String) :
    namedSegments (a ++ "/" ++ b) = namedSegments a ++ namedSegments b := by
  simp only [namedSegments, String.toList_append, ← List.filter_append, ← List.map_append]
  rw [List.append_assoc, show "/".toList = ['/'] from rfl, List.singleton_append,
    List.splitOn_append_cons_self]

theorem namedSegments_empty : namedSegments "" = [] := rfl

/-- A slash at the end brings no segment. -/
theorem namedSegments_slash (a : String) : namedSegments (a ++ "/") = namedSegments a := by
  have h := namedSegments_append_slash a ""
  rwa [String.append_empty, namedSegments_empty, List.append_nil] at h

/-- A name is its own only segment. -/
theorem namedSegments_of_isSegment (h : IsSegment name) : namedSegments name = [name] := by
  rw [namedSegments, List.splitOn_eq_singleton h.2]
  simp [h.1]

/-- Names with slashes between them. -/
theorem namedSegments_intercalate (h : ∀ name ∈ names, IsSegment name) :
    namedSegments ("/".intercalate names) = names := by
  induction names with
  | nil => rfl
  | cons name names ih =>
    have hname := namedSegments_of_isSegment (h name (by simp))
    cases names with
    | nil => simpa using hname
    | cons next names =>
      have hnames := ih fun name hname => h name (by simp [hname])
      rw [String.intercalate_cons_cons, namedSegments_append_slash, hname, hnames]
      rfl

/-! ## Joined paths -/

/-- Absolute paths begin with a slash. -/
theorem isAbsolute_iff : isAbsolute path = true ↔ ∃ rest, path = "/" ++ rest := by
  rw [isAbsolute, String.startsWith_string_iff]
  constructor
  · rintro ⟨rest, hrest⟩
    exact ⟨String.ofList rest, String.toList_inj.1 (by simpa using hrest.symm)⟩
  · rintro ⟨rest, rfl⟩
    simp

/-- The test for a slash at the end. -/
theorem endsWith_slash_iff : String.endsWith path "/" = true ↔ ∃ front, path = front ++ "/" := by
  rw [← String.endsWith_toSlice, String.Slice.endsWith_string_iff, String.copy_toSlice]
  constructor
  · rintro ⟨front, hfront⟩
    exact ⟨String.ofList front, String.toList_inj.1 (by simpa using hfront.symm)⟩
  · rintro ⟨front, rfl⟩
    simp

/-- The first character tells whether a path is absolute. -/
theorem isAbsolute_eq (path : String) : isAbsolute path = (path.toList.head? == some '/') := by
  rw [Bool.eq_iff_iff, isAbsolute, String.startsWith_string_iff, show "/".toList = ['/'] from rfl]
  cases path.toList with
  | nil => simp
  | cons c rest => simp [List.cons_prefix_cons, @eq_comm _ '/']

/-- What ends in a name does not end in a slash. -/
theorem endsWith_slash_append (h : IsSegment name) (front : String) :
    String.endsWith (front ++ name) "/" = false := by
  rw [Bool.eq_false_iff]
  intro hend
  obtain ⟨rest, hrest⟩ := endsWith_slash_iff.1 hend
  have hlist : front.toList ++ name.toList = rest.toList ++ ['/'] := by
    simpa using congrArg String.toList hrest
  have hname : name.toList ≠ [] := by simpa using h.1
  have hlast : '/' = name.toList.getLast hname := by
    rw [← List.getLast_append_right (l := front.toList) hname]
    simp [hlist]
  exact h.2 (hlast ▸ List.getLast_mem hname)

/-- A name is no absolute path. -/
theorem not_isAbsolute_of_isSegment (h : IsSegment name) : isAbsolute name = false := by
  rw [Bool.eq_false_iff]
  intro habsolute
  obtain ⟨rest, rfl⟩ := isAbsolute_iff.1 habsolute
  exact h.2 (by simp)

/-- What is joined to a directory stands at the end. -/
theorem exists_joinPath_eq (directory path : String) :
    ∃ front, joinPath directory path = front ++ path := by
  unfold joinPath
  split
  · exact ⟨"", String.empty_append.symm⟩
  · split
    · exact ⟨directory, rfl⟩
    · exact ⟨directory ++ "/", rfl⟩

/-- A relative path joined to a directory has the segments of both. -/
theorem namedSegments_joinPath (h : isAbsolute path = false) :
    namedSegments (joinPath directory path) = namedSegments directory ++ namedSegments path := by
  rw [isAbsolute] at h
  rw [joinPath, h, if_neg Bool.false_ne_true]
  by_cases hempty : directory = ""
  · simp [hempty, namedSegments_empty]
  · by_cases hend : directory.endsWith "/" = true
    · obtain ⟨front, rfl⟩ := endsWith_slash_iff.1 hend
      rw [if_pos (by rw [hend, Bool.or_true]), namedSegments_append_slash, namedSegments_slash]
    · rw [if_neg (by simp [hempty, hend]), namedSegments_append_slash]

/-- What stands at the end of a path has no bearing on whether it is absolute. -/
theorem isAbsolute_append (h : path ≠ "") : isAbsolute (path ++ rest) = isAbsolute path := by
  have hlist : path.toList ≠ [] := by simpa using h
  obtain ⟨c, cs, hcs⟩ := List.exists_cons_of_ne_nil hlist
  rw [Bool.eq_iff_iff, isAbsolute, isAbsolute, String.startsWith_string_iff,
    String.startsWith_string_iff, String.toList_append, hcs, show "/".toList = ['/'] from rfl]
  simp

/-- What is joined to a directory begins where that begins. -/
theorem isAbsolute_joinPath (h : isAbsolute path = false) (hdirectory : directory ≠ "") :
    isAbsolute (joinPath directory path) = isAbsolute directory := by
  rw [isAbsolute] at h
  rw [joinPath, h, if_neg Bool.false_ne_true]
  split
  · exact isAbsolute_append hdirectory
  · rw [String.append_assoc, isAbsolute_append hdirectory]

/-! ## Absolute paths -/

namespace Files

/-- The working directory stands where its names say: each of them is a name, and there is a
directory at each step on the way. -/
structure Grounded (fs : Files) : Prop where
  segment : ∀ name ∈ fs.current, IsSegment name
  name : ∀ name ∈ fs.current, IsName name
  directory : ∀ l, l <+: fs.current → fs.get? l = some .directory

variable {fs fs' : Files} {l : Location} {n : Nat} {path : String} {rest : List String}

/-- The working directory stays in place while it is the same and no directory is lost. -/
theorem Grounded.of_directories (h : fs.Grounded) (hcurrent : fs'.current = fs.current)
    (hdirectory : ∀ l, fs.get? l = some .directory → fs'.get? l = some .directory) :
    fs'.Grounded where
  segment := by rw [hcurrent]; exact h.segment
  name := by rw [hcurrent]; exact h.name
  directory l hl := hdirectory l (h.directory l (by rwa [← hcurrent]))

/-- The working directory stays in place while the tree is kept. -/
theorem Grounded.keepsTree (h : fs.Grounded) (hkeeps : fs.KeepsTree fs') : fs'.Grounded :=
  h.of_directories hkeeps.current hkeeps.directory

/-- A way along names of directories. The induction is on the names, from the last one back. -/
theorem walks_of_directories {names : List String} (hname : ∀ name ∈ names, IsName name)
    (hdirectory : ∀ l', l' <+: names → fs.get? (l ++ l') = some .directory) :
    fs.Walks n l names (l ++ names) n := by
  induction names using List.reverseRecOn with
  | nil =>
    rw [List.append_nil]
    exact .done
  | append_singleton names name ih =>
    have hfront := ih (fun name h => hname name (by simp [h]))
      fun l' h => hdirectory l' (h.trans (List.prefix_append names [name]))
    rw [← List.append_assoc]
    refine hfront.concat (hdirectory names (List.prefix_append ..)) (hname name (by simp)) ?_
      (e := .directory) (by simp)
    rw [List.append_assoc]
    exact hdirectory _ (List.prefix_refl _)

/-- The names of the working directory lead to it from the root, without a link. -/
theorem Grounded.walks (h : fs.Grounded) : fs.Walks n [] fs.current fs.current n := by
  have hwalks : fs.Walks n [] fs.current ([] ++ fs.current) n :=
    walks_of_directories h.name fun l hl => h.directory l hl
  simpa using hwalks

/-- The working directory is there, and is where it seems to be. -/
theorem Grounded.resolve_here (h : fs.Grounded) : fs.resolve "." = .ok fs.current := by
  have hcurrent : fs.get? fs.current = some .directory := h.directory _ (List.prefix_refl _)
  have hcheck : checkPath "." = .ok () := checkPath_eq_ok_iff.2 (by decide)
  have hrelative : isAbsolute "." = false := by
    rw [isAbsolute_eq]
    decide
  have hwalks : fs.Walks maxLinks (fs.origin ".") (namedSegments ".") fs.current maxLinks := by
    rw [show namedSegments "." = ["."] by decide, origin, hrelative]
    exact .here hcurrent .done
  exact resolve_of_walks hcheck hwalks hcurrent

/-- A name alone names an entry of the working directory. -/
theorem Grounded.names_here {name : String} (h : fs.Grounded) (hsegment : IsSegment name)
    (hname : IsName name) (hnul : '\x00' ∉ name.toList) : fs.Names name (fs.current ++ [name]) := by
  have hlong : name.utf8ByteSize ≤ maxPathBytes := Nat.le_trans hname.short (by decide)
  have hwalk : fs.walk maxLinks (fs.origin name) (namedSegments name).dropLast =
      .ok fs.current := by
    rw [origin, not_isAbsolute_of_isSegment hsegment, namedSegments_of_isSegment hsegment]
    exact Walks.done.walk
  exact names_iff.2 ⟨_, name, checkPath_eq_ok_iff.2 ⟨hsegment.1, hnul, hlong⟩, hwalk,
    h.directory _ (List.prefix_refl _), by rw [namedSegments_of_isSegment hsegment]; rfl, hname,
    rfl⟩

/-- Where the working directory is the root, all paths begin there. -/
theorem resolve_of_segments {names : List String} (hcurrent : fs.current = [])
    (hcheck : checkPath path = .ok ()) (hsegments : segments path = names)
    (hwalks : fs.Walks maxLinks [] names l n) : fs.resolve path = .ok l := by
  have horigin : fs.origin path = [] := by rw [origin, hcurrent, ite_self]
  exact resolve_eq_ok_iff.2 ⟨hcheck, n, by rwa [horigin, hsegments]⟩

/-- A file in a directory below the root. -/
theorem resolve_of_two {directory name : String} {e : Entry} (hcurrent : fs.current = [])
    (hcheck : checkPath path = .ok ()) (hsegments : segments path = [directory, name])
    (hdirectory : IsName directory) (hname : IsName name)
    (hd : fs.get? [directory] = some .directory) (he : fs.get? [directory, name] = some e)
    (hlink : ∀ target, e ≠ .link target) : fs.resolve path = .ok [directory, name] :=
  resolve_of_segments hcurrent hcheck hsegments
    (.entry rfl hdirectory hd (by simp) (.entry hd hname he hlink .done))

/-- The absolute form of a path is absolute. -/
theorem isAbsolute_absolute (fs : Files) (path : String) :
    isAbsolute (fs.absolute path) = true := by
  by_cases h : isAbsolute path = true
  · rw [absolute, joinPath, if_pos (by rwa [isAbsolute] at h)]
    exact h
  · rw [Bool.not_eq_true] at h
    rw [absolute, isAbsolute_joinPath h (by simp)]
    exact isAbsolute_iff.2 ⟨_, rfl⟩

/-- The segments of a path that is made absolute. -/
theorem Grounded.namedSegments_absolute (h : fs.Grounded) (path : String) :
    namedSegments (fs.absolute path) =
      if isAbsolute path then namedSegments path else fs.current ++ namedSegments path := by
  by_cases hpath : isAbsolute path = true
  · rw [if_pos hpath, absolute, joinPath, if_pos (by rwa [isAbsolute] at hpath)]
  · rw [if_neg hpath]
    rw [Bool.not_eq_true] at hpath
    have hcurrent : namedSegments ("/" ++ "/".intercalate fs.current) = fs.current := by
      have := namedSegments_append_slash "" ("/".intercalate fs.current)
      rwa [String.empty_append, namedSegments_empty, List.nil_append,
        namedSegments_intercalate h.segment] at this
    rw [absolute, namedSegments_joinPath hpath, hcurrent]

end Files

end DocPress.FileSystem
