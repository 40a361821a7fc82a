import DocPress.Proofs.FileSystem.Segments
import DocPress.Proofs.Text.Counter

/-!
# DocPress.Proofs.FileSystem.Temporary

Temporary files are new:

1. Different numbers give different names (`numberedName_injective`), and there are more numbers to
   try than entries, so the name that is found is free (`get?_freeName`).
2. The absolute path that is given away names just that location (`Grounded.names_absolute`), and an
   empty file stands there now (`makeTemporary_eq_ok`).
3. To discard the file is to have nothing there again (`run_discardTemporary`).
-/

namespace DocPress.FileSystem

open DocPress.Text

/-! ## Numbered names -/

section Names

variable {before after : String} {n m : Nat} {taken : String → Bool}

/-- Different numbers give different names: the digits read back are the number, whatever zeros
stand before them. -/
theorem numberedName_injective (h : numberedName before after n = numberedName before after m) :
    n = m := by
  have hread (k : Nat) : Nat.ofDigitChars 10
      (List.replicate (6 - (toString k).length) '0' ++ (toString k).toList) 0 = k := by
    rw [Nat.ofDigitChars_append, Nat.ofDigitChars_replicate_zero, Nat.mul_zero,
      ofDigitChars_toString]
  have hlists := congrArg String.toList h
  simp only [numberedName, String.toList_append, String.toList_ofList] at hlists
  have hdigits := List.append_cancel_right hlists
  rw [List.append_assoc, List.append_assoc] at hdigits
  rw [← hread n, ← hread m, List.append_cancel_left hdigits]

/-- A numbered name has no slash but those in what stands around the number. -/
theorem isSegment_numberedName (hbefore : IsSegment before) (hafter : '/' ∉ after.toList)
    (n : Nat) : IsSegment (numberedName before after n) := by
  constructor
  · intro h
    have hlist := congrArg String.toList h
    simp only [numberedName, String.toList_append, String.toList_ofList, String.toList_empty,
      List.append_eq_nil_iff] at hlist
    exact hbefore.1 (String.toList_eq_nil_iff.1 hlist.1.1.1)
  · have hdigits : '/' ∉ (toString n).toList := fun h =>
      absurd (isDigit_of_mem_toString h) (by decide)
    simp only [numberedName, String.toList_append, String.toList_ofList, List.mem_append,
      List.mem_replicate, not_or]
    exact ⟨⟨⟨hbefore.2, by simp⟩, hdigits⟩, hafter⟩

/-- The search gives one of the numbered names, whether or not it finds a free one. -/
theorem freeNameFrom_eq (taken : String → Bool) (before after : String) (more n : Nat) :
    ∃ k, freeNameFrom taken before after more n = numberedName before after k := by
  induction more generalizing n with
  | zero => exact ⟨n, rfl⟩
  | succ more ih =>
    rw [freeNameFrom]
    split
    · exact ih (n + 1)
    · exact ⟨n, rfl⟩

/-- If the search ends at a name that is taken, then all names on the way are taken. -/
theorem taken_of_freeNameFrom {more : Nat}
    (h : taken (freeNameFrom taken before after more n) = true) (hn : n ≤ m) (hm : m ≤ n + more) :
    taken (numberedName before after m) = true := by
  induction more generalizing n with
  | zero =>
    obtain rfl : m = n := by omega
    exact h
  | succ more ih =>
    rw [freeNameFrom] at h
    split at h
    · rcases Nat.eq_or_lt_of_le hn with rfl | hlt
      · assumption
      · exact ih h hlt (by omega)
    · contradiction

end Names

/-! ## Free names -/

namespace Files

variable {fs fs' : Files} {l d : Location} {directory name path before after : String} {n : Nat}
variable {content : Bytes}

/-- What stands anywhere but at the root is in the list of entries. -/
theorem mem_of_get? (h : (fs.get? l).isSome = true) (hl : l ≠ []) :
    l ∈ fs.entries.map (·.1) := by
  rw [get?_of_ne_root fs hl] at h
  obtain ⟨e, he⟩ := Option.isSome_iff_exists.1 h
  obtain ⟨before, after, heq, -⟩ := List.lookup_eq_some_iff.1 he
  simp [heq]

/-- The name that is found is free: the entries are too few to take all that are tried. -/
theorem get?_freeName (fs : Files) (d : Location) (before after : String) :
    fs.get? (d ++ [fs.freeName d before after]) = none := by
  by_contra hsome
  let taken (name : String) : Bool := (fs.get? (d ++ [name])).isSome
  let location (k : Nat) : Location := d ++ [numberedName before after k]
  have hend : taken (freeNameFrom taken before after fs.entries.length 0) = true :=
    Option.ne_none_iff_isSome.1 hsome
  have hlocation : location.Injective := fun i j heq =>
    numberedName_injective (List.singleton_inj.1 (List.append_cancel_left heq))
  obtain ⟨k, hk, hfree⟩ := exists_notMem_of_injective hlocation (fs.entries.map (·.1))
  rw [List.length_map] at hk
  have htaken : taken (numberedName before after k) = true :=
    taken_of_freeNameFrom hend (Nat.zero_le k) (by rwa [Nat.zero_add])
  exact hfree (mem_of_get? htaken (by simp [location]))

/-- The first number is taken if it can be. -/
theorem freeName_of_free (h : fs.get? (d ++ [numberedName before after 0]) = none) :
    fs.freeName d before after = numberedName before after 0 := by
  rw [freeName]
  cases fs.entries.length with
  | zero => rfl
  | succ more => simp [freeNameFrom, h]

/-- The free name can be a name, if what it is made of has no slash. -/
theorem isSegment_freeName (fs : Files) (d : Location) (hbefore : IsSegment before)
    (hafter : '/' ∉ after.toList) : IsSegment (fs.freeName d before after) := by
  obtain ⟨n, hn⟩ := freeNameFrom_eq (fun name => (fs.get? (d ++ [name])).isSome) before after
    fs.entries.length 0
  rw [Files.freeName, hn]
  exact isSegment_numberedName hbefore hafter n

/-! ## The path that is given away -/

/-- The absolute path of a name in a directory leads there and ends in the name. -/
theorem Grounded.walk_absolute (h : fs.Grounded) (hname : IsSegment name)
    (hdirectory : directory ≠ "") (hd : fs.resolve directory = .ok d) :
    fs.walk maxLinks (fs.origin (fs.absolute (joinPath directory name)))
        (namedSegments (fs.absolute (joinPath directory name))).dropLast = .ok d ∧
      (namedSegments (fs.absolute (joinPath directory name))).getLast? = some name := by
  have hrelative := not_isAbsolute_of_isSegment hname
  have hsegments : namedSegments (fs.absolute (joinPath directory name)) =
      (if isAbsolute directory then namedSegments directory
        else fs.current ++ namedSegments directory) ++ [name] := by
    rw [h.namedSegments_absolute, isAbsolute_joinPath hrelative hdirectory,
      namedSegments_joinPath hrelative, namedSegments_of_isSegment hname]
    split <;> simp
  rw [origin, isAbsolute_absolute, if_pos rfl, hsegments, List.dropLast_concat,
    List.getLast?_concat]
  refine ⟨?_, rfl⟩
  -- Either way the directory is reached from the root on.
  obtain ⟨-, m, hwalks⟩ := walks_of_resolve hd
  rw [origin] at hwalks
  by_cases habsolute : isAbsolute directory = true
  · rw [if_pos habsolute] at hwalks ⊢
    exact hwalks.walk
  · rw [if_neg habsolute] at hwalks ⊢
    exact (h.walks.append hwalks).walk

/-- The absolute path of a name in a directory names just that. -/
theorem Grounded.names_absolute (h : fs.Grounded) (hname : IsSegment name)
    (hdirectory : directory ≠ "") (hd : fs.resolve directory = .ok d)
    (hnames : fs.Names (fs.absolute (joinPath directory name)) l) : l = d ++ [name] := by
  obtain ⟨hwalk, hlast⟩ := h.walk_absolute hname hdirectory hd
  obtain ⟨d', name', -, hwalk', -, hlast', -, rfl⟩ := names_iff.1 hnames
  rw [hwalk] at hwalk'
  rw [hlast] at hlast'
  cases hwalk'
  cases hlast'
  rfl

/-- That path names something if it is a path at all. -/
theorem Grounded.names_of_checkPath (h : fs.Grounded) (hsegment : IsSegment name)
    (hname : IsName name) (hdirectory : directory ≠ "") (hd : fs.resolve directory = .ok d)
    (hthere : fs.get? d = some .directory)
    (hcheck : checkPath (fs.absolute (joinPath directory name)) = .ok ()) :
    fs.Names (fs.absolute (joinPath directory name)) (d ++ [name]) := by
  obtain ⟨hwalk, hlast⟩ := h.walk_absolute hsegment hdirectory hd
  exact names_iff.2 ⟨d, name, hcheck, hwalk, hthere, hlast, hname, rfl⟩

/-- The absolute path of a name in a directory ends in that name. -/
theorem getLast?_absolute (fs : Files) (hname : IsSegment name) (directory : String) :
    (namedSegments (fs.absolute (joinPath directory name))).getLast? = some name := by
  have hjoined : namedSegments (joinPath directory name) = namedSegments directory ++ [name] := by
    rw [namedSegments_joinPath (not_isAbsolute_of_isSegment hname),
      namedSegments_of_isSegment hname]
  by_cases habsolute : isAbsolute (joinPath directory name) = true
  · rw [absolute, joinPath, if_pos (by rwa [isAbsolute] at habsolute), hjoined,
      List.getLast?_concat]
  · rw [absolute, namedSegments_joinPath (by simpa using habsolute), hjoined, ← List.append_assoc,
      List.getLast?_concat]

/-- The path of a temporary file ends in its name, so in no slash. -/
theorem endsWith_absolute (fs : Files) (hname : IsSegment name) (directory : String) :
    (fs.absolute (joinPath directory name)).endsWith "/" = false := by
  obtain ⟨front, hfront⟩ := exists_joinPath_eq directory name
  obtain ⟨front', hfront'⟩ :=
    exists_joinPath_eq ("/" ++ "/".intercalate fs.current) (joinPath directory name)
  rw [absolute, hfront', hfront, ← String.append_assoc]
  exact endsWith_slash_append hname _

/-- A file is written through a path with a name. -/
theorem names_of_writeFile (h : fs.writeFile path content = .ok fs') : ∃ l, fs.Names path l := by
  obtain ⟨l, hl, -⟩ := writeFile_eq_ok h
  rw [writeLocation] at hl
  cases hplace : fs.placeFrom maxLinks fs.current path with
  | error e => simp [hplace, bind, Except.bind] at hl
  | ok place =>
    obtain ⟨d, name?, slash⟩ := place
    cases name? with
    | none => simp [hplace, bind, Except.bind] at hl
    | some name => exact ⟨_, d, name, slash, hplace, rfl⟩

end Files

/-! ## The actions -/

section Actions

variable {fs fs' : Files} {l d : Location} {directory before after path : String} {ε : Type}

/-- A temporary file is made in two steps: the directory is found, and an empty file is written
under a free name of it. -/
theorem run_makeTemporary (directory before after : String) (fs : Files) :
    (makeTemporary directory before after).run.run fs = match fs.resolve directory with
      | .ok d =>
        let path := fs.absolute (joinPath directory (fs.freeName d before after))
        match fs.writeFile path [] with
        | .ok fs' => (.ok path, fs')
        | .error e => (.error e, fs)
      | .error e =>
        (.error (.other (e.message ++ " at path " ++
          quoted (fs.absolute (joinPath directory (numberedName before after 0))))), fs) := by
  simp only [makeTemporary, Action.run_bind, Action.run_get]
  cases fs.resolve directory with
  | error e => rfl
  | ok d =>
    simp only [Action.run_bind, Action.run_update]
    cases Files.writeFile (fs.absolute (joinPath directory (fs.freeName d before after))) [] fs <;>
      rfl

/-- The path that is given away is that of a free name in the directory. -/
theorem makeTemporary_path
    (h : (makeTemporary directory before after).run.run fs = (.ok path, fs')) :
    ∃ d, fs.resolve directory = .ok d ∧
      path = fs.absolute (joinPath directory (fs.freeName d before after)) ∧
      fs.writeFile path [] = .ok fs' := by
  rw [run_makeTemporary] at h
  cases hd : fs.resolve directory with
  | error e =>
    rw [hd] at h
    cases h
  | ok d =>
    rw [hd] at h
    cases hwrite : fs.writeFile (fs.absolute (joinPath directory (fs.freeName d before after))) []
      <;> simp only [hwrite] at h <;> cases h
    exact ⟨d, rfl, rfl, hwrite⟩

/-- A temporary file is an empty file, in the directory, where nothing stood before, and the path
that is given away names it. -/
theorem makeTemporary_eq_ok
    (h : (makeTemporary directory before after).run.run fs = (.ok path, fs'))
    (hfs : fs.Grounded) (hdirectory : directory ≠ "") (hbefore : IsSegment before)
    (hafter : '/' ∉ after.toList) : ∃ d l, fs.resolve directory = .ok d ∧
      l = d ++ [fs.freeName d before after] ∧ fs.Names path l ∧ path.endsWith "/" = false ∧
      path = fs.absolute (joinPath directory (fs.freeName d before after)) ∧
      fs.get? l = none ∧ fs' = fs.set l (.file [] false) := by
  obtain ⟨d, hd, rfl, hwrite⟩ := makeTemporary_path h
  have hfree := fs.get?_freeName d before after
  have hname := fs.isSegment_freeName d hbefore hafter
  have hslash := fs.endsWith_absolute hname directory
  obtain ⟨l, hnames⟩ := Files.names_of_writeFile hwrite
  obtain rfl := hfs.names_absolute hname hdirectory hd hnames
  rw [Files.writeFile_of_none hnames hslash hfree] at hwrite
  exact ⟨d, _, hd, rfl, hnames, hslash, rfl, hfree, (Except.ok.inj hwrite).symm⟩

/-- There is a temporary file wherever there is a directory, as long as its path is not too long. -/
theorem makeTemporary_of_resolve (hfs : fs.Grounded) (hdirectory : directory ≠ "")
    (hbefore : IsSegment before) (hafter : '/' ∉ after.toList)
    (hd : fs.resolve directory = .ok d) (hthere : fs.get? d = some .directory)
    (hcheck : Files.checkPath (fs.absolute (joinPath directory (fs.freeName d before after))) =
      .ok ())
    (hname : IsName (fs.freeName d before after)) :
    (makeTemporary directory before after).run.run fs =
      (.ok (fs.absolute (joinPath directory (fs.freeName d before after))),
        fs.set (d ++ [fs.freeName d before after]) (.file [] false)) := by
  have hsegment := fs.isSegment_freeName d hbefore hafter
  have hnames := hfs.names_of_checkPath hsegment hname hdirectory hd hthere hcheck
  have hwrite := Files.writeFile_of_none hnames (fs.endsWith_absolute hsegment directory)
    (fs.get?_freeName d before after) []
  rw [run_makeTemporary, hd]
  simp only [hwrite]

/-- If no temporary file can be made, nothing has changed. -/
theorem makeTemporary_eq_error
    (h : (makeTemporary directory before after).run.run fs = (.error e, fs')) : fs' = fs := by
  rw [run_makeTemporary] at h
  cases hd : fs.resolve directory with
  | error e =>
    rw [hd] at h
    cases h
    rfl
  | ok d =>
    cases hwrite : fs.writeFile (fs.absolute (joinPath directory (fs.freeName d before after))) []
      <;> simp only [hd, hwrite] at h <;> cases h
    rfl

/-- To discard a temporary file never fails; what cannot be removed is left. -/
theorem run_discardTemporary (path : String) (fs : Files) :
    (discardTemporary path : Action ε Unit).run.run fs =
      (.ok (), match fs.removeFile path with
        | .ok fs' => fs'
        | .error _ => fs) := by
  simp only [discardTemporary, Action.run_bind, Action.run_get]
  cases fs.removeFile path <;> rfl

/-- To discard a file leaves nothing at its location, even if nothing is there any more. -/
theorem discardTemporary_off (hnames : fs.Names path l) (hslash : path.endsWith "/" = false)
    (he : fs.get? l = none ∨ ∃ content executable, fs.get? l = some (.file content executable)) :
    fs.SameOff l ((discardTemporary path : Action ε Unit).run.run fs).2 ∧
      ((discardTemporary path : Action ε Unit).run.run fs).2.get? l = none := by
  rw [run_discardTemporary]
  rcases he with hnone | ⟨content, executable, hfile⟩
  · rw [Files.removeFile_of_none hnames hnone]
    exact ⟨.refl l fs, hnone⟩
  · rw [Files.removeFile_of_file hnames hslash hfile]
    exact ⟨.erase l fs, Files.get?_erase_self fs hnames.ne_root⟩

end Actions

end DocPress.FileSystem
