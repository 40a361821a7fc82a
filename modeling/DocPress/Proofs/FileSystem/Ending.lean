import DocPress.Proofs.FileSystem.Extension

/-!
# DocPress.Proofs.FileSystem.Ending

Paths that lead to files. Such a path ends in a name: nothing else at its end leads to anything but
a directory (`exists_endsIn`). This holds because all that is above a place on a way is a
directory (`Walks.above`).

* `EndsIn` — what a path with a name at its end falls into;
* `EndsIn.sibling` — another name behind the same start names an entry of the same directory;
* `Looks` — the entries on which it depends what stands at the end of a path. While they and all
  directories are kept, that stays the same (`resolve_of_looks`).
-/

namespace DocPress.FileSystem

/-- A text that does not end in a slash falls into a start and a last segment. -/
theorem exists_isStart (text : List Char) : ∃ front segment, text = front ++ segment ∧
    IsStart front ∧ '/' ∉ segment := by
  induction text using List.reverseRecOn with
  | nil => exact ⟨[], [], rfl, .inl rfl, by simp⟩
  | append_singleton text c ih =>
    obtain ⟨front, segment, rfl, hstart, hslash⟩ := ih
    by_cases hc : c = '/'
    · exact ⟨front ++ segment ++ [c], [], by simp, .inr ⟨_, by rw [hc]⟩, by simp⟩
    · exact ⟨front, segment ++ [c], by simp, hstart, by simp [hslash, Ne.symm hc]⟩

/-- It depends on what stands before the last segment whether a path is absolute. -/
theorem isAbsolute_of_segment {front segment : List Char} (hslash : '/' ∉ segment) :
    isAbsolute (String.ofList (front ++ segment)) = isAbsolute (String.ofList front) := by
  rw [isAbsolute_eq, isAbsolute_eq, String.toList_ofList, String.toList_ofList]
  cases front with
  | nil =>
    cases segment with
    | nil => rfl
    | cons c segment =>
      have hc : c ≠ '/' := fun heq => hslash (by simp [heq])
      simp [hc]
  | cons c front => rfl

namespace Files

/-- A path ends in a name: what stands before the name, and the directory in which the path names an
entry of that name. -/
structure EndsIn (fs : Files) (path : String) (front name : List Char) (d : Location) : Prop where
  text : path = String.ofList (front ++ name)
  start : IsStart front
  no_slash : '/' ∉ name
  ne_nil : name ≠ []
  names : fs.Names path (d ++ [String.ofList name])

/-- It depends on an entry what stands at the end of a path. -/
def Looks (fs : Files) (path : String) (w : Location) : Prop :=
  fs.Passes (fs.origin path) (segments path) w

variable {fs fs' : Files} {path : String} {front name new : List Char} {l d r w : Location}
variable {rest : List String} {n m k : Nat} {e : Entry} {content : Bytes} {executable : Bool}

/-! ## Ways to files -/

/-- All that is above a location is a directory. -/
def AboveAreDirectories (fs : Files) (l : Location) : Prop :=
  ∀ above, above <+: l → above ≠ l → fs.get? above = some .directory

namespace AboveAreDirectories

theorem root (fs : Files) : fs.AboveAreDirectories [] := fun _ habove hne =>
  absurd (List.prefix_nil.1 habove) hne

/-- The next location above is a directory, if the location itself is one. -/
theorem directory (h : fs.AboveAreDirectories l) (hl : fs.get? l = some .directory) :
    fs.get? l.dropLast = some .directory := by
  by_cases heq : l.dropLast = l
  · rw [heq, hl]
  · exact h _ (List.dropLast_prefix l) heq

theorem dropLast (h : fs.AboveAreDirectories l) : fs.AboveAreDirectories l.dropLast := by
  intro above habove hne
  by_cases heq : above = l
  · have hlonger := habove.length_le
    rw [heq, List.length_dropLast] at hlonger
    have hnil : l = [] := List.length_eq_zero_iff.1 (by omega)
    rw [heq, hnil] at hne
    exact absurd rfl hne
  · exact h above (habove.trans (List.dropLast_prefix l)) heq

/-- In a directory, what is above an entry is a directory. -/
theorem entry (h : fs.AboveAreDirectories l) (hl : fs.get? l = some .directory) (name : String) :
    fs.AboveAreDirectories (l ++ [name]) := by
  intro above habove hne
  rcases List.prefix_concat_iff.1 habove with heq | hprefix
  · exact absurd heq hne
  · by_cases heq : above = l
    · rw [heq, hl]
    · exact h above hprefix heq

/-- A link leads on from the root or from the directory it stands in. -/
theorem target (h : fs.AboveAreDirectories l) (target : String) :
    fs.AboveAreDirectories (if isAbsolute target then [] else l) := by
  split
  · exact root fs
  · exact h

/-- Paths begin in the root or in the working directory, above which there are directories only. -/
theorem origin (hfs : fs.Grounded) (path : String) : fs.AboveAreDirectories (fs.origin path) :=
  target (fun above habove _ => hfs.directory above habove) path

end AboveAreDirectories

/-- A link leads on from a directory. -/
theorem directory_target (hl : fs.get? l = some .directory) (target : String) :
    fs.get? (if isAbsolute target then [] else l) = some .directory := by
  split
  · rfl
  · exact hl

/-- Above each place on a way stand directories only, since a way goes on from directories only. -/
theorem Walks.above (h : fs.Walks n l rest d m) (hl : fs.AboveAreDirectories l) :
    fs.AboveAreDirectories d := by
  induction h with
  | done => exact hl
  | here _ _ ih => exact ih hl
  | up _ _ ih => exact ih hl.dropLast
  | entry hd _ _ _ _ ih => exact ih (hl.entry hd _)
  | link _ _ _ _ _ ih => exact ih (hl.target _)

/-- What is no directory is looked at before a way ends there. -/
theorem Walks.passes_end (h : fs.Walks n l rest d m) (hl : fs.AboveAreDirectories l)
    (hd : fs.get? d ≠ some .directory) : d = l ∨ fs.Passes l rest d := by
  induction h with
  | done => exact .inl rfl
  | here hdirectory _ ih =>
    rcases ih hl hd with rfl | hpasses
    · exact absurd hdirectory hd
    · exact .inr hpasses.here
  | up hdirectory _ ih =>
    rcases ih hl.dropLast hd with rfl | hpasses
    · exact absurd (hl.directory hdirectory) hd
    · exact .inr hpasses.up
  | entry hdirectory hname hentry hlink _ ih =>
    rcases ih (hl.entry hdirectory _) hd with rfl | hpasses
    · exact .inr (.looked hname)
    · exact .inr (hpasses.entry hname (by simpa [hentry] using hlink))
  | @link _ _ target _ _ _ _ hdirectory hname hentry _ _ ih =>
    rcases ih (hl.target _) hd with rfl | hpasses
    · exact absurd (directory_target hdirectory target) hd
    · exact .inr (hpasses.link hname hentry)

/-- A way to what is no directory ends in a name. -/
theorem Walks.exists_name (h : fs.Walks n l rest d m) (hl : fs.AboveAreDirectories l)
    (hdirectory : fs.get? l = some .directory) (hd : fs.get? d ≠ some .directory) :
    ∃ init name r k, rest = init ++ [name] ∧ IsName name ∧ fs.Walks n l init r k ∧
      fs.get? r = some .directory := by
  rcases List.eq_nil_or_concat' rest with rfl | ⟨init, name, rfl⟩
  · cases h
    exact absurd hdirectory hd
  · obtain ⟨r, k, hinit, hlast⟩ := h.split
    cases hlast with
    | here hr hrest =>
      cases hrest
      exact absurd hr hd
    | up hr hrest =>
      cases hrest
      exact absurd ((hinit.above hl).directory hr) hd
    | entry hr hname | link hr hname => exact ⟨init, name, r, _, rfl, hname, hinit, hr⟩

/-- A way goes on as it did while no directory is lost and nothing that is looked at. -/
theorem Walks.of_looked (h : fs.Walks n l rest d m)
    (hdirectory : ∀ l, fs.get? l = some .directory → fs'.get? l = some .directory)
    (hlooked : ∀ w e, fs.Passes l rest w → fs.get? w = some e → fs'.get? w = some e) :
    fs'.Walks n l rest d m := by
  induction h with
  | done => exact .done
  | here hl _ ih => exact .here (hdirectory _ hl) (ih fun w e hw => hlooked w e hw.here)
  | up hl _ ih => exact .up (hdirectory _ hl) (ih fun w e hw => hlooked w e hw.up)
  | entry hl hname hentry hlink _ ih =>
    have hkept := hlooked _ _ (.looked hname) hentry
    exact .entry (hdirectory _ hl) hname hkept hlink (ih fun w e hw =>
      hlooked w e (hw.entry hname (by simpa [hentry] using hlink)))
  | link hl hname hentry htarget _ ih =>
    have hkept := hlooked _ _ (.looked hname) hentry
    exact .link (hdirectory _ hl) hname hkept htarget (ih fun w e hw =>
      hlooked w e (hw.link hname hentry))

/-- On the way along a name that is no link, only its entry is looked at. -/
theorem Passes.eq_of_name {name : String} (h : fs.Passes l [name] w) (hname : IsName name)
    (hlink : ∀ target, fs.get? (l ++ [name]) ≠ some (.link target)) : w = l ++ [name] := by
  cases h with
  | here => exact absurd rfl hname.ne_here
  | up => exact absurd rfl hname.ne_up
  | looked => rfl
  | entry _ _ hrest => cases hrest
  | link _ hentry => exact absurd hentry (hlink _)

/-! ## Paths to files -/

/-- The name at the end of a path is its last segment. -/
theorem segments_of_isStart (hstart : IsStart front) (hslash : '/' ∉ name) (hne : name ≠ []) :
    segments (String.ofList (front ++ name)) =
      namedSegments (String.ofList front) ++ [String.ofList name] := by
  have hsegment : IsSegment (String.ofList name) := ⟨by simpa using hne, by simpa using hslash⟩
  have hend : String.endsWith (String.ofList (front ++ name)) "/" = false := by
    rw [String.ofList_append]
    exact endsWith_slash_append hsegment _
  rw [segments, hend, namedSegments_of_isStart hstart hslash hne]
  rfl

/-- The last segment of a path that does not end in a directory is the rest of its text. -/
theorem exists_isStart_of_segments {init : List String} {name : String}
    (h : segments path = init ++ [name]) (hname : IsName name) : ∃ front segment,
      path = String.ofList (front ++ segment) ∧ IsStart front ∧ '/' ∉ segment ∧ segment ≠ [] ∧
        name = String.ofList segment ∧ init = namedSegments (String.ofList front) := by
  obtain ⟨front, segment, htext, hstart, hslash⟩ := exists_isStart path.toList
  have hpath : path = String.ofList (front ++ segment) := by rw [← htext, String.ofList_toList]
  by_cases hne : segment = []
  · rcases hstart with rfl | ⟨before, rfl⟩
    · have hempty : segments "" = [] := by decide +kernel
      rw [hpath, hne, List.append_nil, String.ofList_nil, hempty] at h
      simp at h
    · have hend : path.endsWith "/" = true := endsWith_slash_iff.2
        ⟨String.ofList before, by rw [hpath, hne]; simp⟩
      rw [segments, if_pos hend] at h
      have hlast := (List.append_inj_right' h rfl)
      exact absurd (List.singleton_inj.1 hlast).symm hname.ne_here
  · rw [hpath, segments_of_isStart hstart hslash hne] at h
    obtain ⟨hinit, hlast⟩ := List.append_inj' h rfl
    exact ⟨front, segment, hpath, hstart, hslash, hne, (List.singleton_inj.1 hlast).symm,
      hinit.symm⟩

namespace EndsIn

theorem isName (h : fs.EndsIn path front name d) : IsName (String.ofList name) := by
  obtain ⟨_, last, -, -, -, -, hname, hl⟩ := names_iff.1 h.names
  rwa [List.singleton_inj.1 (List.append_inj_right' hl rfl)]

/-- What another name behind the same start names stands in the same directory. -/
theorem sibling (h : fs.EndsIn path front name d) (hslash : '/' ∉ new) (hne : new ≠ [])
    (hnames : fs.Names (String.ofList (front ++ new)) l) : l = d ++ [String.ofList new] := by
  obtain ⟨r, last, -, hwalk, -, hlast, -, hl⟩ := names_iff.1 h.names
  obtain ⟨r', last', -, hwalk', -, hlast', -, rfl⟩ := names_iff.1 hnames
  have horigin : fs.origin (String.ofList (front ++ new)) = fs.origin path := by
    rw [origin, isAbsolute_of_segment hslash, h.text, origin, isAbsolute_of_segment h.no_slash]
  have hr : r = d := (List.append_inj' hl rfl).1.symm
  rw [h.text, namedSegments_of_isStart h.start h.no_slash h.ne_nil, List.dropLast_concat, ← h.text]
    at hwalk
  rw [namedSegments_of_isStart h.start hslash hne, List.dropLast_concat, horigin, hwalk] at hwalk'
  rw [namedSegments_of_isStart h.start hslash hne, List.getLast?_concat] at hlast'
  rw [← Except.ok.inj hwalk', hr, ← Option.some.inj hlast']

/-- If no link stands there, the path leads to nothing else. -/
theorem eq_of_resolve (h : fs.EndsIn path front name d) (hr : fs.resolve path = .ok r)
    (hlink : ∀ target, fs.get? (d ++ [String.ofList name]) ≠ some (.link target)) :
    r = d ++ [String.ofList name] := by
  obtain ⟨d', last, -, hwalk, -, -, -, hl⟩ := names_iff.1 h.names
  obtain ⟨-, m, hwalks⟩ := resolve_eq_ok_iff.1 hr
  obtain rfl : d' = d := (List.append_inj' hl rfl).1.symm
  rw [h.text, namedSegments_of_isStart h.start h.no_slash h.ne_nil, List.dropLast_concat, ← h.text]
    at hwalk
  rw [h.text, segments_of_isStart h.start h.no_slash h.ne_nil, ← h.text] at hwalks
  obtain ⟨between, k, hfront, hlast⟩ := hwalks.split
  obtain rfl : between = d' := Except.ok.inj (hfront.walk.symm.trans hwalk)
  have hname := h.isName
  generalize String.ofList name = last at *
  cases hlast with
  | here => exact absurd rfl hname.ne_here
  | up => exact absurd rfl hname.ne_up
  | entry _ _ _ _ hrest =>
    cases hrest
    rfl
  | @link _ _ target _ _ _ _ _ _ hentry => exact absurd hentry (hlink target)

end EndsIn

/-- A path that leads to what is no directory ends in a name. -/
theorem exists_endsIn (hfs : fs.Grounded) (h : fs.resolve path = .ok r)
    (hr : fs.get? r ≠ some .directory) : ∃ front name d, fs.EndsIn path front name d := by
  obtain ⟨hcheck, m, hwalks⟩ := resolve_eq_ok_iff.1 h
  have horigin : fs.get? (fs.origin path) = some .directory :=
    directory_target (hfs.directory _ (List.prefix_refl _)) path
  obtain ⟨init, last, d, k, hsegments, hname, hinit, hd⟩ :=
    hwalks.exists_name (.origin hfs path) horigin hr
  obtain ⟨front, name, hpath, hstart, hslash, hne, rfl, rfl⟩ :=
    exists_isStart_of_segments hsegments hname
  refine ⟨front, name, d, hpath, hstart, hslash, hne, names_iff.2
    ⟨d, String.ofList name, hcheck, ?_, hd, ?_, hname, rfl⟩⟩
  · rw [hpath, namedSegments_of_isStart hstart hslash hne, List.dropLast_concat, ← hpath]
    exact hinit.walk
  · rw [hpath, namedSegments_of_isStart hstart hslash hne, List.getLast?_concat]

/-! ## What it depends on -/

/-- It depends on what stands there itself, if that is no directory. -/
theorem looks_of_resolve (hfs : fs.Grounded) (h : fs.resolve path = .ok r)
    (hr : fs.get? r ≠ some .directory) : fs.Looks path r := by
  obtain ⟨-, m, hwalks⟩ := resolve_eq_ok_iff.1 h
  rcases hwalks.passes_end (.origin hfs path) hr with rfl | hlooks
  · exact absurd (directory_target (hfs.directory _ (List.prefix_refl _)) path) hr
  · exact hlooks

/-- What stands at the end of a path stays there while no directory is lost and nothing on which it
depends. -/
theorem resolve_of_looks (hcurrent : fs'.current = fs.current)
    (hdirectory : ∀ l, fs.get? l = some .directory → fs'.get? l = some .directory)
    (hlooks : ∀ w e, fs.Looks path w → fs.get? w = some e → fs'.get? w = some e)
    (h : fs.resolve path = .ok r) : fs'.resolve path = .ok r := by
  obtain ⟨hcheck, m, hwalks⟩ := resolve_eq_ok_iff.1 h
  refine resolve_eq_ok_iff.2 ⟨hcheck, m, ?_⟩
  rw [origin, hcurrent]
  exact hwalks.of_looked hdirectory hlooks

end Files

end DocPress.FileSystem
