import DocPress.Proofs.FileSystem.Parents

/-!
# DocPress.Proofs.FileSystem.Way

Where paths lead if nothing stands in their way, and what they depend on. A path need not lead to
anything yet: what is missing on the way counts as a directory that may come to be there, so that
the way is the same before directories are made and afterwards.

* `OnWay` — the entries that are looked at on the way to the directory of a path;
* `Leads` — the location that a path leads to (`Leads.unique`), which is the one it names if it
  names any (`Names.leads`);
* `SameWay` — as long as the links on that way are the same, so is all of this, and directories that
  are found on it stay found (`SameWay.onWay`, `SameWay.leads`, `SameWay.resolve`).
-/

namespace DocPress.FileSystem

namespace Files

/-- Where a way along segments leads; what is missing on it counts as a directory. -/
inductive Route (fs : Files) : Location → List String → Location → Prop
  | done : Route fs l [] l
  | here (hrest : Route fs l path r) : Route fs l ("." :: path) r
  | up (hrest : Route fs l.dropLast path r) : Route fs l (".." :: path) r
  | entry (hname : IsName name) (hlink : ∀ target, fs.get? (l ++ [name]) ≠ some (.link target))
      (hrest : Route fs (l ++ [name]) path r) : Route fs l (name :: path) r
  | link (hname : IsName name) (hentry : fs.get? (l ++ [name]) = some (.link target))
      (hrest : Route fs (if isAbsolute target then [] else l) (segments target ++ path) r) :
      Route fs l (name :: path) r

/-- An entry on the way to the directory of a path. -/
def OnWay (fs : Files) (path : String) (w : Location) : Prop :=
  fs.Passes (fs.origin path) (namedSegments path).dropLast w

/-- A path leads to a location: it ends in a name, and the way along the rest of it leads to the
directory of the location. -/
def Leads (fs : Files) (path : String) (l : Location) : Prop :=
  ∃ r name, fs.Route (fs.origin path) (namedSegments path).dropLast r ∧
    (namedSegments path).getLast? = some name ∧ IsName name ∧ l = r ++ [name]

/-- The links on a way along segments are the same in other files. -/
def SameLinks (fs : Files) (l : Location) (path : List String) (fs' : Files) : Prop :=
  ∀ w, fs.Passes l path w →
    ∀ target, fs'.get? w = some (.link target) ↔ fs.get? w = some (.link target)

/-- Neither path leads to an entry on the way to the directory of the other. A path is apart from
itself unless it leads through the entry at its own end, as `x/../x` does. -/
def Apart (fs : Files) (path path' : String) : Prop :=
  ∀ l, (fs.Leads path l → ¬ fs.OnWay path' l) ∧ (fs.Leads path' l → ¬ fs.OnWay path l)

variable {fs : Files} {l l' d r r' w : Location} {n m : Nat} {a b : List String}
variable {path path' name : String}

/-! ## Ways that are walked -/

/-- A way that is walked is the one a path has with nothing missing. -/
theorem Walks.route {path : List String} (h : fs.Walks n l path d m) : fs.Route l path d := by
  induction h with
  | done => exact .done
  | here _ _ ih => exact .here ih
  | up _ _ ih => exact .up ih
  | entry _ hname hentry hlink _ ih => exact .entry hname (by simpa [hentry] using hlink) ih
  | link _ hname hentry _ _ ih => exact .link hname hentry ih

/-- What is looked at behind a way that is walked is looked at on the whole way. -/
theorem Walks.passes (h : fs.Walks n l a d m) (hw : fs.Passes d b w) : fs.Passes l (a ++ b) w := by
  induction h with
  | done => exact hw
  | here _ _ ih => exact .here (ih hw)
  | up _ _ ih => exact .up (ih hw)
  | entry _ hname hentry hlink _ ih => exact .entry hname (by simpa [hentry] using hlink) (ih hw)
  | link _ hname hentry _ _ ih =>
    have hrest := ih hw
    rw [List.append_assoc] at hrest
    exact .link hname hentry hrest

/-- A longer way looks at more. -/
theorem Passes.append (h : fs.Passes l a w) (b : List String) : fs.Passes l (a ++ b) w := by
  induction h with
  | here _ ih => exact .here ih
  | up _ ih => exact .up ih
  | looked hname => exact .looked hname
  | entry hname hlink _ ih => exact .entry hname hlink ih
  | link hname hentry _ ih =>
    rw [List.append_assoc] at ih
    exact .link hname hentry ih

/-- Nothing is looked at for a segment `.`. -/
theorem Passes.of_here (h : fs.Passes l ("." :: a) w) : fs.Passes l a w := by
  generalize hhere : "." :: a = path at h
  cases h with
  | here hrest =>
    obtain ⟨-, rfl⟩ := List.cons.inj hhere
    exact hrest
  | up => simp at hhere
  | looked hname | entry hname | link hname =>
    obtain ⟨rfl, -⟩ := List.cons.inj hhere
    exact absurd rfl hname.ne_here

/-- What is looked at along the start of a path is looked at along all of it. -/
theorem Passes.of_start (h : fs.Passes l a w) (hstart : a <+: b) : fs.Passes l b w := by
  obtain ⟨rest, rfl⟩ := hstart
  exact h.append rest

/-! ## One way only -/

theorem Route.of_here (h : fs.Route l ("." :: a) r) : fs.Route l a r := by
  generalize hhere : "." :: a = path at h
  cases h with
  | here hrest =>
    obtain ⟨-, rfl⟩ := List.cons.inj hhere
    exact hrest
  | done | up => simp at hhere
  | entry hname | link hname =>
    obtain ⟨rfl, -⟩ := List.cons.inj hhere
    exact absurd rfl hname.ne_here

theorem Route.of_up (h : fs.Route l (".." :: a) r) : fs.Route l.dropLast a r := by
  generalize hup : ".." :: a = path at h
  cases h with
  | up hrest =>
    obtain ⟨-, rfl⟩ := List.cons.inj hup
    exact hrest
  | done | here => simp at hup
  | entry hname | link hname =>
    obtain ⟨rfl, -⟩ := List.cons.inj hup
    exact absurd rfl hname.ne_up

/-- Whether a link stands at a name decides how the way goes on. -/
theorem Route.of_name (h : fs.Route l (name :: a) r) (hname : IsName name) :
    (∀ target, fs.get? (l ++ [name]) = some (.link target) →
      fs.Route (if isAbsolute target then [] else l) (segments target ++ a) r) ∧
    ((∀ target, fs.get? (l ++ [name]) ≠ some (.link target)) → fs.Route (l ++ [name]) a r) := by
  generalize hpath : name :: a = path at h
  cases h with
  | done => simp at hpath
  | here =>
    obtain ⟨rfl, -⟩ := List.cons.inj hpath
    exact absurd rfl hname.ne_here
  | up =>
    obtain ⟨rfl, -⟩ := List.cons.inj hpath
    exact absurd rfl hname.ne_up
  | entry _ hlink hrest =>
    obtain ⟨rfl, rfl⟩ := List.cons.inj hpath
    exact ⟨fun target hentry => absurd hentry (hlink target), fun _ => hrest⟩
  | @link _ _ target _ _ _ hentry hrest =>
    obtain ⟨rfl, rfl⟩ := List.cons.inj hpath
    refine ⟨fun target' hentry' => ?_, fun hlink => absurd hentry (hlink target)⟩
    rw [hentry] at hentry'
    cases hentry'
    exact hrest

/-- Segments lead to one location only. -/
theorem Route.unique (h : fs.Route l a r) (h' : fs.Route l a r') : r' = r := by
  induction h with
  | done =>
    cases h'
    rfl
  | here _ ih => exact ih h'.of_here
  | up _ ih => exact ih h'.of_up
  | entry hname hlink _ ih => exact ih ((h'.of_name hname).2 hlink)
  | link hname hentry _ ih => exact ih ((h'.of_name hname).1 _ hentry)

/-- A path leads to one location only. -/
theorem Leads.unique (h : fs.Leads path l) (h' : fs.Leads path l') : l' = l := by
  obtain ⟨r, name, hroute, hlast, -, rfl⟩ := h
  obtain ⟨r', name', hroute', hlast', -, rfl⟩ := h'
  rw [hroute.unique hroute', Option.some.inj (hlast.symm.trans hlast')]

/-! ## Destinations -/

/-- A path without directories has nothing on its way. -/
theorem not_onWay_of_dropLast (h : (namedSegments path).dropLast = []) : ¬ fs.OnWay path l := by
  intro hway
  rw [OnWay, h] at hway
  cases hway

/-- Neither of the two paths comes first. -/
theorem Apart.symm (h : fs.Apart path path') : fs.Apart path' path := fun l => (h l).symm

/-- The path that names a location leads there. -/
theorem Names.leads (h : fs.Names path l) : fs.Leads path l := by
  obtain ⟨d, name, -, hwalk, -, hlast, hname, rfl⟩ := names_iff.1 h
  obtain ⟨m, hwalks⟩ := walk_eq_ok_iff.1 hwalk
  exact ⟨d, name, hwalks.route, hlast, hname, rfl⟩

end Files

/-- A path above another one stands at its start, and has not its last segment. -/
theorem Above.starts {above path : String} (h : Above above path) :
    (∃ rest, path = above ++ rest) ∧ namedSegments above <+: (namedSegments path).dropLast := by
  induction h with
  | parent h => exact parent?_starts h
  | further h _ ih =>
    obtain ⟨⟨rest, rfl⟩, hsegments⟩ := ih
    obtain ⟨⟨rest', rfl⟩, hsegments'⟩ := parent?_starts h
    have hshorter := hsegments.trans <| List.dropLast_prefix _
    exact ⟨⟨rest ++ rest', String.append_assoc⟩, hshorter.trans hsegments'⟩

namespace Files

variable {fs fs' fs'' : Files} {l d r w : Location} {rest : List String}
variable {path above name target : String}

/-- All that is looked at on the way of a path above another one is on the way of that one. -/
theorem onWay_of_above (h : Above above path) (hne : above ≠ "")
    (hw : fs.Passes (fs.origin above) (namedSegments above) w) : fs.OnWay path w := by
  obtain ⟨⟨rest, rfl⟩, hsegments⟩ := h.starts
  rw [OnWay, origin, isAbsolute_append hne]
  exact hw.of_start hsegments

/-- So is what it names. -/
theorem Names.onWay (h : fs.Names above w) (habove : Above above path) : fs.OnWay path w := by
  obtain ⟨d, name, hcheck, hwalk, -, hlast, hname, rfl⟩ := names_iff.1 h
  obtain ⟨m, hwalks⟩ := walk_eq_ok_iff.1 hwalk
  have hne : above ≠ "" := by
    rintro rfl
    contradiction
  refine onWay_of_above habove hne ?_
  rw [namedSegments_eq_of_getLast? hlast]
  exact hwalks.passes (.looked hname)

/-! ## The same links -/

namespace SameLinks

theorem of_here (h : fs.SameLinks l ("." :: rest) fs') : fs.SameLinks l rest fs' :=
  fun w hw => h w hw.here

theorem of_up (h : fs.SameLinks l (".." :: rest) fs') : fs.SameLinks l.dropLast rest fs' :=
  fun w hw => h w hw.up

/-- The rest of a way behind an entry that is no link, which is none in the other files either. -/
theorem of_entry (h : fs.SameLinks l (name :: rest) fs') (hname : IsName name)
    (hlink : ∀ target, fs.get? (l ++ [name]) ≠ some (.link target)) :
    fs.SameLinks (l ++ [name]) rest fs' ∧
      ∀ target, fs'.get? (l ++ [name]) ≠ some (.link target) :=
  ⟨fun w hw => h w (hw.entry hname hlink),
    fun target hthere => hlink target ((h _ (.looked hname) target).1 hthere)⟩

/-- The rest of a way behind a link, which leads to the same place in the other files. -/
theorem of_link (h : fs.SameLinks l (name :: rest) fs') (hname : IsName name)
    (hentry : fs.get? (l ++ [name]) = some (.link target)) :
    fs.SameLinks (if isAbsolute target then [] else l) (segments target ++ rest) fs' ∧
      fs'.get? (l ++ [name]) = some (.link target) :=
  ⟨fun w hw => h w (hw.link hname hentry), (h _ (.looked hname) target).2 hentry⟩

end SameLinks

/-- The way leads to the same place. -/
theorem Route.sameLinks (h : fs.Route l rest r) (hsame : fs.SameLinks l rest fs') :
    fs'.Route l rest r := by
  induction h with
  | done => exact .done
  | here _ ih => exact .here (ih hsame.of_here)
  | up _ ih => exact .up (ih hsame.of_up)
  | entry hname hlink _ ih =>
    obtain ⟨hrest, hlink'⟩ := hsame.of_entry hname hlink
    exact .entry hname hlink' (ih hrest)
  | link hname hentry _ ih =>
    obtain ⟨hrest, hentry'⟩ := hsame.of_link hname hentry
    exact .link hname hentry' (ih hrest)

/-- The same entries are looked at. -/
theorem Passes.sameLinks (h : fs.Passes l rest w) (hsame : fs.SameLinks l rest fs') :
    fs'.Passes l rest w := by
  induction h with
  | here _ ih => exact .here (ih hsame.of_here)
  | up _ ih => exact .up (ih hsame.of_up)
  | looked hname => exact .looked hname
  | entry hname hlink _ ih =>
    obtain ⟨hrest, hlink'⟩ := hsame.of_entry hname hlink
    exact .entry hname hlink' (ih hrest)
  | link hname hentry _ ih =>
    obtain ⟨hrest, hentry'⟩ := hsame.of_link hname hentry
    exact .link hname hentry' (ih hrest)

/-- Nothing more is looked at. The induction is on the way in the other files, which takes the same
turn at each entry. -/
theorem Passes.of_sameLinks (h : fs'.Passes l rest w) (hsame : fs.SameLinks l rest fs') :
    fs.Passes l rest w := by
  induction h with
  | here _ ih => exact .here (ih hsame.of_here)
  | up _ ih => exact .up (ih hsame.of_up)
  | looked hname => exact .looked hname
  | entry hname hlink' _ ih =>
    have hlink : ∀ target, fs.get? _ ≠ some (.link target) := fun target hthere =>
      hlink' target ((hsame _ (.looked hname) target).2 hthere)
    exact .entry hname hlink (ih (hsame.of_entry hname hlink).1)
  | link hname hentry' _ ih =>
    have hentry := (hsame _ (.looked hname) _).1 hentry'
    exact .link hname hentry (ih (hsame.of_link hname hentry).1)

/-- The same entries are looked at in both files, so it does not matter which come first. -/
theorem SameLinks.symm (h : fs.SameLinks l rest fs') : fs'.SameLinks l rest fs :=
  fun w hw target => (h w (hw.of_sameLinks h) target).symm

/-- The same links in three files, two by two. -/
theorem SameLinks.trans (h : fs.SameLinks l rest fs') (h' : fs'.SameLinks l rest fs'') :
    fs.SameLinks l rest fs'' :=
  fun w hw target => (h' w (hw.sameLinks h) target).trans (h w hw target)

/-! ## Paths -/

/-- The links on the way to the directory of a path are the same in other files. -/
structure SameWay (fs : Files) (path : String) (fs' : Files) : Prop where
  current : fs'.current = fs.current
  links : fs.SameLinks (fs.origin path) (namedSegments path).dropLast fs'

namespace SameWay

/-- Paths begin in the same place. -/
theorem origin (h : fs.SameWay path fs') (p : String) : fs'.origin p = fs.origin p := by
  rw [Files.origin, h.current, Files.origin]

theorem refl (fs : Files) (path : String) : fs.SameWay path fs := ⟨rfl, fun _ _ _ => .rfl⟩

theorem symm (h : fs.SameWay path fs') : fs'.SameWay path fs where
  current := h.current.symm
  links := by
    rw [h.origin]
    exact h.links.symm

theorem trans (h : fs.SameWay path fs') (h' : fs'.SameWay path fs'') : fs.SameWay path fs'' where
  current := h'.current.trans h.current
  links := by
    have hlinks := h'.links
    rw [h.origin] at hlinks
    exact h.links.trans hlinks

/-- What is on the way stays on it. -/
theorem onWay (h : fs.SameWay path fs') (hw : fs.OnWay path w) : fs'.OnWay path w := by
  rw [OnWay, h.origin]
  exact Passes.sameLinks hw h.links

/-- The path leads where it did. -/
theorem leads (h : fs.SameWay path fs') (hl : fs.Leads path l) : fs'.Leads path l := by
  obtain ⟨r, name, hroute, hlast, hname, rfl⟩ := hl
  refine ⟨r, name, ?_, hlast, hname, rfl⟩
  rw [h.origin]
  exact hroute.sameLinks h.links

/-- A directory on the way is found where it was as long as no directory is lost. -/
theorem resolve (h : fs.SameWay path fs') {directory : String}
    (hway : ∀ w, fs.Passes (fs.origin directory) (namedSegments directory) w → fs.OnWay path w)
    (hdirectory : ∀ l, fs.get? l = some .directory → fs'.get? l = some .directory)
    (hresolve : fs.resolve directory = .ok d) (hd : fs.get? d = some .directory) :
    fs'.resolve directory = .ok d := by
  obtain ⟨hcheck, m, hwalks⟩ := walks_of_resolve hresolve
  refine resolve_of_walks (m := m) hcheck ?_ (hdirectory d hd)
  rw [h.origin]
  exact hwalks.of_links hd hdirectory fun w target hw => (h.links w (hway w hw) target).2

end SameWay

/-- Directories that are added are no links. -/
theorem AddsDirectories.sameWay {P : String → Prop} (h : fs.AddsDirectories P fs')
    (path : String) : fs.SameWay path fs' where
  current := h.current
  links w _ target := by
    rcases h.entry w with heq | ⟨hnone, hdirectory, -⟩
    · rw [heq]
    · simp [hnone, hdirectory]

end Files

end DocPress.FileSystem
