import DocPress.FileSystem.Basic

/-!
# DocPress.Proofs.FileSystem.Entries

What the two updates of a single location do to all others, and four ways in which files can be
compared:

* `Same` — every location has the same entry, whatever list the entries stand in;
* `SameOff` — every location but one has the same entry;
* `AddsFile` — one file more than before;
* `KeepsTree` — no directory and no link is lost; files may come, change and go.

The last is all that the way of a path depends on (`DocPress.Proofs.FileSystem.Walk`).
-/

namespace DocPress.FileSystem

namespace Files

variable {fs fs' fs'' : Files} {l l' : Location} {e : Entry}

/-! ## Single locations -/

@[simp] theorem get?_root (fs : Files) : fs.get? [] = some .directory := rfl

/-- Anywhere else stands what the list of entries says. -/
theorem get?_of_ne_root (fs : Files) (h : l ≠ []) : fs.get? l = fs.entries.lookup l := by
  simp [get?, h]

@[simp] theorem current_set (fs : Files) (l : Location) (e : Entry) :
    (fs.set l e).current = fs.current := rfl

@[simp] theorem current_erase (fs : Files) (l : Location) : (fs.erase l).current = fs.current := rfl

/-- An entry at another location is passed over. -/
theorem lookup_cons_of_ne {entries : List (Location × Entry)} (h : l' ≠ l) :
    ((l, e) :: entries).lookup l' = entries.lookup l' := by
  rw [List.lookup_cons, beq_eq_false_iff_ne.2 h]

/-- Entries that are filtered by their locations are found as before, or not at all. -/
theorem lookup_filter (entries : List (Location × Entry)) (l l' : Location) :
    (entries.filter fun entry => entry.1 != l).lookup l' =
      if l' = l then none else entries.lookup l' := by
  induction entries with
  | nil => simp
  | cons entry entries ih =>
    obtain ⟨k, e⟩ := entry
    by_cases hk : k = l
    · subst hk
      rw [List.filter_cons_of_neg (by simp), ih]
      by_cases h : l' = k
      · rw [if_pos h, if_pos h]
      · rw [if_neg h, if_neg h, lookup_cons_of_ne h]
    · rw [List.filter_cons_of_pos (by simpa using hk)]
      by_cases h : l' = k
      · subst h
        rw [if_neg hk, List.lookup_cons_self, List.lookup_cons_self]
      · rw [lookup_cons_of_ne h, lookup_cons_of_ne h, ih]

/-- Nothing stands where an entry was removed. -/
theorem get?_erase_self (fs : Files) (h : l ≠ []) : (fs.erase l).get? l = none := by
  rw [get?_of_ne_root _ h]
  simp [erase, lookup_filter]

/-- An entry that is removed leaves the others alone. -/
theorem get?_erase_of_ne (fs : Files) (h : l' ≠ l) : (fs.erase l).get? l' = fs.get? l' := by
  by_cases hr : l' = []
  · subst hr
    rfl
  · rw [get?_of_ne_root _ hr, get?_of_ne_root _ hr]
    simp [erase, lookup_filter, h]

/-- An entry stands where it was put. -/
theorem get?_set_self (fs : Files) (h : l ≠ []) (e : Entry) : (fs.set l e).get? l = some e := by
  rw [get?_of_ne_root _ h]
  simp [set]

/-- An entry that is put somewhere leaves the others alone. -/
theorem get?_set_of_ne (fs : Files) (h : l' ≠ l) (e : Entry) :
    (fs.set l e).get? l' = fs.get? l' := by
  have herase := get?_erase_of_ne fs h
  by_cases hr : l' = []
  · subst hr
    rfl
  · rw [← herase, get?_of_ne_root _ hr, get?_of_ne_root _ hr]
    exact lookup_cons_of_ne h

/-- Of two entries that are put at the same place, the second one stays. -/
theorem set_set (fs : Files) (l : Location) (e e' : Entry) :
    (fs.set l e).set l e' = fs.set l e' := by
  simp [set, erase]

/-- An entry that was put where nothing stood leaves no trace when it is removed. -/
theorem erase_set_of_none (h : fs.get? l = none) (e : Entry) : (fs.set l e).erase l = fs := by
  have hl : l ≠ [] := by
    rintro rfl
    contradiction
  rw [get?_of_ne_root fs hl] at h
  have hkeys : fs.entries.filter (fun entry => entry.1 != l) = fs.entries := by
    rw [List.filter_eq_self]
    intro entry hentry
    rw [bne_comm]
    exact List.lookup_eq_none_iff.1 h entry hentry
  simp [set, erase, hkeys]

/-- The test for a directory is one for its entry. -/
theorem isDirectoryAt_iff :
    fs.isDirectoryAt l = true ↔ fs.get? l = some .directory := by
  simp [isDirectoryAt]

/-! ## The same files -/

/-- The same entries everywhere, and the same working directory. -/
structure Same (fs fs' : Files) : Prop where
  current : fs'.current = fs.current
  entry : ∀ l, fs'.get? l = fs.get? l

namespace Same

theorem refl (fs : Files) : fs.Same fs := ⟨rfl, fun _ => rfl⟩

theorem symm (h : Same fs fs') : fs'.Same fs := ⟨h.current.symm, fun l => (h.entry l).symm⟩

theorem trans (h : Same fs fs') (h' : Same fs' fs'') : fs.Same fs'' :=
  ⟨h'.current.trans h.current, fun l => (h'.entry l).trans (h.entry l)⟩

end Same

/-! ## The same files but for one entry -/

/-- The same entries at all locations but one, and the same working directory. -/
structure SameOff (fs : Files) (l : Location) (fs' : Files) : Prop where
  current : fs'.current = fs.current
  entry : ∀ l', l' ≠ l → fs'.get? l' = fs.get? l'

namespace SameOff

theorem refl (l : Location) (fs : Files) : fs.SameOff l fs := ⟨rfl, fun _ _ => rfl⟩

theorem symm (h : SameOff fs l fs') : fs'.SameOff l fs :=
  ⟨h.current.symm, fun l' hl' => (h.entry l' hl').symm⟩

theorem trans (h : SameOff fs l fs') (h' : SameOff fs' l fs'') : fs.SameOff l fs'' :=
  ⟨h'.current.trans h.current, fun l' hl' => (h'.entry l' hl').trans (h.entry l' hl')⟩

theorem set (l : Location) (e : Entry) (fs : Files) : fs.SameOff l (fs.set l e) :=
  ⟨rfl, fun _ hl' => get?_set_of_ne fs hl' e⟩

theorem erase (l : Location) (fs : Files) : fs.SameOff l (fs.erase l) :=
  ⟨rfl, fun _ hl' => get?_erase_of_ne fs hl'⟩

/-- Files that agree at the last location, too, are the same. -/
theorem same (h : SameOff fs l fs') (he : fs'.get? l = fs.get? l) : fs.Same fs' where
  current := h.current
  entry l' := by
    by_cases hl' : l' = l
    · rw [hl', he]
    · exact h.entry l' hl'

end SameOff

theorem Same.off (h : Same fs fs') (l : Location) : fs.SameOff l fs' :=
  ⟨h.current, fun l' _ => h.entry l'⟩

/-! ## One file more -/

/-- A file that may not be executed has come to stand where nothing stood, and all else is the
same. -/
structure AddsFile (fs : Files) (l : Location) (fs' : Files) : Prop where
  off : fs.SameOff l fs'
  free : fs.get? l = none
  file : ∃ content, fs'.get? l = some (.file content false)

namespace AddsFile

/-- What stood somewhere still does. -/
theorem get?_of_some (h : AddsFile fs l fs') (he : fs.get? l' = some e) : fs'.get? l' = some e := by
  have hne : l' ≠ l := by
    rintro rfl
    rw [h.free] at he
    contradiction
  rw [h.off.entry l' hne, he]

/-- One file more makes no difference to where directories stand. -/
theorem isDirectoryAt_eq (h : AddsFile fs l fs') (l' : Location) :
    fs'.isDirectoryAt l' = fs.isDirectoryAt l' := by
  by_cases hl : l' = l
  · obtain ⟨content, hfile⟩ := h.file
    simp [isDirectoryAt, hl, hfile, h.free]
  · rw [isDirectoryAt, isDirectoryAt, h.off.entry l' hl]

end AddsFile

/-! ## Files that keep the tree -/

/-- Every directory and every link is still there, and the working directory is the same. -/
structure KeepsTree (fs fs' : Files) : Prop where
  current : fs'.current = fs.current
  directory : ∀ l, fs.get? l = some .directory → fs'.get? l = some .directory
  link : ∀ l target, fs.get? l = some (.link target) → fs'.get? l = some (.link target)

namespace KeepsTree

theorem trans (h : KeepsTree fs fs') (h' : KeepsTree fs' fs'') : fs.KeepsTree fs'' where
  current := h'.current.trans h.current
  directory l hl := h'.directory l (h.directory l hl)
  link l target hl := h'.link l target (h.link l target hl)

end KeepsTree

/-- A change at one location keeps the tree if neither a directory nor a link stood there. -/
theorem SameOff.keepsTree (h : SameOff fs l fs') (hdirectory : fs.get? l ≠ some .directory)
    (hlink : ∀ target, fs.get? l ≠ some (.link target)) : fs.KeepsTree fs' where
  current := h.current
  directory l' he := by
    by_cases hl' : l' = l
    · exact absurd (hl' ▸ he) hdirectory
    · rw [h.entry l' hl', he]
  link l' target he := by
    by_cases hl' : l' = l
    · exact absurd (hl' ▸ he) (hlink target)
    · rw [h.entry l' hl', he]

/-- Whatever comes to stand where nothing stood, the tree is kept. -/
theorem SameOff.keepsTree_of_none (h : SameOff fs l fs') (he : fs.get? l = none) :
    fs.KeepsTree fs' :=
  h.keepsTree (by simp [he]) (by simp [he])

/-- Whatever takes the place of a file, the tree is kept. -/
theorem SameOff.keepsTree_of_file (h : SameOff fs l fs')
    (he : fs.get? l = some (.file content executable)) : fs.KeepsTree fs' :=
  h.keepsTree (by simp [he]) (by simp [he])

theorem Same.keepsTree (h : Same fs fs') : fs.KeepsTree fs' :=
  ⟨h.current, fun l hl => by rw [h.entry, hl], fun l _ hl => by rw [h.entry, hl]⟩

end Files

end DocPress.FileSystem
