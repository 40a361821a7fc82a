import DocPress.Proofs.FileSystem.Entries

/-!
# DocPress.Proofs.FileSystem.Walk

Walking a path as a relation: one constructor for each kind of step. It also says how many links are
left to be followed, so that ways can be put together and taken apart:

* `walk_eq_ok_iff` — the relation is what `Files.walk` computes;
* `Walks.append`, `Walks.split` — a way along `a ++ b` is one along `a` and one along `b`;
* `Walks.of_links` — a way that ends in a directory stays one while no directory is lost and no link
  that is looked at on the way (`Passes`);
* `Walks.keepsTree` — so it does while the tree is kept;
* `AddsFile.walk` — with one file more, a path leads where it did; a way that ended in front of that
  file may now end there.
-/

namespace DocPress.FileSystem

/-- A segment that stands for an entry of its directory. -/
structure IsName (name : String) : Prop where
  ne_here : name ≠ "."
  ne_up : name ≠ ".."
  short : name.utf8ByteSize ≤ Files.maxNameBytes

namespace Files

/-- A way along segments: where it begins with how many links, and where it ends with how many. -/
inductive Walks (fs : Files) : Nat → Location → List String → Location → Nat → Prop
  | done : Walks fs n l [] l n
  | here (hl : fs.get? l = some .directory) (hrest : Walks fs n l path d m) :
      Walks fs n l ("." :: path) d m
  | up (hl : fs.get? l = some .directory) (hrest : Walks fs n l.dropLast path d m) :
      Walks fs n l (".." :: path) d m
  | entry (hl : fs.get? l = some .directory) (hname : IsName name)
      (hentry : fs.get? (l ++ [name]) = some e) (hlink : ∀ target, e ≠ .link target)
      (hrest : Walks fs n (l ++ [name]) path d m) : Walks fs n l (name :: path) d m
  | link (hl : fs.get? l = some .directory) (hname : IsName name)
      (hentry : fs.get? (l ++ [name]) = some (.link target)) (htarget : target ≠ "")
      (hrest : Walks fs n (if isAbsolute target then [] else l) (segments target ++ path) d m) :
      Walks fs (n + 1) l (name :: path) d m

/-- The entries that are looked at on a way along segments. What is missing may come to be there, so
the way goes on behind it as behind a directory. -/
inductive Passes (fs : Files) : Location → List String → Location → Prop
  | here (hrest : Passes fs l path w) : Passes fs l ("." :: path) w
  | up (hrest : Passes fs l.dropLast path w) : Passes fs l (".." :: path) w
  | looked (hname : IsName name) : Passes fs l (name :: path) (l ++ [name])
  | entry (hname : IsName name) (hlink : ∀ target, fs.get? (l ++ [name]) ≠ some (.link target))
      (hrest : Passes fs (l ++ [name]) path w) : Passes fs l (name :: path) w
  | link (hname : IsName name) (hentry : fs.get? (l ++ [name]) = some (.link target))
      (hrest : Passes fs (if isAbsolute target then [] else l) (segments target ++ path) w) :
      Passes fs l (name :: path) w

variable {fs fs' : Files} {l d r w : Location} {n m k : Nat} {path a b : List String}
variable {name : String}

/-! ## The relation and the function -/

/-- Where the function ends, a way ends. The induction follows the function's own cases. -/
theorem Walks.of_walk (h : fs.walk n l path = .ok d) : ∃ m, fs.Walks n l path d m := by
  fun_induction fs.walk n l path with
  | case1 n l =>
    cases h
    exact ⟨n, .done⟩
  | case3 n l name path hl hname ih =>
    obtain ⟨m, hm⟩ := ih h
    rw [eq_of_beq hname]
    exact ⟨m, .here (by simpa [isDirectoryAt_iff] using hl) hm⟩
  | case4 n l name path hl _ hname ih =>
    obtain ⟨m, hm⟩ := ih h
    rw [eq_of_beq hname]
    exact ⟨m, .up (by simpa [isDirectoryAt_iff] using hl) hm⟩
  | case9 l name path hl hhere hup hshort target hentry n htarget ih =>
    obtain ⟨m, hm⟩ := ih h
    exact ⟨m, .link (by simpa [isDirectoryAt_iff] using hl)
      ⟨by simpa using hhere, by simpa using hup, by omega⟩ hentry
      (by simpa using htarget) (by simpa using hm)⟩
  | case10 n l name path hl hhere hup hshort e hlink hentry ih =>
    obtain ⟨m, hm⟩ := ih h
    exact ⟨m, .entry (by simpa [isDirectoryAt_iff] using hl)
      ⟨by simpa using hhere, by simpa using hup, by omega⟩ hentry hlink hm⟩
  | _ => contradiction

/-- The function finds the end of each way. -/
theorem Walks.walk (h : fs.Walks n l path d m) : fs.walk n l path = .ok d := by
  induction h with
  | done => rw [Files.walk]
  | here hl _ ih => rw [Files.walk, ih]; simp [isDirectoryAt, hl]
  | up hl _ ih => rw [Files.walk, ih]; simp [isDirectoryAt, hl]
  | @entry _ _ e _ _ _ _ hl hname hentry hlink _ ih =>
    have hshort := hname.short
    rw [Files.walk, ih, hentry]
    cases e with
    | link target => exact absurd rfl (hlink target)
    | file => simp [isDirectoryAt, hl, hname.ne_here, hname.ne_up]; omega
    | directory => simp [isDirectoryAt, hl, hname.ne_here, hname.ne_up]; omega
  | link hl hname hentry htarget _ ih =>
    have hshort := hname.short
    rw [Files.walk, hentry]
    simp only [ih]
    simp [isDirectoryAt, hl, hname.ne_here, hname.ne_up, htarget]
    omega

/-- The relation is what the function computes. -/
theorem walk_eq_ok_iff : fs.walk n l path = .ok d ↔ ∃ m, fs.Walks n l path d m :=
  ⟨Walks.of_walk, fun ⟨_, h⟩ => h.walk⟩

/-! ## Ways put together -/

namespace Walks

/-- Ways are put together if the second one begins where the first one ends, with the links left. -/
theorem append (h : fs.Walks n l a d m) (h' : fs.Walks m d b r k) : fs.Walks n l (a ++ b) r k := by
  induction h with
  | done => exact h'
  | here hl _ ih => exact .here hl (ih h')
  | up hl _ ih => exact .up hl (ih h')
  | entry hl hname hentry hlink _ ih => exact .entry hl hname hentry hlink (ih h')
  | link hl hname hentry htarget _ ih =>
    have happend := ih h'
    rw [List.append_assoc] at happend
    exact .link hl hname hentry htarget happend

/-- A way falls into two at any place. -/
theorem split (h : fs.Walks n l (a ++ b) r k) :
    ∃ d m, fs.Walks n l a d m ∧ fs.Walks m d b r k := by
  generalize hpath : a ++ b = path at h
  induction h generalizing a with
  | done =>
    obtain ⟨rfl, rfl⟩ := List.append_eq_nil_iff.1 hpath
    exact ⟨_, _, .done, .done⟩
  | here hl hrest ih =>
    obtain ⟨rfl, rfl⟩ | ⟨a', rfl, hrest'⟩ := List.append_eq_cons_iff.1 hpath
    · exact ⟨_, _, .done, .here hl hrest⟩
    · obtain ⟨d, m, hd, hr⟩ := ih hrest'.symm
      exact ⟨d, m, .here hl hd, hr⟩
  | up hl hrest ih =>
    obtain ⟨rfl, rfl⟩ | ⟨a', rfl, hrest'⟩ := List.append_eq_cons_iff.1 hpath
    · exact ⟨_, _, .done, .up hl hrest⟩
    · obtain ⟨d, m, hd, hr⟩ := ih hrest'.symm
      exact ⟨d, m, .up hl hd, hr⟩
  | entry hl hname hentry hlink hrest ih =>
    obtain ⟨rfl, rfl⟩ | ⟨a', rfl, hrest'⟩ := List.append_eq_cons_iff.1 hpath
    · exact ⟨_, _, .done, .entry hl hname hentry hlink hrest⟩
    · obtain ⟨d, m, hd, hr⟩ := ih hrest'.symm
      exact ⟨d, m, .entry hl hname hentry hlink hd, hr⟩
  | @link _ _ target _ _ _ _ hl hname hentry htarget hrest ih =>
    obtain ⟨rfl, rfl⟩ | ⟨a', rfl, hrest'⟩ := List.append_eq_cons_iff.1 hpath
    · exact ⟨_, _, .done, .link hl hname hentry htarget hrest⟩
    · -- The segments of the target come before what is left of the first part.
      obtain ⟨d, m, hd, hr⟩ := ih (by rw [hrest', ← List.append_assoc])
      exact ⟨d, m, .link hl hname hentry htarget hd, hr⟩

/-- The last step to a name: it stands in the directory to which the rest of the path leads. -/
theorem concat (h : fs.Walks n l path d m) (hd : fs.get? d = some .directory) (hname : IsName name)
    (hentry : fs.get? (d ++ [name]) = some e) (hlink : ∀ target, e ≠ .link target) :
    fs.Walks n l (path ++ [name]) (d ++ [name]) m :=
  h.append (.entry hd hname hentry hlink .done)

/-- A way that ends in a directory passes through directories and links alone. -/
theorem of_links (h : fs.Walks n l path d m) (hd : fs.get? d = some .directory)
    (hdirectory : ∀ l, fs.get? l = some .directory → fs'.get? l = some .directory)
    (hlinks : ∀ w target, fs.Passes l path w → fs.get? w = some (.link target) →
      fs'.get? w = some (.link target)) : fs'.Walks n l path d m := by
  induction h with
  | done => exact .done
  | here hl _ ih => exact .here (hdirectory _ hl) (ih hd fun w target hw => hlinks w target hw.here)
  | up hl _ ih => exact .up (hdirectory _ hl) (ih hd fun w target hw => hlinks w target hw.up)
  | @entry l name n e path d m hl hname hentry hlink hrest ih =>
    have hthere : fs.get? (l ++ [name]) = some .directory := by
      cases hrest with
      | done => exact hd
      | here hl | up hl | entry hl | link hl => exact hl
    refine .entry (hdirectory _ hl) hname (hdirectory _ hthere) (by simp) (ih hd ?_)
    exact fun w target hw => hlinks w target (hw.entry hname (by simp [hthere]))
  | link hl hname hentry htarget _ ih =>
    have hlooked := hlinks _ _ (.looked hname) hentry
    refine .link (hdirectory _ hl) hname hlooked htarget (ih hd ?_)
    exact fun w target hw => hlinks w target (hw.link hname hentry)

/-- A way to a directory is the same while the tree is kept. -/
theorem keepsTree (h : fs.Walks n l path d m) (hd : fs.get? d = some .directory)
    (hkeeps : fs.KeepsTree fs') : fs'.Walks n l path d m :=
  h.of_links hd hkeeps.directory fun w target _ => hkeeps.link w target

/-- A segment `.` leads nowhere. -/
theorem of_here (h : fs.Walks n l ("." :: path) d m) : fs.Walks n l path d m := by
  generalize hhere : "." :: path = rest at h
  cases h with
  | done | up => simp at hhere
  | here hl hrest =>
    obtain ⟨-, rfl⟩ := List.cons.inj hhere
    exact hrest
  | entry _ hname | link _ hname =>
    obtain ⟨rfl, -⟩ := List.cons.inj hhere
    exact absurd rfl hname.ne_here

/-- Nor do segments `.` at the end of a path. -/
theorem of_append_here (h : fs.Walks n l (path ++ List.replicate k ".") d m) :
    fs.Walks n l path d m := by
  induction k with
  | zero => rwa [List.replicate_zero, List.append_nil] at h
  | succ k ih =>
    obtain ⟨d', m', hwalks, hhere⟩ := h.split
    exact ih (hwalks.append hhere.of_here)

/-- A slash behind a directory asks for no further step. -/
theorem of_segments {path : String} (h : fs.Walks n l (segments path) d m) :
    fs.Walks n l (namedSegments path) d m := by
  unfold segments at h
  split at h
  · exact @of_append_here _ _ _ _ _ 1 _ h
  · exact h

end Walks

/-- A new file changes only ways that ended where it has come to stand. -/
theorem AddsFile.walk (h : fs.AddsFile w fs') (n : Nat) (l : Location) (path : List String) :
    fs'.walk n l path = fs.walk n l path ∨
      fs.walk n l path = .error .notFound ∧
        (fs'.walk n l path = .ok w ∨ fs'.walk n l path = .error .notDirectory) := by
  fun_induction fs.walk n l path with
  | case1 n l => exact .inl (by rw [Files.walk])
  | case2 n l segment rest hl => exact .inl (by rw [Files.walk, h.isDirectoryAt_eq, if_pos hl])
  | case3 n l segment rest hl hhere ih =>
    rwa [Files.walk, h.isDirectoryAt_eq, if_neg hl, if_pos hhere]
  | case4 n l segment rest hl hhere hup ih =>
    rwa [Files.walk, h.isDirectoryAt_eq, if_neg hl, if_neg hhere, if_pos hup]
  | case5 n l segment rest hl hhere hup hlong =>
    rw [Files.walk, h.isDirectoryAt_eq, if_neg hl, if_neg hhere, if_neg hup, if_pos hlong]
    exact .inl rfl
  | case6 n l segment rest hl hhere hup hshort hnone =>
    rw [Files.walk, h.isDirectoryAt_eq, if_neg hl, if_neg hhere, if_neg hup, if_neg hshort]
    -- Only here, where the way ended for want of an entry, can the new file stand.
    by_cases hw : l ++ [segment] = w
    · obtain ⟨content, hfile⟩ := h.file
      refine .inr ⟨rfl, ?_⟩
      simp only [hw, hfile]
      cases rest with
      | nil => exact .inl (by rw [Files.walk])
      | cons next rest =>
        exact .inr (by simp [Files.walk, Files.isDirectoryAt, hfile])
    · rw [h.off.entry _ hw, hnone]
      exact .inl rfl
  | case7 l segment rest hl hhere hup hshort target hlink =>
    rw [Files.walk, h.isDirectoryAt_eq, if_neg hl, if_neg hhere, if_neg hup, if_neg hshort,
      h.get?_of_some hlink]
    exact .inl rfl
  | case8 l segment rest hl hhere hup hshort target hlink n hempty =>
    rw [Files.walk, h.isDirectoryAt_eq, if_neg hl, if_neg hhere, if_neg hup, if_neg hshort,
      h.get?_of_some hlink]
    exact .inl (by simp [hempty])
  | case9 l segment rest hl hhere hup hshort target hlink n hempty ih =>
    rw [Files.walk, h.isDirectoryAt_eq, if_neg hl, if_neg hhere, if_neg hup, if_neg hshort,
      h.get?_of_some hlink]
    simpa [hempty] using ih
  | case10 n l segment rest hl hhere hup hshort e hlink he ih =>
    rw [Files.walk, h.isDirectoryAt_eq, if_neg hl, if_neg hhere, if_neg hup, if_neg hshort,
      h.get?_of_some he]
    cases e with
    | link target => exact absurd rfl (hlink target)
    | file | directory => exact ih

end Files

end DocPress.FileSystem
