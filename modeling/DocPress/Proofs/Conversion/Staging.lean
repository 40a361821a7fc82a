import DocPress.Conversion.Files
import DocPress.Proofs.FileSystem.Temporary
import DocPress.Proofs.FileSystem.Way
import DocPress.Proofs.Text.Utf8

/-!
# DocPress.Proofs.Conversion.Staging

What each part of writing does to the files, in success and in failure:

* `withParents` — the directory for a path, made as far as that can be; done once, it need not be
  done again (`withParents_of_isDirectory`);
* `stage_eq_ok`, `stage_eq_error` — a staging file is new and empty, and if there is none, then
  there are only directories;
* `persist_eq_ok`, `persist_eq_error` — the staging file comes to stand at its destination, or
  nowhere;
* `writeHtml_eq_ok`, `writeHtml_eq_error` — one file is written, or none;
* `validatePdf_eq_ok_iff` — a PDF file is one that begins as all of them do.
-/

namespace DocPress.Conversion

open DocPress.Backend DocPress.FileSystem DocPress.Text

variable {fs fs' : Files} {l d : Location} {destination path html backend : String}
variable {failure : Failure} {staged : StagedOutput} {size : Nat} {name : String}

/-! ## Directories -/

/-- The files with the directory of a path, as far as that can be made. -/
def withParents (path : String) (fs : Files) : Files :=
  ((ensureDirectories (directoryOf path)).run.run fs).2

/-- A path without a directory stands for one in the working directory. -/
theorem directoryOf_ne_empty (path : String) : directoryOf path ≠ "" := by
  unfold directoryOf
  split
  · split
    · decide
    · next h => simpa using h
  · decide

/-- What is looked at on the way to the directory of a path is on the way of the path. -/
theorem onWay_of_directoryOf {w : Location}
    (hw : fs.Passes (fs.origin (directoryOf path)) (namedSegments (directoryOf path)) w) :
    fs.OnWay path w := by
  have hhere (hw : fs.Passes (fs.origin ".") (namedSegments ".") w) : fs.OnWay path w := by
    rw [show namedSegments "." = ["."] by decide] at hw
    cases hw.of_here
  unfold directoryOf at hw
  cases hparent : parent? path with
  | none =>
    rw [hparent] at hw
    exact hhere hw
  | some parent =>
    simp only [hparent] at hw
    split at hw
    · exact hhere hw
    · next hne => exact Files.onWay_of_above (.parent hparent) (by simpa using hne) hw

/-- The working directory is there. -/
theorem isDirectory_here (h : fs.Grounded) : fs.isDirectory "." = true := by
  have hcurrent : fs.get? fs.current = some .directory := h.directory _ (List.prefix_refl _)
  simp [Files.isDirectory, Files.stat, h.resolve_here, hcurrent, bind, Except.bind]

/-- Where there is no parent to be made, nothing is done. -/
theorem run_ensureDirectories_directoryOf (h : fs.Grounded) (path : String) :
    (ensureDirectories (directoryOf path)).run.run fs =
      (ensureDirectories ((parent? path).getD "")).run.run fs := by
  have hhere := ensureDirectories_of_isDirectory (isDirectory_here h)
  have hempty : (ensureDirectories "").run.run fs = (.ok (), fs) := by
    rw [ensureDirectories, run_ensureDirectoriesUpTo_succ, if_pos (by decide)]
  unfold directoryOf
  cases hparent : parent? path with
  | none => rw [hhere, Option.getD_none, hempty]
  | some parent =>
    simp only [Option.getD_some]
    split
    · next hnone => rw [hhere, String.isEmpty_iff.1 hnone, hempty]
    · rfl

/-- Only directories above the path are added. -/
theorem withParents_adds (h : fs.Grounded) (path : String) :
    fs.AddsDirectories (Above · path) (withParents path fs) := by
  rw [withParents]
  unfold directoryOf
  split
  · next parent hparent =>
    split
    · rw [ensureDirectories_of_isDirectory (isDirectory_here h)]
      exact .refl _ fs
    · refine (ensureDirectories_adds parent fs).mono fun p hp => ?_
      rcases hp with rfl | habove
      · exact .parent hparent
      · exact .further hparent habove
  · rw [ensureDirectories_of_isDirectory (isDirectory_here h)]
    exact .refl _ fs

/-- Nothing is made if the directory is there. -/
theorem withParents_of_isDirectory (h : fs.isDirectory (directoryOf path) = true) :
    withParents path fs = fs := by
  rw [withParents, ensureDirectories_of_isDirectory h]

/-- A path that names a location has its directory already. -/
theorem withParents_of_names (hfs : fs.Grounded) (h : fs.Names path l) :
    withParents path fs = fs := by
  apply withParents_of_isDirectory
  obtain ⟨parent, hparent, hdirectory⟩ := h.exists_parent
  unfold directoryOf
  rw [hparent]
  dsimp only
  split
  · exact isDirectory_here hfs
  · next hne => exact hdirectory (by simpa using hne)

/-! ## Staging files -/

/-- A staging file is asked for in two steps, and either can fail; both failures name the
destination. -/
theorem run_stage (destination : String) (fs : Files) :
    (stage destination).run.run fs =
      match (ensureDirectories (directoryOf destination)).run.run fs with
      | (.error e, fs') => (.error (.outputWriteFailed destination e), fs')
      | (.ok (), fs') =>
        match (makeTemporary (directoryOf destination) stagingStart stagingEnd).run.run fs' with
        | (.ok path, fs'') => (.ok ⟨path, destination⟩, fs'')
        | (.error e, fs'') => (.error (.outputWriteFailed destination e), fs'') := by
  simp only [stage, Action.run_mapError, Action.run_bind]
  rcases (ensureDirectories (directoryOf destination)).run.run fs with ⟨_ | _, fs'⟩
  · rfl
  · dsimp only
    rcases (makeTemporary (directoryOf destination) stagingStart stagingEnd).run.run fs' with
      ⟨_ | _, fs''⟩ <;> rfl

theorem isSegment_stagingStart : IsSegment stagingStart := ⟨by decide, by decide⟩

theorem not_mem_stagingEnd : '/' ∉ stagingEnd.toList := by decide

/-- A staging file is an empty file where nothing stood, beside its destination, and its path names
it. -/
structure Staged (staged : StagedOutput) (l : Location) (fs : Files) : Prop where
  names : fs.Names staged.path l
  slash : staged.path.endsWith "/" = false
  directory : fs.resolve (directoryOf staged.destination) = .ok l.dropLast
  free : fs.get? l = none

/-- A staging file is one in all files that are the same. -/
theorem Staged.of_same (h : Staged staged l fs) (hsame : fs.Same fs') : Staged staged l fs' where
  names := h.names.keepsTree hsame.keepsTree
  slash := h.slash
  directory := Files.resolve_keepsTree h.directory h.names.directory hsame.keepsTree
  free := (hsame.entry l).trans h.free

/-- The path of a staging file is the absolute form of a name in the directory of its destination,
so it depends on where that directory is and on nothing else. -/
structure Beside (staged : StagedOutput) (l : Location) (fs : Files) : Prop where
  directory : fs.resolve (directoryOf staged.destination) = .ok l.dropLast
  there : fs.get? l.dropLast = some .directory
  name : ∃ name, l = l.dropLast ++ [name] ∧ IsSegment name ∧ IsName name ∧
    staged.path = fs.absolute (joinPath (directoryOf staged.destination) name)
  check : Files.checkPath staged.path = .ok ()

namespace Beside

/-- The path of a staging file names its location. -/
theorem names (h : Beside staged l fs) (hfs : fs.Grounded) : fs.Names staged.path l := by
  obtain ⟨name, hl, hsegment, hname, hpath⟩ := h.name
  have hcheck := h.check
  rw [hl, hpath] at *
  exact hfs.names_of_checkPath hsegment hname (directoryOf_ne_empty _) h.directory h.there hcheck

/-- A staging file stays beside its destination while their directory is found in the same place. -/
theorem of_resolve (h : Beside staged l fs) (hcurrent : fs'.current = fs.current)
    (hdirectory : fs'.resolve (directoryOf staged.destination) = .ok l.dropLast)
    (hthere : fs'.get? l.dropLast = some .directory) : Beside staged l fs' where
  directory := hdirectory
  there := hthere
  name := by
    obtain ⟨name, hl, hsegment, hname, hpath⟩ := h.name
    refine ⟨name, hl, hsegment, hname, ?_⟩
    rwa [Files.absolute, hcurrent]
  check := h.check

theorem keepsTree (h : Beside staged l fs) (hkeeps : fs.KeepsTree fs') : Beside staged l fs' :=
  h.of_resolve hkeeps.current (Files.resolve_keepsTree h.directory h.there hkeeps)
    (hkeeps.directory _ h.there)

/-- It stays there while the way to their directory has the same links and no directory is lost. -/
theorem sameWay (h : Beside staged l fs) (hway : fs.SameWay staged.destination fs')
    (hdirectory : ∀ l, fs.get? l = some .directory → fs'.get? l = some .directory) :
    Beside staged l fs' :=
  h.of_resolve hway.current
    (hway.resolve (fun _ => onWay_of_directoryOf) hdirectory h.directory h.there)
    (hdirectory _ h.there)

/-- The path of a staging file ends in its name, so in no slash. -/
theorem slash (h : Beside staged l fs) : staged.path.endsWith "/" = false := by
  obtain ⟨name, -, hsegment, -, hpath⟩ := h.name
  rw [hpath]
  exact fs.endsWith_absolute hsegment _

end Beside

/-- A staging file is known by its name and its directory. -/
theorem Staged.beside (h : Staged staged l fs) (hl : l = l.dropLast ++ [name])
    (hsegment : IsSegment name)
    (hpath : staged.path = fs.absolute (joinPath (directoryOf staged.destination) name)) :
    Beside staged l fs := by
  obtain ⟨d, name', hcheck, -, hd, -, hname, rfl⟩ := Files.names_iff.1 h.names
  rw [List.dropLast_concat] at hl
  obtain rfl : name' = name := List.singleton_inj.1 (List.append_cancel_left hl)
  exact ⟨h.directory, h.names.directory,
    ⟨name', by rw [List.dropLast_concat], hsegment, hname, hpath⟩, hcheck⟩

/-- A staging file is a temporary file in the directory that was made for it. -/
theorem makeTemporary_of_stage (h : (stage destination).run.run fs = (.ok staged, fs')) :
    (ensureDirectories (directoryOf destination)).run.run fs =
        (.ok (), withParents destination fs) ∧
      (makeTemporary (directoryOf destination) stagingStart stagingEnd).run.run
        (withParents destination fs) = (.ok staged.path, fs') ∧
      staged.destination = destination := by
  rw [run_stage] at h
  rw [withParents]
  rcases hparents : (ensureDirectories (directoryOf destination)).run.run fs with ⟨_ | _, fs₁⟩ <;>
    rw [hparents] at h
  · cases h
  · dsimp only at h ⊢
    rcases htemporary :
        (makeTemporary (directoryOf destination) stagingStart stagingEnd).run.run fs₁ with
      ⟨_ | path, fs₂⟩ <;> rw [htemporary] at h <;> cases h
    exact ⟨rfl, rfl, rfl⟩

/-- A staging file is new and empty, and stands beside its destination. -/
theorem stage_eq_ok (h : (stage destination).run.run fs = (.ok staged, fs')) (hfs : fs.Grounded) :
    ∃ l, Staged staged l (withParents destination fs) ∧
      Beside staged l (withParents destination fs) ∧ staged.destination = destination ∧
      (withParents destination fs).isDirectory (directoryOf destination) = true ∧
      fs' = (withParents destination fs).set l (.file [] false) := by
  have hgrounded := hfs.keepsTree (withParents_adds hfs destination).keepsTree
  obtain ⟨hparents, htemporary, rfl⟩ := makeTemporary_of_stage h
  have hdirectory := isDirectory_of_ensureDirectories (directoryOf_ne_empty _) hparents
  obtain ⟨d, l, hd, rfl, hnames, hslash, hpath, hfree, rfl⟩ := makeTemporary_eq_ok htemporary
    hgrounded (directoryOf_ne_empty _) isSegment_stagingStart not_mem_stagingEnd
  have hsegment := (withParents staged.destination fs).isSegment_freeName d isSegment_stagingStart
    not_mem_stagingEnd
  have hstaged : Staged staged _ (withParents staged.destination fs) :=
    ⟨hnames, hslash, by rwa [List.dropLast_concat], hfree⟩
  exact ⟨_, hstaged, hstaged.beside (by rw [List.dropLast_concat]) hsegment hpath, rfl, hdirectory,
    rfl⟩

/-- The path of a staging file ends in a numbered name. -/
theorem stage_name (h : (stage destination).run.run fs = (.ok staged, fs')) :
    ∃ n, (namedSegments staged.path).getLast? =
      some (numberedName stagingStart stagingEnd n) := by
  obtain ⟨-, htemporary, -⟩ := makeTemporary_of_stage h
  obtain ⟨d, -, hpath, -⟩ := makeTemporary_path htemporary
  have hsegment := (withParents destination fs).isSegment_freeName d isSegment_stagingStart
    not_mem_stagingEnd
  obtain ⟨n, hn⟩ := freeNameFrom_eq
    (fun name => ((withParents destination fs).get? (d ++ [name])).isSome) stagingStart stagingEnd
    (withParents destination fs).entries.length 0
  refine ⟨n, ?_⟩
  rw [hpath, Files.getLast?_absolute _ hsegment, Files.freeName, hn]

/-- There is a staging file for a destination whose directory is there, unless its path is too
long. -/
theorem stage_of_resolve (hfs : fs.Grounded) (hd : fs.resolve (directoryOf destination) = .ok d)
    (hthere : fs.get? d = some .directory)
    (hname : IsName (fs.freeName d stagingStart stagingEnd))
    (hcheck : Files.checkPath (fs.absolute (joinPath (directoryOf destination)
      (fs.freeName d stagingStart stagingEnd))) = .ok ()) :
    let path := fs.absolute (joinPath (directoryOf destination)
      (fs.freeName d stagingStart stagingEnd))
    let l := d ++ [fs.freeName d stagingStart stagingEnd]
    Staged ⟨path, destination⟩ l fs ∧
      (stage destination).run.run fs = (.ok ⟨path, destination⟩, fs.set l (.file [] false)) := by
  have hdirectory : fs.isDirectory (directoryOf destination) = true := by
    simp [Files.isDirectory, Files.stat, hd, hthere, bind, Except.bind]
  have hsegment := fs.isSegment_freeName d isSegment_stagingStart not_mem_stagingEnd
  constructor
  · have hnonempty := directoryOf_ne_empty destination
    exact ⟨hfs.names_of_checkPath hsegment hname hnonempty hd hthere hcheck,
      fs.endsWith_absolute hsegment _, by rwa [List.dropLast_concat], fs.get?_freeName d _ _⟩
  · rw [run_stage, ensureDirectories_of_isDirectory hdirectory]
    simp only
    rw [makeTemporary_of_resolve hfs (directoryOf_ne_empty destination) isSegment_stagingStart
      not_mem_stagingEnd hd hthere hcheck hname]

/-- If there is no staging file, only directories have been made, and the failure names the
destination. -/
theorem stage_eq_error (h : (stage destination).run.run fs = (.error failure, fs')) :
    (∃ e, failure = .outputWriteFailed destination e) ∧ fs' = withParents destination fs := by
  rw [run_stage] at h
  rw [withParents]
  rcases hparents : (ensureDirectories (directoryOf destination)).run.run fs with ⟨_ | _, fs₁⟩
  · rw [hparents] at h
    cases h
    exact ⟨⟨_, rfl⟩, rfl⟩
  · rw [hparents] at h
    dsimp only at h
    rcases htemporary :
        (makeTemporary (directoryOf destination) stagingStart stagingEnd).run.run fs₁ with
      ⟨_ | path, fs₂⟩ <;> rw [htemporary] at h <;> cases h
    exact ⟨⟨_, rfl⟩, makeTemporary_eq_error htemporary⟩

/-! ## Putting a staging file in place -/

/-- A staging file is renamed; if that fails, it is given up. -/
theorem run_persist (staged : StagedOutput) (fs : Files) :
    staged.persist.run.run fs = match fs.renameFile staged.path staged.destination with
      | .ok fs' => (.ok (), fs')
      | .error e => (.error (.outputWriteFailed staged.destination e),
          ((staged.discard : Action Failure Unit).run.run fs).2) := by
  simp only [StagedOutput.persist, Action.run_bind, Action.run_get]
  cases fs.renameFile staged.path staged.destination with
  | ok fs' => rfl
  | error e =>
    simp only [Action.run_bind, StagedOutput.discard, run_discardTemporary]
    rfl

/-- The entry of the staging file comes to stand at the destination, where no directory is. -/
theorem persist_eq_ok (h : staged.persist.run.run fs = (.ok (), fs'))
    (hnames : fs.Names staged.path l) :
    ∃ l' e, fs.Names staged.destination l' ∧ fs.get? l = some e ∧
      fs.get? l' ≠ some .directory ∧ staged.destination.endsWith "/" = false ∧
      fs' = (fs.erase l).set l' e := by
  rw [run_persist] at h
  cases hrename : fs.renameFile staged.path staged.destination with
  | error e =>
    rw [hrename] at h
    cases h
  | ok fs'' =>
    rw [hrename] at h
    cases h
    exact Files.renameFile_eq_ok hrename hnames

/-- Nothing but a directory at the destination, or a path that leads to none, stands in the way. -/
theorem persist_of_names (hnames : fs.Names staged.path l) (he : fs.get? l = some e)
    (hdestination : fs.Names staged.destination l')
    (hslash : staged.destination.endsWith "/" = false)
    (hdirectory : fs.get? l' ≠ some .directory) :
    staged.persist.run.run fs = (.ok (), (fs.erase l).set l' e) := by
  rw [run_persist, Files.renameFile_of_file hnames hdestination hslash he hdirectory]

/-- A staging file that cannot be put in place is given up, and the failure names its destination.
-/
theorem persist_eq_error (h : staged.persist.run.run fs = (.error failure, fs')) :
    (∃ e, failure = .outputWriteFailed staged.destination e) ∧
      fs' = ((staged.discard : Action Failure Unit).run.run fs).2 := by
  rw [run_persist] at h
  cases hrename : fs.renameFile staged.path staged.destination with
  | error e =>
    rw [hrename] at h
    cases h
    exact ⟨⟨e, rfl⟩, rfl⟩
  | ok fs'' =>
    rw [hrename] at h
    cases h

/-! ## PDF files -/

theorem length_pdfMagic : pdfMagic.length = 4 := by
  rw [pdfMagic, encode_eq]
  rfl

/-- A PDF file has a size, and nothing else has. -/
theorem pdfSize_eq_ok_iff : pdfSize fs path = .ok size ↔
    ∃ content executable, fs.stat path = .ok (.file content executable) ∧
      pdfMagic <+: content ∧ size = content.length := by
  unfold pdfSize
  cases fs.stat path with
  | error e => simp
  | ok e =>
    cases e with
    | file content executable =>
      have hbegins : pdfMagic <+: content ↔ content.take pdfMagic.length = pdfMagic := by
        rw [List.prefix_iff_eq_take, eq_comm]
      by_cases hmagic : content.take pdfMagic.length = pdfMagic
      · have hempty : content ≠ [] := by
          rintro rfl
          simpa [length_pdfMagic] using congrArg List.length hmagic
        have hiff : (Except.ok content.length : Except String Nat) = .ok size ↔
            size = content.length := by rw [Except.ok.injEq, eq_comm]
        simp [hmagic, hempty, hbegins, hiff]
      · simp only [hmagic, if_false]
        split
        · simp [hbegins, hmagic]
        · split <;> simp [hbegins, hmagic]
    | directory => simp
    | link target => simp

/-- A PDF file begins as all of them do, and its size is all of its content. -/
theorem validatePdf_eq_ok_iff : validatePdf fs path backend = .ok size ↔
    ∃ content executable, fs.stat path = .ok (.file content executable) ∧
      pdfMagic <+: content ∧ size = content.length := by
  rw [← pdfSize_eq_ok_iff, validatePdf]
  cases pdfSize fs path <;> simp [Except.mapError]

/-! ## HTML -/

/-- The HTML document is written in two steps, and both failures name its path. -/
theorem run_writeHtml (hfs : fs.Grounded) (path html : String) :
    (writeHtml path html).run.run fs =
      match (ensureDirectories (directoryOf path)).run.run fs with
      | (.error e, fs') => (.error (.outputWriteFailed path e), fs')
      | (.ok (), fs') => match fs'.writeFile path (encode html) with
        | .ok fs'' => (.ok (), fs'')
        | .error e => (.error (.outputWriteFailed path e), fs') := by
  rw [run_ensureDirectories_directoryOf hfs]
  simp only [writeHtml, Action.run_mapError, Action.run_bind, Action.run_update]
  rcases (ensureDirectories ((parent? path).getD "")).run.run fs with ⟨_ | _, fs'⟩
  · rfl
  · dsimp only
    cases Files.writeFile path (encode html) fs' <;> rfl

/-- One file is written, in a directory that is there then. -/
theorem writeHtml_eq_ok (h : (writeHtml path html).run.run fs = (.ok (), fs'))
    (hfs : fs.Grounded) :
    ∃ l, (withParents path fs).writeLocation (Files.maxLinks + 1)
        (withParents path fs).current path = .ok l ∧
      fs' = (withParents path fs).set l
        (.file (encode html) ((withParents path fs).executableAt l)) := by
  rw [run_writeHtml hfs] at h
  rw [withParents]
  rcases hparents : (ensureDirectories (directoryOf path)).run.run fs with ⟨_ | _, fs₁⟩
  · rw [hparents] at h
    cases h
  · rw [hparents] at h
    dsimp only at h ⊢
    cases hwrite : Files.writeFile path (encode html) fs₁ with
    | error e =>
      rw [hwrite] at h
      cases h
    | ok fs₂ =>
      rw [hwrite] at h
      cases h
      exact Files.writeFile_eq_ok hwrite

/-- If the HTML document is not written, only directories have been made. -/
theorem writeHtml_eq_error (h : (writeHtml path html).run.run fs = (.error failure, fs'))
    (hfs : fs.Grounded) :
    (∃ e, failure = .outputWriteFailed path e) ∧ fs' = withParents path fs := by
  rw [run_writeHtml hfs] at h
  rw [withParents]
  rcases hparents : (ensureDirectories (directoryOf path)).run.run fs with ⟨_ | _, fs₁⟩
  · rw [hparents] at h
    cases h
    exact ⟨⟨_, rfl⟩, rfl⟩
  · rw [hparents] at h
    dsimp only at h ⊢
    cases hwrite : Files.writeFile path (encode html) fs₁ with
    | ok fs₂ =>
      rw [hwrite] at h
      cases h
    | error e =>
      rw [hwrite] at h
      cases h
      exact ⟨⟨e, rfl⟩, rfl⟩

end DocPress.Conversion
