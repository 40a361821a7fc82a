import DocPress.Proofs.Conversion.Confined
import DocPress.Proofs.Conversion.Source
import DocPress.Proofs.Conversion.Winner

/-!
# DocPress.Proofs.Conversion.Script

Backends that follow a script: they write something to their file or delete it, and then end in a
way that was laid down before. They keep to their file (`Script.confined_backend`), and which of them
wins can be read off the scripts (`Script.Room.winsAt_iff`).
-/

namespace DocPress

open DocPress.Backend DocPress.Document DocPress.FileSystem DocPress.Page DocPress.Text
open DocPress.Conversion

namespace Conversion

/-- What a backend does, whatever the document is. -/
structure Script where
  name : String
  availability : Availability
  /-- What is written to the file; if it is nothing, the file is deleted. -/
  written : Option Bytes
  outcome : RenderOutcome

namespace Script

/-- The backend that follows a script. -/
def backend (s : Script) : Backend where
  name := s.name
  flavor := .css
  installHint := ""
  probe _ := s.availability
  render _ path _ fs := (s.outcome, match s.written with
    | some content => (fs.writeFile path content).toOption.getD fs
    | none => (fs.removeFile path).toOption.getD fs)

/-- The files when a script has come to its end, where its file stood at a location. -/
def leaves (s : Script) (l : Location) (executable : Bool) (fs : Files) : Files :=
  match s.written with
  | some content => fs.set l (.file content executable)
  | none => fs.erase l

variable {s : Script} {fs : Files} {l : Location} {path html : String} {layout : Layout}
variable {content : Bytes} {executable : Bool}

/-- A script writes to its file or deletes it, and ends as it says. -/
theorem run_render (s : Script) (html : String) (layout : Layout) (hnames : fs.Names path l)
    (hslash : path.endsWith "/" = false) (he : fs.get? l = some (.file content executable)) :
    (s.backend.render html path layout).run fs = (s.outcome, s.leaves l executable fs) := by
  unfold backend leaves
  cases s.written with
  | none =>
    change (s.outcome, (fs.removeFile path).toOption.getD fs) = _
    rw [Files.removeFile_of_file hnames hslash he]
    rfl
  | some written =>
    change (s.outcome, (fs.writeFile path written).toOption.getD fs) = _
    rw [Files.writeFile_of_file hnames hslash he]
    rfl

/-- A backend that follows a script changes nothing but its file. -/
theorem confined_backend (s : Script) : s.backend.Confined := by
  intro html path layout fs l content executable hnames he
  have hsame : fs.SameOff l fs ∧ (fs.get? l = none ∨
      ∃ content executable, fs.get? l = some (.file content executable)) :=
    ⟨.refl l fs, .inr ⟨content, executable, he⟩⟩
  cases hwritten : s.written with
  | none =>
    have hleft : ((s.backend.render html path layout).run fs).2 =
        (fs.removeFile path).toOption.getD fs := by
      unfold backend
      rw [hwritten]
      rfl
    simp only [hleft]
    cases hremove : fs.removeFile path with
    | error e => exact hsame
    | ok left =>
      obtain rfl := Files.removeFile_eq_ok hremove hnames
      exact ⟨.erase l fs, .inl (Files.get?_erase_self fs hnames.ne_root)⟩
  | some written =>
    have hleft : ((s.backend.render html path layout).run fs).2 =
        (fs.writeFile path written).toOption.getD fs := by
      unfold backend
      rw [hwritten]
      rfl
    simp only [hleft]
    cases hwrite : fs.writeFile path written with
    | error e => exact hsame
    | ok left =>
      obtain ⟨l', hl', rfl⟩ := Files.writeFile_eq_ok hwrite
      obtain rfl := Files.eq_of_writeLocation hl' hnames he
      exact ⟨.set l' _ fs, .inr ⟨written, _, Files.get?_set_self fs hnames.ne_root _⟩⟩

/-! ## Turns of scripts -/

/-- Files in which a job can stage and put in place what it makes. -/
structure Room (job : Job) (staged : StagedOutput) (l l' : Location) (fs : Files) : Prop where
  stage : (stage job.output).run.run fs = (.ok staged, fs.set l (.file [] false))
  names : fs.Names staged.path l
  slash : staged.path.endsWith "/" = false
  free : fs.get? l = none
  destination : fs.Names staged.destination l'
  destination_slash : staged.destination.endsWith "/" = false
  destination_file : ∃ content executable, fs.get? l' = some (.file content executable)

variable {job : Job} {staged : StagedOutput} {l' : Location} {c : Candidate} {cs : List Candidate}
variable {t : Turn} {i : Nat}

/-- The staging file comes to stand where nothing stood, so the tree is kept. -/
theorem Room.keepsTree (h : Room job staged l l' fs) (content : Bytes) (executable : Bool) :
    fs.KeepsTree (fs.set l (.file content executable)) :=
  (Files.SameOff.set l _ fs).keepsTree_of_none h.free

/-- A script does not depend on what was in its file, and leaves nothing where it deletes it. -/
theorem leaves_set (fs : Files) (h : fs.get? l = none) :
    s.leaves l false (fs.set l (.file [] false)) = match s.written with
      | some content => fs.set l (.file content false)
      | none => fs := by
  unfold leaves
  split
  · rw [Files.set_set]
  · rw [Files.erase_set_of_none h]

/-- The turn of a script, with the files that it leaves. -/
theorem Room.turn (h : Room job staged l l' fs) (hc : c.backend = s.backend) :
    job.turn c fs = .ok ⟨staged, fs.set l (.file [] false), s.outcome,
      s.leaves l false (fs.set l (.file [] false))⟩ := by
  have hfile : (fs.set l (.file [] false)).get? l = some (.file [] false) :=
    Files.get?_set_self fs h.names.ne_root _
  refine Job.turn_eq_ok h.stage ?_
  rw [hc]
  exact s.run_render _ _ (h.names.keepsTree (h.keepsTree [] false)) h.slash hfile

/-- Nothing is left of a script that has lost. -/
theorem Room.discarded (h : Room job staged l l' fs) (hturn : job.turn c fs = .ok t)
    (hc : c.backend = s.backend) : t.discarded = fs := by
  rw [h.turn hc] at hturn
  cases hturn
  rw [Turn.discarded, StagedOutput.discard, run_discardTemporary]
  simp only [leaves_set fs h.free]
  cases s.written with
  | some content =>
    rw [Files.removeFile_of_file (h.names.keepsTree (h.keepsTree content false)) h.slash
      (Files.get?_set_self fs h.names.ne_root _)]
    exact Files.erase_set_of_none h.free _
  | none => rw [Files.removeFile_of_none h.names h.free]

/-- Each script has its turn with the same files, since those before it leave no trace. -/
theorem Room.filesBefore (h : Room job staged l l' fs)
    (hcs : ∀ c ∈ cs, ∃ s : Script, c.backend = s.backend) (i : Nat) :
    job.filesBefore cs fs i = fs := by
  induction cs generalizing i with
  | nil => cases i <;> rfl
  | cons c cs ih =>
    obtain ⟨⟨s, hs⟩, hcs⟩ := List.forall_mem_cons.1 hcs
    cases i with
    | zero => rfl
    | succ i =>
      have hafter : job.filesAfter c fs = fs := by
        unfold Job.filesAfter
        split
        · rfl
        · rw [h.turn hs]
          exact h.discarded (h.turn hs) hs
      rw [Job.filesBefore, hafter]
      exact ih hcs i

/-- Every script has its turn with the same files. -/
theorem Room.turn_filesBefore (h : Room job staged l l' fs)
    (hcs : ∀ c ∈ cs, ∃ s : Script, c.backend = s.backend) (hs : c.backend = s.backend) (i : Nat) :
    job.turn c (job.filesBefore cs fs i) = .ok ⟨staged, fs.set l (.file [] false), s.outcome,
      s.leaves l false (fs.set l (.file [] false))⟩ := by
  rw [h.filesBefore hcs, h.turn hs]

/-- A script wins if it is there, says that it has rendered, and has written a PDF file. -/
theorem Room.winsAt_iff (h : Room job staged l l' fs)
    (hcs : ∀ c ∈ cs, ∃ s : Script, c.backend = s.backend) (hc : cs[i]? = some c)
    (hs : c.backend = s.backend) :
    job.WinsAt cs fs i ↔ c.availability.isInstalled = true ∧ s.outcome = .rendered ∧
      ∃ content, s.written = some content ∧ pdfMagic <+: content := by
  have hleft : s.leaves l false (fs.set l (.file [] false)) = match s.written with
      | some content => fs.set l (.file content false)
      | none => fs := leaves_set fs h.free
  constructor
  · rintro ⟨c', t, content, executable, hc', hinstalled, hturn, hrendered, hstat, -, hmagic⟩
    rw [hc] at hc'
    cases hc'
    rw [h.turn_filesBefore hcs hs] at hturn
    cases hturn
    refine ⟨hinstalled, hrendered, ?_⟩
    simp only [hleft] at hstat
    cases hwritten : s.written with
    | none =>
      rw [hwritten] at hstat
      exact absurd hstat (h.names.stat_ne_ok h.slash h.free)
    | some content' =>
      rw [hwritten] at hstat
      have hfile := (h.names.keepsTree (h.keepsTree content' false)).stat_file h.slash
        (Files.get?_set_self fs h.names.ne_root _)
      rw [hfile] at hstat
      cases hstat
      exact ⟨content, rfl, hmagic⟩
  · rintro ⟨hinstalled, hrendered, content, hwritten, hmagic⟩
    refine ⟨c, _, content, false, hc, hinstalled, h.turn_filesBefore hcs hs i, hrendered, ?_, ?_,
      hmagic⟩
    · simp only [hleft, hwritten]
      exact (h.names.keepsTree (h.keepsTree content false)).stat_file h.slash
        (Files.get?_set_self fs h.names.ne_root _)
    · rw [← length_pdfMagic]
      exact hmagic.length_le

/-- Every staging file can be made, and put in place of the file at the destination. -/
theorem Room.unobstructed (h : Room job staged l l' fs)
    (hcs : ∀ c ∈ cs, ∃ s : Script, c.backend = s.backend) : job.Unobstructed cs fs where
  stage i c hc _ _ := by
    obtain ⟨s, hs⟩ := hcs c (List.mem_of_getElem? hc)
    exact ⟨_, h.turn_filesBefore hcs hs i⟩
  persist i c t hc hturn hwinner := by
    obtain ⟨s, hs⟩ := hcs c (List.mem_of_getElem? hc)
    obtain ⟨-, -, content, hwritten, -⟩ := (h.winsAt_iff hcs hc hs).mp hwinner.wins
    rw [h.turn_filesBefore hcs hs] at hturn
    cases hturn
    obtain ⟨old, executable, hold⟩ := h.destination_file
    have hne : l' ≠ l := by
      rintro rfl
      rw [h.free] at hold
      contradiction
    simp only [leaves_set fs h.free, hwritten]
    refine ⟨_, persist_of_names (h.names.keepsTree (h.keepsTree content false))
      (Files.get?_set_self fs h.names.ne_root _)
      (h.destination.keepsTree (h.keepsTree content false)) h.destination_slash ?_⟩
    rw [Files.get?_set_of_ne fs hne, hold]
    simp

end Script

/-! ## A small conversion -/

namespace Sample

/-- A source, and a document that stands where the new one is to go. -/
def files (document : Bytes) : Files :=
  ⟨[(["b.pdf"], .file document false), (["a.md"], .file [35, 32, 120] false)], []⟩

def config (scripts : List Script) (emitHtml : Option String) : Config :=
  { Config.standard with backends := some (scripts.map Script.backend), emitHtml }

variable {scripts : List Script} {emitHtml : Option String} {fs : Files} {c : Candidate}
variable {s : Script} {i : Nat}

/-- A machine without programs. -/
def machine : Program.Machine :=
  ⟨[], fun _ _ _ => throw .notFound⟩

theorem grounded (document : Bytes) : (files document).Grounded where
  segment name h := by cases h
  name name h := by cases h
  directory l h := by
    rw [List.prefix_nil.1 h]
    rfl

theorem names (document : Bytes) : (files document).Names "b.pdf" ["b.pdf"] :=
  (grounded document).names_here ⟨by decide, by decide⟩ ⟨by decide, by decide, by decide⟩
    (by decide)

/-- Where the working directory is the root, a staging file for a name stands there. -/
theorem stage_here {fs : Files} {name path : String} (hfs : fs.Grounded)
    (hresolve : fs.resolve "." = .ok []) (hname : fs.freeName [] stagingStart stagingEnd = name)
    (hshort : IsName name) (habsolute : fs.absolute (joinPath "." name) = path)
    (hcheck : Files.checkPath path = .ok ()) :
    Staged ⟨path, "b.pdf"⟩ [name] fs ∧
      (stage "b.pdf").run.run fs = (.ok ⟨path, "b.pdf"⟩, fs.set [name] (.file [] false)) := by
  have hdirectory : directoryOf "b.pdf" = "." := by decide +kernel
  have hstage := stage_of_resolve hfs (by rwa [hdirectory]) rfl (by rwa [hname])
    (by rwa [hdirectory, hname, habsolute])
  rwa [hdirectory, hname, habsolute] at hstage

/-- The first staging file of all. -/
theorem stage_first {fs : Files} (hfs : fs.Grounded) (hcurrent : fs.current = [])
    (hfree : fs.get? [".md2pdf-000000.pdf"] = none) :
    Staged ⟨"/./.md2pdf-000000.pdf", "b.pdf"⟩ [".md2pdf-000000.pdf"] fs ∧
      (stage "b.pdf").run.run fs = (.ok ⟨"/./.md2pdf-000000.pdf", "b.pdf"⟩,
        fs.set [".md2pdf-000000.pdf"] (.file [] false)) := by
  have hname : fs.freeName [] stagingStart stagingEnd = ".md2pdf-000000.pdf" := by
    have hzero : numberedName stagingStart stagingEnd 0 = ".md2pdf-000000.pdf" := by decide
    rw [← hzero] at hfree ⊢
    exact Files.freeName_of_free hfree
  have habsolute : fs.absolute (joinPath "." ".md2pdf-000000.pdf") = "/./.md2pdf-000000.pdf" := by
    rw [Files.absolute, hcurrent]
    decide +kernel
  have hcheck : Files.checkPath "/./.md2pdf-000000.pdf" = .ok () :=
    Files.checkPath_eq_ok_iff.2 (by decide)
  exact stage_here hfs (by rw [hfs.resolve_here, hcurrent]) hname
    ⟨by decide, by decide, by decide⟩ habsolute hcheck

/-- There is room for all jobs, whatever the backends and the text. -/
theorem room (document : Bytes) (scripts : List Script) (emitHtml : Option String) (text : String) :
    Script.Room ((config scripts emitHtml).job "b.pdf" text) ⟨"/./.md2pdf-000000.pdf", "b.pdf"⟩
      [".md2pdf-000000.pdf"] ["b.pdf"] (files document) := by
  have hfree : (files document).get? [".md2pdf-000000.pdf"] = none := by
    simp [Files.get?, files, List.lookup_cons]
  obtain ⟨hstaged, hstage⟩ := stage_first (grounded document) rfl hfree
  exact ⟨hstage, hstaged.names, hstaged.slash, hfree, names document, by decide +kernel,
    document, false, rfl⟩

theorem readFile_files (document : Bytes) :
    (files document).readFile "a.md" = .ok [35, 32, 120] := by
  have hnames : (files document).Names "a.md" ["a.md"] :=
    (grounded document).names_here ⟨by decide, by decide⟩ ⟨by decide, by decide, by decide⟩
      (by decide)
  exact hnames.readFile (by decide +kernel) rfl

theorem readSource_files (document : Bytes) : readSource (files document) "a.md" = .ok "# x" :=
  readSource_of_readFile (readFile_files document) (show _ = some "# x" by decide +kernel)

/-- The HTML document comes to stand where it is asked for, in place of the old document. -/
theorem emitHtml_files (document : Bytes) (scripts : List Script) (text : String) :
    ((config scripts (some "b.pdf")).job "b.pdf" text).emitHtml.run.run (files document) =
      (.ok (), files (encode (documentFor (.ofMarkdown .auto text) .css
        (config scripts (some "b.pdf"))))) := by
  change (writeHtml "b.pdf" _).run.run (files document) = _
  rw [run_writeHtml (grounded document), show directoryOf "b.pdf" = "." by decide +kernel,
    ensureDirectories_of_isDirectory (isDirectory_here (grounded document))]
  simp only [Files.writeFile_of_file (names document) (by decide +kernel) rfl]
  rfl

/-- The candidates are the scripts in their order. -/
theorem getElem?_candidates (scripts : List Script) (emitHtml : Option String) (fs : Files)
    (i : Nat) : ((config scripts emitHtml).candidates machine fs)[i]? =
      scripts[i]?.map fun s => ⟨i, s.backend, s.availability⟩ := by
  rw [Conversion.getElem?_candidates]
  simp only [Config.registry, config, Option.getD_some, List.getElem?_map, Option.map_map]
  rfl

/-- Every candidate follows a script. -/
theorem exists_script (h : c ∈ (config scripts emitHtml).candidates machine fs) :
    ∃ s : Script, c.backend = s.backend := by
  obtain ⟨i, hi⟩ := List.mem_iff_getElem?.1 h
  rw [getElem?_candidates, Option.map_eq_some_iff] at hi
  obtain ⟨s, -, rfl⟩ := hi
  exact ⟨s, rfl⟩

/-- All backends keep to their files. -/
theorem confined_registry (scripts : List Script) (emitHtml : Option String) :
    ∀ b ∈ (config scripts emitHtml).registry machine, b.Confined := by
  intro b hb
  obtain ⟨s, -, rfl⟩ := List.mem_map.1 hb
  exact s.confined_backend

/-- Which scripts win in a small conversion. -/
theorem winsAt_iff (document : Bytes) (emitHtml : Option String) (text : String)
    (hs : scripts[i]? = some s) :
    ((config scripts emitHtml).job "b.pdf" text).WinsAt
        ((config scripts emitHtml).candidates machine fs) (files document) i ↔
      s.availability.isInstalled = true ∧ s.outcome = .rendered ∧
        ∃ content, s.written = some content ∧ pdfMagic <+: content := by
  have hc : ((config scripts emitHtml).candidates machine fs)[i]? =
      some ⟨i, s.backend, s.availability⟩ := by
    rw [getElem?_candidates, hs]
    rfl
  exact (room document scripts emitHtml text).winsAt_iff (fun _ => exists_script) hc rfl

/-- Three backends without a PDF file: one is missing, one breaks off with half a file, and one
deletes its file. -/
def threeScripts : List Script :=
  [⟨"absent", .missing "not found", none, .rendered⟩,
   ⟨"broken", .installed none, some pdfMagic, .panicked "out of memory"⟩,
   ⟨"empty", .installed none, none, .rendered⟩]

/-- Five backends: behind those without a PDF file, one writes one, and one is not needed. -/
def fiveScripts : List Script :=
  threeScripts ++ [⟨"good", .installed none, some (pdfMagic ++ [45, 49]), .rendered⟩,
   ⟨"spare", .installed none, some pdfMagic, .rendered⟩]

theorem hasBackend_three (emitHtml : Option String) (fs : Files) :
    (config threeScripts emitHtml).HasBackend machine fs :=
  ⟨_, List.mem_map_of_mem (List.mem_of_getElem? (i := 1) rfl), rfl⟩

theorem hasBackend_five (emitHtml : Option String) (fs : Files) :
    (config fiveScripts emitHtml).HasBackend machine fs :=
  ⟨_, List.mem_map_of_mem (List.mem_of_getElem? (i := 3) rfl), rfl⟩

/-- None of the three can win. -/
theorem not_winsAt (hs : scripts[i]? = some s) (hthree : s ∈ threeScripts) (document : Bytes)
    (emitHtml : Option String) (text : String) (fs : Files) :
    ¬ ((config scripts emitHtml).job "b.pdf" text).WinsAt
      ((config scripts emitHtml).candidates machine fs) (files document) i := by
  rw [winsAt_iff _ _ _ hs]
  rintro ⟨hinstalled, hrendered, content, hwritten, -⟩
  simp only [threeScripts, List.mem_cons, List.not_mem_nil, or_false] at hthree
  rcases hthree with rfl | rfl | rfl <;> contradiction

/-- None of the three wins: the first is missing, the second panics, the third leaves no file. -/
theorem noWinner (document : Bytes) (emitHtml : Option String) (text : String) (fs : Files)
    (i : Nat) : ¬ ((config threeScripts emitHtml).job "b.pdf" text).WinsAt
      ((config threeScripts emitHtml).candidates machine fs) (files document) i := by
  intro hwins
  obtain ⟨c, -, -, -, hc, -⟩ := id hwins
  rw [getElem?_candidates, Option.map_eq_some_iff] at hc
  obtain ⟨s, hs, -⟩ := hc
  exact not_winsAt hs (List.mem_of_getElem? hs) document emitHtml text fs hwins

/-- Of the five, the fourth is the first that wins. -/
theorem firstWinner (document : Bytes) (emitHtml : Option String) (text : String) (fs : Files) :
    ((config fiveScripts emitHtml).job "b.pdf" text).FirstWinner
      ((config fiveScripts emitHtml).candidates machine fs) (files document) 3 where
  wins := (winsAt_iff _ _ _ rfl).mpr ⟨rfl, rfl, _, rfl, List.prefix_append _ _⟩
  first i hi := by
    have hthree : i < threeScripts.length := hi
    have hs : fiveScripts[i]? = some threeScripts[i] := by
      rw [fiveScripts, List.getElem?_append_left hthree, List.getElem?_eq_getElem hthree]
    exact not_winsAt hs (List.getElem_mem hthree) document emitHtml text fs

section Runs

variable {document ready : Bytes}

/-- A small conversion of which the HTML document is no obstacle. -/
theorem chain (hbackend : (config scripts emitHtml).HasBackend machine (files document))
    (hemit : ((config scripts emitHtml).job "b.pdf" "# x").emitHtml.run.run (files document) =
      (.ok (), files ready)) :
    let config := config scripts emitHtml
    let job := config.job "b.pdf" "# x"
    let run := (convert machine config "a.md" "b.pdf").run.run ⟨files document, [], []⟩
    Chain job (config.candidates machine (files document)) []
        (job.ready ⟨files document, [], []⟩ (files ready)) run.1 run.2 ∧
      job.Unobstructed (config.candidates machine (files document)) (files ready) := by
  intro config job run
  exact ⟨(course_convert machine config "a.md" "b.pdf" ⟨files document, [], []⟩).chain hbackend
    (readSource_files document) hemit,
    (room ready scripts emitHtml "# x").unobstructed fun _ => exists_script⟩

/-- With the five backends there is a document. -/
theorem exists_report
    (hemit : ((config fiveScripts emitHtml).job "b.pdf" "# x").emitHtml.run.run (files document) =
      (.ok (), files ready)) :
    ∃ report, ((convert machine (config fiveScripts emitHtml) "a.md" "b.pdf").run.run
      ⟨files document, [], []⟩).1 = .ok report := by
  obtain ⟨hchain, hclear⟩ := chain (hasBackend_five _ _) hemit
  obtain ⟨c, size, records, -, hresult, -⟩ := hchain.of_firstWinner hclear (firstWinner _ _ _ _)
  exact ⟨_, hresult⟩

/-- With the three there is none, and the failure has all their errors. -/
theorem exists_errors
    (hemit : ((config threeScripts emitHtml).job "b.pdf" "# x").emitHtml.run.run (files document) =
      (.ok (), files ready)) :
    ∃ errors, ((convert machine (config threeScripts emitHtml) "a.md" "b.pdf").run.run
      ⟨files document, [], []⟩).1 = .error (.allBackendsExhausted errors) := by
  obtain ⟨hchain, hclear⟩ := chain (hasBackend_three _ _) hemit
  obtain ⟨records, hresult, -⟩ := hchain.of_noWinner hclear (noWinner _ _ _ _)
  exact ⟨_, hresult⟩

end Runs

end Sample

end Conversion

end DocPress
