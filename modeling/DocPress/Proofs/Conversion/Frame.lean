import DocPress.Proofs.Conversion.Prepared
import DocPress.Proofs.Conversion.Script

/-!
# DocPress.Proofs.Conversion.Frame

All that a conversion changes, with backends that keep to their files:

1. The entry that the output names, if there is a document.
2. The file to which the HTML document is written, if the conversion begins.
3. Directories that are missing above those two paths.

No staging file stays behind, whatever the end is; and a conversion that does not begin changes
nothing.
-/

namespace DocPress.Conversion

open DocPress.Backend DocPress.Document DocPress.FileSystem DocPress.Program DocPress.Text

variable {m : Machine} {config : Config} {input output text : String} {p p' : Progress}
variable {result : Except Failure ConversionReport} {e : Failure}

/-- Once a conversion has begun, it leaves what was prepared, but for the document. -/
theorem Course.files_eq_prepared (h : Course m config input output p result p')
    (hfs : p.files.Grounded) (hconfined : ∀ b ∈ config.registry m, b.Confined)
    (hbegins : config.Begins m input text p.files) :
    p'.files.current = p.files.current ∧
      ∀ l, p'.files.get? l = ((config.job output text).prepared p.files).get? l ∨
        ∃ report, result = .ok report ∧
          ((config.job output text).prepared p.files).Names output l := by
  have hcurrent := ((config.job output text).prepares_prepared hfs).keepsTree.current
  rcases h.files_cases hfs (keepsToFile_of_confined hconfined) with
    ⟨-, -, hnot⟩ | ⟨text', hbegins', hrest⟩
  · exact absurd hbegins (hnot text)
  · obtain rfl := hbegins.unique hbegins'
    rcases hrest with ⟨e, -, -, hsame⟩ | ⟨report, hok, c, -, t, l, l', content, executable, hwon⟩
    · exact ⟨hsame.current.trans hcurrent, fun l => .inl (hsame.entry l)⟩
    · refine ⟨hwon.off_output.current.trans hcurrent, fun l'' => ?_⟩
      by_cases hl : l'' = l'
      · subst hl
        exact .inr ⟨report, hok, hwon.names_prepared⟩
      · exact .inl (hwon.off_output.entry l'' hl)

/-- A conversion that does not begin changes nothing. -/
theorem Course.eq_of_not_begins (h : Course m config input output p result p')
    (hfs : p.files.Grounded) (hconfined : ∀ b ∈ config.registry m, b.Confined)
    (hnot : ∀ text, ¬ config.Begins m input text p.files) : p' = p := by
  rcases h.files_cases hfs (keepsToFile_of_confined hconfined) with ⟨heq, -⟩ | ⟨text, hbegins, -⟩
  · exact heq
  · exact absurd hbegins (hnot text)

/-- Only two errors come after a conversion has begun; all others leave everything as it was. -/
theorem Course.eq_of_error (h : Course m config input output p result p') (hfs : p.files.Grounded)
    (hconfined : ∀ b ∈ config.registry m, b.Confined) (herror : result = .error e)
    (hexhausted : ∀ errors, e ≠ .allBackendsExhausted errors)
    (hwrite : ∀ path cause, e ≠ .outputWriteFailed path cause) : p' = p := by
  rcases h.files_cases hfs (keepsToFile_of_confined hconfined) with ⟨heq, -⟩ |
    ⟨text, -, ⟨e', herror', hkind, -⟩ | ⟨_, hok, -⟩⟩
  · exact heq
  · rw [herror] at herror'
    cases herror'
    rcases hkind with ⟨errors, rfl⟩ | ⟨path, cause, rfl⟩
    · exact absurd rfl (hexhausted errors)
    · exact absurd rfl (hwrite path cause)
  · rw [herror] at hok
    cases hok

/-- What a conversion changes at most, and what becomes of the staging files. -/
theorem convert_frame (m : Machine) (config : Config) (input output : String) (fs : Files)
    (hfs : fs.Grounded) (hconfined : ∀ b ∈ config.registry m, b.Confined) :
    let run := (convert m config input output).run.run ⟨fs, [], []⟩
    let prepared (text : String) := (config.job output text).prepared fs
    -- All but the three kinds of entries is as it was.
    (run.2.files.current = fs.current ∧ ∀ l, run.2.files.get? l = fs.get? l ∨
      (∃ text report, config.Begins m input text fs ∧ run.1 = .ok report ∧
        (prepared text).Names output l) ∨
      (∃ text, config.Begins m input text fs ∧ (config.job output text).WritesHtmlAt fs l) ∨
      (fs.get? l = none ∧ run.2.files.get? l = some .directory ∧
        ∃ text path, config.Begins m input text fs ∧ (config.job output text).IsParent path ∧
          (prepared text).Names path l)) ∧
    -- Every file for which a backend was called is new, and is gone unless it is the output itself.
    (∀ call ∈ run.2.calls, ∃ text l, config.Begins m input text fs ∧
      (prepared text).Names call.target l ∧ (prepared text).get? l = none ∧
      (run.2.files.get? l = none ∨
        ∃ report, run.1 = .ok report ∧ (prepared text).Names output l)) ∧
    -- Without a backend or a source there is no change at all.
    ((∀ text, ¬ config.Begins m input text fs) → run.2.files = fs) ∧
    (∀ e, run.1 = .error e → (∀ errors, e ≠ .allBackendsExhausted errors) →
      (∀ path cause, e ≠ .outputWriteFailed path cause) → run.2.files = fs) := by
  intro run prepared
  have hcourse := course_convert m config input output ⟨fs, [], []⟩
  refine ⟨?_, fun call hcall => ?_, fun hnot => ?_, fun e he hexhausted hwrite => ?_⟩
  · by_cases hbegins : ∃ text, config.Begins m input text fs
    · obtain ⟨text, hbegins⟩ := hbegins
      obtain ⟨hcurrent, hentry⟩ := hcourse.files_eq_prepared hfs hconfined hbegins
      refine ⟨hcurrent, fun l => ?_⟩
      rcases hentry l with heq | ⟨report, hok, hnames⟩
      · rw [show run.2.files.get? l = (prepared text).get? l from heq]
        rcases ((config.job output text).prepares_prepared hfs).entry l with
          hsame | ⟨hnone, hdirectory, path, hparent, hnames⟩ | ⟨hwrites, -⟩
        · exact .inl hsame
        · exact .inr (.inr (.inr ⟨hnone, hdirectory, text, path, hbegins, hparent, hnames⟩))
        · exact .inr (.inr (.inl ⟨text, hbegins, hwrites⟩))
      · exact .inr (.inl ⟨text, report, hbegins, hok, hnames⟩)
    · rw [show run.2 = ⟨fs, [], []⟩ from
        hcourse.eq_of_not_begins hfs hconfined fun text h => hbegins ⟨text, h⟩]
      exact ⟨rfl, fun l => .inl rfl⟩
  · obtain ⟨text, hbegins, staged, l, htarget, hstaged⟩ :=
      hcourse.staged_of_mem_calls hfs hconfined rfl hcall
    refine ⟨text, l, hbegins, htarget ▸ hstaged.names, hstaged.free, ?_⟩
    rcases (hcourse.files_eq_prepared hfs hconfined hbegins).2 l with heq | houtput
    · exact .inl (heq.trans hstaged.free)
    · exact .inr houtput
  · rw [hcourse.eq_of_not_begins hfs hconfined hnot]
  · rw [hcourse.eq_of_error hfs hconfined he hexhausted hwrite]

/-- Five backends, and a source that is neither the output nor the HTML document: it is as it was.
-/
theorem convert_frame_source :
    let config := Sample.config Sample.fiveScripts (some "b.pdf")
    let run := (convert Sample.machine config "a.md" "b.pdf").run.run
      ⟨Sample.files pdfMagic, [], []⟩
    (Sample.files pdfMagic).Grounded ∧ (∀ b ∈ config.registry Sample.machine, b.Confined) ∧
      run.2.files.get? ["a.md"] = some (.file [35, 32, 120] false) := by
  intro config run
  have hfs := Sample.grounded pdfMagic
  have hnamed := Sample.names pdfMagic
  have hconfined := Sample.confined_registry Sample.fiveScripts (some "b.pdf")
  have hsource : (Sample.files pdfMagic).get? ["a.md"] = some (.file [35, 32, 120] false) := rfl
  refine ⟨hfs, hconfined, ?_⟩
  obtain ⟨⟨-, hentry⟩, -⟩ := convert_frame Sample.machine config "a.md" "b.pdf" _ hfs hconfined
  rcases hentry ["a.md"] with hsame | ⟨text, -, -, -, hnames⟩ | ⟨text, -, -, path, hpath, hl⟩ |
    ⟨hnone, -⟩
  · exact Eq.trans hsame hsource
  · have hkeeps := ((config.job "b.pdf" text).prepares_prepared hfs).keepsTree
    have hlocation := (hnamed.keepsTree hkeeps).unique hnames
    contradiction
  · cases hpath
    have hadds := withParents_adds hfs "b.pdf"
    have hdocument : (Sample.files pdfMagic).get? ["b.pdf"] = some (.file pdfMagic false) := rfl
    rw [← hadds.current] at hl
    have hlocation := Files.eq_of_writeLocation hl (hnamed.keepsTree hadds.keepsTree)
      (hadds.eq_of_some hdocument)
    contradiction
  · rw [hsource] at hnone
    contradiction

end DocPress.Conversion
