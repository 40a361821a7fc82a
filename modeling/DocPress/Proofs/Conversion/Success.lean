import DocPress.Proofs.Conversion.Prepared
import DocPress.Proofs.Conversion.Script

/-!
# DocPress.Proofs.Conversion.Success

What stands at the output when a conversion has succeeded: what the winner left in its own staging
file, and nothing else. That file was empty when the winner was called, and all other files were as
they were prepared; so the turns before leave no trace in it, nor does anything that stood at the
output.
-/

namespace DocPress.Conversion

open DocPress.Backend DocPress.Document DocPress.FileSystem DocPress.Program DocPress.Text

variable {m : Machine} {config : Config} {input output text : String} {p p' : Progress}
variable {result : Except Failure ConversionReport} {report : ConversionReport} {fs : Files}
variable {job : Job} {c : Candidate} {t : Turn} {prepared : Files} {l l' : Location}
variable {content : Bytes} {executable : Bool}

/-- The winner was called with the staging file, and then said that it had rendered. -/
theorem Won.run_render (h : Won job c t prepared l l' content executable report p') :
    let call := job.call c t.staged.path
    (c.backend.render call.html call.target call.layout).run t.given = (.rendered, t.left) := by
  intro call
  have hturn := h.turn
  rw [Job.turnWith] at hturn
  have houtcome := congrArg Turn.outcome hturn
  have hleft := congrArg Turn.left hturn
  exact Prod.ext (houtcome.trans h.rendered) hleft

/-- Behind every document there is a turn that was won, on the files as they were prepared. -/
theorem Course.won_of_ok (h : Course m config input output p result p') (hfs : p.files.Grounded)
    (hconfined : ∀ b ∈ config.registry m, b.Confined) (hok : result = .ok report) :
    ∃ text, config.Begins m input text p.files ∧ ∃ c ∈ config.candidates m p.files,
      ∃ t l l' content executable, Won (config.job output text) c t
        ((config.job output text).prepared p.files) l l' content executable report p' := by
  rcases h.files_cases hfs (keepsToFile_of_confined hconfined) with ⟨-, ⟨e, herror⟩, -⟩ |
    ⟨text, hbegins, ⟨e, herror, -⟩ | ⟨report', hreport, hwon⟩⟩
  · rw [hok] at herror
    cases herror
  · rw [hok] at herror
    cases herror
  · rw [hok] at hreport
    cases hreport
    exact ⟨text, hbegins, hwon⟩

/-- What a conversion that has succeeded leaves at its output. -/
theorem convert_ok_document (m : Machine) (config : Config) (input output : String) (fs : Files)
    (hfs : fs.Grounded) (hconfined : ∀ b ∈ config.registry m, b.Confined) :
    let run := (convert m config input output).run.run ⟨fs, [], []⟩
    ∀ report, run.1 = .ok report →
      ∃ text c staged given left l l' content executable,
        let job := config.job output text
        let prepared := job.prepared fs
        let call := job.call c staged.path
        config.Begins m input text fs ∧ c ∈ config.candidates m fs ∧
        -- The winner was called last, with a new staging file that was empty.
        run.2.calls.getLast? = some call ∧ Staged staged l prepared ∧
        prepared.SameOff l given ∧ given.get? l = some (.file [] false) ∧
        -- It left a PDF file there.
        (c.backend.render call.html call.target call.layout).run given = (.rendered, left) ∧
        left.get? l = some (.file content executable) ∧ pdfMagic <+: content ∧
        -- That file stands where the output was named, and is read through it, unless a link that
        -- the file has replaced was itself on the way to it.
        prepared.Names output l' ∧ run.2.files.get? l' = some (.file content executable) ∧
        (run.2.files.readFile output = .ok content ∨
          (∃ target, prepared.get? l' = some (.link target)) ∧
            ¬ (prepared.erase l').Names output l') ∧
        report.backend = c.backend.name ∧ report.output = output ∧
        report.pdfBytes = content.length := by
  intro run report hok
  obtain ⟨text, hbegins, c, hc, t, l, l', content, executable, hwon⟩ :=
    (course_convert m config input output ⟨fs, [], []⟩).won_of_ok hfs hconfined hok
  exact ⟨text, c, t.staged, t.given, t.left, l, l', content, executable, hbegins, hc, hwon.call,
    hwon.kept.staged, hwon.kept.given, hwon.kept.given_entry, hwon.run_render, hwon.file,
    hwon.magic, hwon.names_prepared, hwon.get?_output, hwon.readFile_output, hwon.backend,
    hwon.output, hwon.size⟩

/-- Five backends with the fourth as the winner: what stood at the output has made way for its PDF
file. -/
theorem convert_ok_document_fourth :
    let config := Sample.config Sample.fiveScripts (some "b.pdf")
    let run := (convert Sample.machine config "a.md" "b.pdf").run.run
      ⟨Sample.files pdfMagic, [], []⟩
    (Sample.files pdfMagic).Grounded ∧ (∀ b ∈ config.registry Sample.machine, b.Confined) ∧
      ∃ report content executable, run.1 = .ok report ∧
        run.2.files.get? ["b.pdf"] = some (.file content executable) ∧ pdfMagic <+: content ∧
        report.pdfBytes = content.length := by
  intro config run
  have hfs := Sample.grounded pdfMagic
  have hconfined := Sample.confined_registry Sample.fiveScripts (some "b.pdf")
  obtain ⟨report, hok⟩ := Sample.exists_report (Sample.emitHtml_files pdfMagic _ "# x")
  obtain ⟨text, c, staged, given, left, l, l', content, executable, -, -, -, -, -, -, -, -, hmagic,
    hnames, hfile, -, -, -, hsize⟩ :=
    convert_ok_document Sample.machine config "a.md" "b.pdf" _ hfs hconfined report hok
  have hkeeps := ((config.job "b.pdf" text).prepares_prepared hfs).keepsTree
  obtain rfl := ((Sample.names pdfMagic).keepsTree hkeeps).unique hnames
  exact ⟨hfs, hconfined, report, content, executable, hok, hfile, hmagic, hsize⟩

end DocPress.Conversion
