import DocPress.Proofs.Conversion.Prepared
import DocPress.Proofs.Conversion.Script
import DocPress.Proofs.Text.Utf8

/-!
# DocPress.Proofs.Conversion.Overwrite

What stands at the output when a conversion has failed: what was prepared, whatever the backends
did. So an entry is as it was before, unless preparing has changed it (`Job.Overwrites`):

1. The HTML document was written there, in place of something else.
2. A directory was made there on the way to one of the paths that are written.

With a path for the HTML document, both can happen to the output itself.
-/

namespace DocPress.Conversion

open DocPress.Backend DocPress.Document DocPress.FileSystem DocPress.Page DocPress.Program
open DocPress.Text

/-- Every HTML document begins with an angle bracket. -/
theorem head?_encode_wrapDocument (body : String) (flavor : Flavor) (layout : Layout)
    (title : Option String) :
    (encode (wrapDocument body flavor layout title)).head? = some 60 := by
  have hdoctype : (encode "<!DOCTYPE html>\n<html>\n<head>\n    <meta charset=\"").head? =
      some 60 := by
    rw [encode_eq]
    rfl
  have hhead : (encode (documentHead layout.encoding title)).head? = some 60 := by
    unfold documentHead
    apply head?_encode_append
    apply head?_encode_append
    apply head?_encode_append
    apply head?_encode_append
    exact hdoctype
  unfold wrapDocument
  exact head?_encode_append (head?_encode_append hhead)

namespace Job

/-- Preparing a job changes an entry. -/
def Overwrites (job : Job) (fs : Files) (l : Location) : Prop :=
  (job.WritesHtmlAt fs l ∧ ∀ executable, fs.get? l ≠ some (.file job.html executable)) ∨
    (fs.get? l = none ∧ (job.prepared fs).get? l = some .directory)

variable {job : Job} {fs : Files} {l : Location}

/-- Preparing changes an entry exactly if it is overwritten. -/
theorem get?_prepared_iff (hfs : fs.Grounded) :
    (job.prepared fs).get? l = fs.get? l ↔ ¬ job.Overwrites fs l := by
  constructor
  · rintro hsame (⟨hwrites, hnot⟩ | ⟨hnone, hdirectory⟩)
    · exact hnot _ (hsame.symm.trans (hwrites.get?_prepared hfs))
    · rw [hsame, hnone] at hdirectory
      contradiction
  · intro hnot
    rcases (job.prepares_prepared hfs).entry l with
      hsame | ⟨hnone, hdirectory, -⟩ | ⟨hwrites, hfile⟩
    · exact hsame
    · exact absurd (.inr ⟨hnone, hdirectory⟩) hnot
    · by_contra hne
      refine hnot (.inl ⟨hwrites, fun executable hsame => hne ?_⟩)
      rw [hfile, Files.executableAt, hsame]

/-- Without an HTML document, nothing happens to an output whose directory is there. -/
theorem prepared_of_names (hfs : fs.Grounded) (hnone : job.config.emitHtml = none)
    (hnames : fs.Names job.output l) : job.prepared fs = fs := by
  have hemit : job.emitHtml.run.run fs = (.ok (), fs) := by
    rw [emitHtml, hnone]
    rfl
  rw [prepared_of_emitHtml hemit, withParents_of_names hfs hnames]

/-- An HTML document is no PDF file. -/
theorem not_pdfMagic_prefix_html (job : Job) : ¬ pdfMagic <+: job.html := by
  rintro ⟨rest, hrest⟩
  have hmagic : pdfMagic.head? = some 37 := by
    rw [pdfMagic, encode_eq]
    rfl
  have hhtml : job.html.head? = some 60 := head?_encode_wrapDocument ..
  rw [← hrest, List.head?_append, hmagic] at hhtml
  exact absurd hhtml (by simp)

end Job

variable {m : Machine} {config : Config} {input output text : String} {p p' : Progress}
variable {result : Except Failure ConversionReport} {e : Failure} {l : Location}

/-- A conversion that fails leaves the files as they were or as they were prepared. -/
theorem Course.same_of_error (h : Course m config input output p result p')
    (hfs : p.files.Grounded) (hconfined : ∀ b ∈ config.registry m, b.Confined)
    (herror : result = .error e) :
    (p' = p ∧ ∀ text, ¬ config.Begins m input text p.files) ∨
      ∃ text, config.Begins m input text p.files ∧
        ((config.job output text).prepared p.files).Same p'.files := by
  rcases h.files_cases hfs (keepsToFile_of_confined hconfined) with ⟨heq, -, hnot⟩ |
    ⟨text, hbegins, ⟨_, -, -, hsame⟩ | ⟨report, hok, -⟩⟩
  · exact .inl ⟨heq, hnot⟩
  · exact .inr ⟨text, hbegins, hsame⟩
  · rw [herror] at hok
    cases hok

/-- When exactly a conversion that fails leaves an entry as it was. -/
theorem convert_error_entry (m : Machine) (config : Config) (input output : String) (fs : Files)
    (hfs : fs.Grounded) (hconfined : ∀ b ∈ config.registry m, b.Confined) :
    let run := (convert m config input output).run.run ⟨fs, [], []⟩
    ∀ e l, run.1 = .error e →
      (run.2.files.get? l = fs.get? l ↔
        ∀ text, config.Begins m input text fs → ¬ (config.job output text).Overwrites fs l) ∧
      (config.emitHtml = none → fs.Names output l → run.2.files.get? l = fs.get? l) := by
  intro run e l herror
  rcases (course_convert m config input output ⟨fs, [], []⟩).same_of_error hfs hconfined herror with
    ⟨heq, hnot⟩ | ⟨text, hbegins, hsame⟩
  · have hfiles : run.2.files = fs := congrArg Progress.files heq
    rw [hfiles]
    exact ⟨⟨fun _ text hbegins => absurd hbegins (hnot text), fun _ => rfl⟩, fun _ _ => rfl⟩
  · rw [show run.2.files.get? l = ((config.job output text).prepared fs).get? l from hsame.entry l]
    refine ⟨(Job.get?_prepared_iff hfs).trans ⟨fun h text' hbegins' => ?_, fun h => h text hbegins⟩,
      fun hnone hnames => ?_⟩
    · rwa [hbegins.unique hbegins']
    · rw [Job.prepared_of_names hfs hnone hnames]

/-- Three backends that all lose, and no HTML document: the output has the content that it had. -/
theorem convert_error_entry_three :
    let fs := Sample.files pdfMagic
    let config := Sample.config Sample.threeScripts none
    let run := (convert Sample.machine config "a.md" "b.pdf").run.run ⟨fs, [], []⟩
    fs.Grounded ∧ (∀ b ∈ config.registry Sample.machine, b.Confined) ∧
      fs.Names "b.pdf" ["b.pdf"] ∧ ∃ errors, run.1 = .error (.allBackendsExhausted errors) ∧
        run.2.files.get? ["b.pdf"] = some (.file pdfMagic false) := by
  intro fs config run
  have hfs := Sample.grounded pdfMagic
  have hconfined := Sample.confined_registry Sample.threeScripts none
  have hnames := Sample.names pdfMagic
  have hemit : (config.job "b.pdf" "# x").emitHtml.run.run fs = (.ok (), fs) := rfl
  obtain ⟨errors, herror⟩ := Sample.exists_errors hemit
  obtain ⟨-, hsame⟩ :=
    convert_error_entry Sample.machine config "a.md" "b.pdf" fs hfs hconfined _ ["b.pdf"] herror
  exact ⟨hfs, hconfined, hnames, errors, herror, hsame rfl hnames⟩

/-- The HTML document is left at the output, in place of the PDF file that stood there. -/
theorem convert_error_overwrites :
    let fs := Sample.files pdfMagic
    let config := Sample.config Sample.threeScripts (some "b.pdf")
    let run := (convert Sample.machine config "a.md" "b.pdf").run.run ⟨fs, [], []⟩
    fs.Grounded ∧ (∀ b ∈ config.registry Sample.machine, b.Confined) ∧
      (∃ errors, run.1 = .error (.allBackendsExhausted errors)) ∧ fs.Names "b.pdf" ["b.pdf"] ∧
      fs.get? ["b.pdf"] = some (.file pdfMagic false) ∧
      run.2.files.get? ["b.pdf"] = some (.file (config.job "b.pdf" "# x").html false) ∧
      (config.job "b.pdf" "# x").html ≠ pdfMagic := by
  intro fs config run
  have hfs := Sample.grounded pdfMagic
  have hconfined := Sample.confined_registry Sample.threeScripts (some "b.pdf")
  have hbegins : config.Begins Sample.machine "a.md" "# x" fs :=
    ⟨Sample.hasBackend_three _ _, Sample.readSource_files pdfMagic⟩
  have hprepared : (config.job "b.pdf" "# x").prepared fs =
      Sample.files (config.job "b.pdf" "# x").html := by
    rw [Job.prepared_of_emitHtml (Sample.emitHtml_files pdfMagic Sample.threeScripts "# x")]
    exact withParents_of_names (Sample.grounded _) (Sample.names _)
  obtain ⟨errors, herror⟩ := Sample.exists_errors (Sample.emitHtml_files pdfMagic _ "# x")
  refine ⟨hfs, hconfined, ⟨errors, herror⟩, Sample.names pdfMagic, rfl, ?_, fun hsame => ?_⟩
  · rcases (course_convert Sample.machine config "a.md" "b.pdf" ⟨fs, [], []⟩).same_of_error hfs
      hconfined herror with ⟨-, hnot⟩ | ⟨text, hbegins', hsame⟩
    · exact absurd hbegins (hnot _)
    · obtain rfl := hbegins.unique hbegins'
      rw [hprepared] at hsame
      exact hsame.entry ["b.pdf"]
  · exact (config.job "b.pdf" "# x").not_pdfMagic_prefix_html (hsame ▸ List.prefix_refl _)

end DocPress.Conversion
