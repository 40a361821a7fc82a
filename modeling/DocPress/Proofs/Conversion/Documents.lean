import DocPress.Proofs.Conversion.Events
import DocPress.Proofs.Conversion.Frame
import DocPress.Proofs.Conversion.Source
import DocPress.Proofs.Conversion.Success

/-!
# DocPress.Proofs.Conversion.Documents

Which documents a conversion makes of a text. All of them are those of `renderHtml`, whatever became
of the backends before:

* `Course.of_mem_calls` — what a backend is called with;
* `Job.get?_emitted` — what is written where the HTML document is asked for;
* `convert_of_same_source` — the source is looked at for nothing but its text.
-/

namespace DocPress.Conversion

open DocPress.Backend DocPress.Document DocPress.FileSystem DocPress.Page DocPress.Program
open DocPress.Text

variable {m : Machine} {config : Config} {input output text : String} {p p' next : Progress}
variable {result : Except Failure ConversionReport} {report : ConversionReport} {call : Call}
variable {job : Job} {cs : List Candidate} {c : Candidate} {attempts : List AttemptRecord}
variable {record : AttemptRecord} {fs emitted : Files} {told : List Event}

/-! ## Calls -/

/-- A turn that is lost calls its own candidate at most, and with the document of the job. -/
theorem Loses.of_mem_calls (h : Loses job c p record next) (hcall : call ∈ next.calls) :
    call ∈ p.calls ∨ ∃ target, call = job.call c target := by
  cases h with
  | skipped => exact .inl (by rwa [Progress.calls_told] at hcall)
  | @failed location t e =>
    simp only [Progress.calls_told, Job.called, List.mem_append, List.mem_singleton] at hcall
    exact hcall.imp_right fun heq => ⟨_, heq⟩

/-- Each candidate that is called is called with the document of the job. The induction is on the
chain. -/
theorem Chain.of_mem_calls (h : Chain job cs attempts p result p') (hcall : call ∈ p'.calls) :
    call ∈ p.calls ∨ ∃ c ∈ cs, ∃ target, call = job.call c target := by
  induction h with
  | exhausted => exact .inl hcall
  | lost hloses hrest ih =>
    rcases ih hcall with hnext | ⟨c', hc', hcall⟩
    · exact (hloses.of_mem_calls hnext).imp_right fun hcall => ⟨_, List.mem_cons_self .., hcall⟩
    · exact .inr ⟨c', List.mem_cons_of_mem _ hc', hcall⟩
  | unstaged => exact .inl (by simpa using hcall)
  | unpersisted | succeeded =>
    simp only [Progress.calls_told, Job.called, List.mem_append, List.mem_singleton] at hcall
    exact hcall.imp_right fun heq => ⟨_, List.mem_cons_self .., _, heq⟩

/-- Every call is to a backend of the registry, with the document for its flavor. -/
theorem Course.of_mem_calls (h : Course m config input output p result p') (hnew : p.calls = [])
    (hread : readSource p.files input = .ok text) (hcall : call ∈ p'.calls) :
    ∃ b, (config.registry m)[call.position]? = some b ∧
      call.html = renderHtml text b.flavor config ∧ call.layout = config.layout := by
  have hready (job : Job) (fs : Files) : (job.ready p fs).calls = [] := by
    rw [Job.ready, Progress.calls_told, hnew]
  cases h with
  | missing | unread =>
    rw [hnew] at hcall
    cases hcall
  | unwritten =>
    rw [hready] at hcall
    cases hcall
  | tried _ hread' _ hchain =>
    rw [hread] at hread'
    cases hread'
    rcases hchain.of_mem_calls hcall with hbefore | ⟨c, hc, target, rfl⟩
    · rw [hready] at hbefore
      cases hbefore
    · obtain ⟨i, b, hb, rfl⟩ := mem_candidates_iff.1 hc
      exact ⟨b, hb, rfl, rfl⟩

/-! ## The HTML document -/

/-- Where the HTML document is asked for, it is written to one location. -/
theorem Job.get?_emitted (hemit : job.emitHtml.run.run fs = (.ok (), emitted)) (hfs : fs.Grounded)
    (hpath : job.config.emitHtml = some path) :
    ∃ l, job.WritesHtmlAt fs l ∧ emitted.get? l = some (.file job.html (fs.executableAt l)) := by
  rcases emitHtml_eq_ok hemit hfs with ⟨hnone, -⟩ |
    ⟨path', l, hpath', hwrites, -, -, hroot, rfl⟩
  · rw [hpath] at hnone
    cases hnone
  · exact ⟨l, hwrites, Files.get?_set_self _ hroot _⟩

/-! ## Sources -/

/-- A conversion looks at its source for nothing but the text. -/
theorem convert_of_same_source {input' : String}
    (h : readSource p.files input' = readSource p.files input) :
    (convert m config input' output).run.run p = (convert m config input output).run.run p := by
  rw [run_convert, run_convert, h]

/-! ## Sizes -/

/-- Each winner reports the same body. -/
theorem Chain.htmlBytes (h : Chain job cs attempts p result p') (hok : result = .ok report) :
    report.htmlBytes = job.body.html.utf8ByteSize := by
  induction h with
  | exhausted | unstaged | unpersisted => cases hok
  | lost _ _ ih => exact ih hok
  | succeeded =>
    cases hok
    rfl

/-- A report tells the size of the body. -/
theorem Course.htmlBytes (h : Course m config input output p result p')
    (hread : readSource p.files input = .ok text) (hok : result = .ok report) :
    report.htmlBytes = (Body.ofMarkdown config.anchors text).html.utf8ByteSize := by
  cases h with
  | missing | unread | unwritten => cases hok
  | tried _ hread' _ hchain =>
    rw [hread] at hread'
    cases hread'
    exact hchain.htmlBytes hok

/-- After the body is ready, nothing more is told of its size. -/
theorem Job.Told.not_htmlReady (h : job.Told cs fs result told) (bytes : Nat) :
    .htmlReady bytes ∉ told := by
  have hrecord (r : AttemptRecord) : .htmlReady bytes ∉ r.events job.output := by
    unfold AttemptRecord.events
    split <;> simp
  cases h with
  | unwritten => simp
  | @tried emitted records _ last hemit hlost hends =>
    generalize cs[records.length]? = c? at hends
    rw [List.mem_append, List.mem_flatMap]
    rintro (⟨r, -, hr⟩ | hlast)
    · exact hrecord r hr
    · cases hends <;> simp at hlast

/-! ## Conversions -/

/-- Every document that a conversion makes is that of `renderHtml` for its text, whatever became of
the backends before; and a byte-order mark makes no difference to anything. -/
theorem convert_documents (m : Machine) (config : Config) (input output : String) (fs : Files)
    (content : Bytes) (decoded : String) (hfs : fs.Grounded)
    (hcontent : fs.readFile input = .ok content) (hdecode : decode? content = some decoded) :
    let text := dropByteOrderMark decoded
    let bytes := (Body.ofMarkdown config.anchors text).html.utf8ByteSize
    let html := encode (renderHtml text .css config)
    let run := (convert m config input output).run.run ⟨fs, [], []⟩
    let atTurns (e : Failure) := (convertTelling (Run.stoppingAtTurns config.observer e) m config
      input output).run.run ⟨fs, [], []⟩
    -- The text is all that was decoded, but for one mark.
    (decoded = byteOrderMark ++ text ∨ ¬ BeginsWithMark decoded ∧ decoded = text) ∧
    -- Each backend that is called gets the document for its flavor, and the layout.
    (∀ call ∈ run.2.calls, ∃ b, (config.registry m)[call.position]? = some b ∧
      call.html = renderHtml text b.flavor config ∧ call.layout = config.layout) ∧
    -- The document that is written is there when the backends have their turns, and afterwards,
    -- too, if they keep to their files and the output does not take its place; or else it cannot
    -- be written, and they have none.
    (∀ path, config.emitHtml = some path → config.HasBackend m fs →
      (∃ l executable, (withParents path fs).writeLocation (Files.maxLinks + 1) fs.current path =
          .ok l ∧
        (∀ e, (atTurns e).1 = .error e ∧
          (atTurns e).2.files.get? l = some (.file html executable)) ∧
        ((∀ b ∈ config.registry m, b.Confined) →
          run.2.files.get? l = some (.file html executable) ∨ ∃ report, run.1 = .ok report ∧
            ((config.job output text).prepared fs).Names output l)) ∨
      (∃ cause, run.1 = .error (.outputWriteFailed path cause)) ∧ ∀ e, atTurns e = run) ∧
    -- The size is that of the body.
    (∀ report, run.1 = .ok report → report.htmlBytes = bytes) ∧
    (config.observer = some .recording → config.HasBackend m fs → ∃ told,
      run.2.events = .htmlReady bytes :: told ∧ ∀ n, .htmlReady n ∉ told) ∧
    -- With a mark in front of the source, the whole conversion is the same.
    (¬ BeginsWithMark decoded → ∀ marked,
      fs.readFile marked = .ok (encode byteOrderMark ++ content) →
      (convert m config marked output).run.run ⟨fs, [], []⟩ = run) := by
  intro text bytes html run atTurns
  have hread : readSource fs input = .ok text := readSource_of_readFile hcontent hdecode
  have hcourse := course_convert m config input output ⟨fs, [], []⟩
  refine ⟨eq_dropByteOrderMark decoded, fun call => hcourse.of_mem_calls rfl hread,
    fun path hpath hbackend => ?_, fun report => hcourse.htmlBytes hread,
    fun hrecording hbackend => ?_, fun hbegins marked hmarked => ?_⟩
  · have hrun := run_convert m config input output ⟨fs, [], []⟩
    have hatTurns (e : Failure) :=
      convert_stoppingAtTurns (p := ⟨fs, [], []⟩) output e hbackend hread
    rw [if_pos (isViable_iff.2 hbackend), hread] at hrun
    dsimp only at hrun hatTurns
    rcases hemit : (config.job output text).emitHtml.run.run fs with ⟨failure | _, emitted⟩ <;>
      rw [hemit] at hrun <;> simp only [hemit] at hatTurns
    · obtain ⟨path', cause, hpath', rfl⟩ := Job.failure_of_emitHtml hemit
      obtain rfl : path = path' := Option.some.inj (hpath.symm.trans hpath')
      exact .inr ⟨⟨cause, congrArg Prod.fst hrun⟩, fun e => (hatTurns e).trans hrun.symm⟩
    · obtain ⟨l, hwrites, hemitted⟩ := Job.get?_emitted hemit hfs hpath
      obtain ⟨-, path', hpath', hl⟩ := id hwrites
      obtain rfl : path = path' := Option.some.inj (hpath.symm.trans hpath')
      refine .inl ⟨l, fs.executableAt l, hl, fun e => ?_, fun hconfined => ?_⟩
      · rw [show atTurns e = _ from hatTurns e]
        exact ⟨rfl, hemitted⟩
      · have hprepared := (hcourse.files_eq_prepared hfs hconfined ⟨hbackend, hread⟩).2 l
        rwa [hwrites.get?_prepared hfs] at hprepared
  · obtain ⟨told, hevents, htold⟩ := hcourse.exists_told hrecording ⟨hbackend, hread⟩
    exact ⟨told, hevents, htold.not_htmlReady⟩
  · exact convert_of_same_source (readSource_of_mark hcontent hmarked hdecode hbegins)

/-- The source `# x`, five backends and an output that is the path of the HTML document, too: the
winner is called with the document of that text. -/
theorem convert_documents_winner :
    let config := Sample.config Sample.fiveScripts (some "b.pdf")
    let run := (convert Sample.machine config "a.md" "b.pdf").run.run
      ⟨Sample.files pdfMagic, [], []⟩
    (Sample.files pdfMagic).Grounded ∧
      (Sample.files pdfMagic).readFile "a.md" = .ok [35, 32, 120] ∧
      decode? [35, 32, 120] = some "# x" ∧
      ∃ call ∈ run.2.calls, call.html = renderHtml "# x" .css config := by
  intro config run
  have hfs := Sample.grounded pdfMagic
  have hconfined := Sample.confined_registry Sample.fiveScripts (some "b.pdf")
  have hcontent : (Sample.files pdfMagic).readFile "a.md" = .ok [35, 32, 120] :=
    Sample.readFile_files pdfMagic
  have hdecode : decode? [35, 32, 120] = some "# x" := by decide +kernel
  obtain ⟨-, hcalls, -⟩ := convert_documents Sample.machine config "a.md" "b.pdf" _ _ _ hfs
    hcontent hdecode
  obtain ⟨report, hok⟩ := Sample.exists_report (Sample.emitHtml_files pdfMagic _ "# x")
  obtain ⟨text, -, c, -, t, l, l', content, executable, hwon⟩ :=
    (course_convert Sample.machine config "a.md" "b.pdf" _).won_of_ok hfs hconfined hok
  have hcall := List.mem_of_getLast? hwon.call
  obtain ⟨b, hb, hhtml, -⟩ := hcalls _ hcall
  obtain ⟨s, -, rfl⟩ := List.mem_map.1 (List.mem_of_getElem? hb)
  exact ⟨hfs, hcontent, hdecode, _, hcall, hhtml⟩

end DocPress.Conversion
