import DocPress.Conversion.Format
import DocPress.Proofs.Json.Reads

/-!
# DocPress.Proofs.Conversion.Format

The written forms of layouts, errors and reports.

1. For each format, its reader reads back what its values are written as (`reads_*`).
2. For each format, the value that such a form stands for is the one it was written for
   (`ofValue?_*`).
3. Reports nest a few levels deep, and hold texts, truth values and natural numbers only
   (`plain_*`); so they can be read as values of any shape, too.
-/

namespace DocPress.Conversion

open DocPress.Backend DocPress.Document DocPress.Json DocPress.Page

variable {depth : Nat}

/-! ## Numbers of a report -/

/-- The duration is a number that is kept exactly. -/
def AttemptOutcome.InRange : AttemptOutcome → Prop
  | .succeeded duration => duration ≤ maxNatural
  | _ => True

/-- The numbers of the record are kept exactly. -/
def AttemptRecord.InRange (r : AttemptRecord) : Prop :=
  r.outcome.InRange

/-- The numbers of the report are kept exactly. -/
structure ConversionReport.InRange (r : ConversionReport) : Prop where
  htmlBytes : r.htmlBytes ≤ maxNatural
  pdfBytes : r.pdfBytes ≤ maxNatural
  durationMs : r.durationMs ≤ maxNatural
  attempts : ∀ a ∈ r.attempts, a.InRange

namespace Format

/-! ## Layouts -/

/-- A page size is read back from its name. -/
theorem reads_pageSize (size : PageSize) :
    Reads pageSize.reader depth (pageSize.toValue size) :=
  reads_choice (by cases size <;> decide)

@[simp] theorem ofValue?_pageSize (size : PageSize) :
    pageSize.ofValue? (pageSize.toValue size) = some size := by
  cases size <;> decide

/-- Margins are a record of four texts. -/
theorem reads_margins (m : Margins) : Reads margins.reader depth (margins.toValue m) :=
  reads_record
    [(required "top" readText, .string m.top), (required "right" readText, .string m.right),
     (required "bottom" readText, .string m.bottom), (required "left" readText, .string m.left)]
    (by simp [required]) (by simp [required, reads_text])

@[simp] theorem ofValue?_margins (m : Margins) :
    margins.ofValue? (margins.toValue m) = some m := rfl

/-- A layout is a record with another one for its margins. -/
theorem reads_layout (l : Layout) : Reads layout.reader depth (layout.toValue l) :=
  reads_record
    [(required "page_size" pageSize.reader, pageSize.toValue l.pageSize),
     (required "margins" margins.reader, margins.toValue l.margins),
     (required "encoding" readText, .string l.encoding),
     (required "outline" readFlag, .bool l.outline)]
    (by simp [required]) (by simp [required, reads_text, reads_flag, reads_pageSize, reads_margins])

@[simp] theorem ofValue?_layout (l : Layout) : layout.ofValue? (layout.toValue l) = some l := by
  simp [layout]

/-! ## Errors -/

/-- The content of an error that has a detail. -/
theorem reads_detailed (backend detail : String) :
    Reads (readRecord [required "backend" readText, required "detail" readText]) depth
      (.object [("backend", .string backend), ("detail", .string detail)]) :=
  reads_record
    [(required "backend" readText, .string backend), (required "detail" readText, .string detail)]
    (by simp [required]) (by simp [required, reads_text])

/-- The content of the error of a program that has failed. -/
theorem reads_failed (backend status stderr : String) :
    Reads (readRecord [required "backend" readText, required "status" readText,
        required "stderr" readText]) depth
      (.object [("backend", .string backend), ("status", .string status),
        ("stderr", .string stderr)]) :=
  reads_record
    [(required "backend" readText, .string backend), (required "status" readText, .string status),
     (required "stderr" readText, .string stderr)]
    (by simp [required]) (by simp [required, reads_text])

/-- An error is a variant with one of two kinds of content. -/
theorem reads_backendError (e : BackendError) :
    Reads backendError.reader depth (backendError.toValue e) := by
  cases e with
  | failed backend status stderr => exact reads_variant rfl (reads_failed backend status stderr)
  | unavailable backend detail | spawn backend detail | invalidOutput backend detail
  | io backend detail => exact reads_variant rfl (reads_detailed backend detail)

@[simp] theorem ofValue?_backendError (e : BackendError) :
    backendError.ofValue? (backendError.toValue e) = some e := by
  cases e <;> rfl

/-- An error that has been read already is in its form. -/
theorem fitError_backendError (e : BackendError) :
    fitError (backendError.toValue e) = some (backendError.toValue e) := by
  cases e <;> rfl

/-- An error nests two levels deep. -/
theorem plain_backendError (e : BackendError) : Plain 2 (backendError.toValue e) := by
  refine .object fun f hf => ?_
  rw [List.mem_singleton.1 hf]
  cases e <;> exact .object (by simp [Plain.string])

/-! ## Reports on conversions -/

/-- An outcome is a tagged record, so it is read as a value of any shape that then fits its case. -/
theorem reads_outcome {o : AttemptOutcome} (h : o.InRange) (hdepth : depth + 3 ≤ maxDepth) :
    Reads outcome.reader depth (outcome.toValue o) := by
  have hread {v : Value} (hv : Plain 2 v) : Reads readValue (depth + 1) v :=
    reads_plain hv (by omega)
  cases o with
  | skipped reason =>
    exact reads_tagged rfl rfl (by simp) (by simp [hread (.string 2 reason)])
  | failed error =>
    have hfit : fitRecord [⟨"error", false, fitError⟩]
        (.object [("error", backendError.toValue error)]) =
          some (.object [("error", backendError.toValue error)]) := by
      simp [fitRecord, fitFields, fitError_backendError]
    exact reads_tagged rfl hfit (by simp) (by simp [hread (plain_backendError error)])
  | succeeded duration =>
    exact reads_tagged rfl rfl (by simp) (by simp [hread (.natural 2 h)])

/-- An outcome nests one level deeper than its error. -/
theorem plain_outcome {o : AttemptOutcome} (h : o.InRange) : Plain 3 (outcome.toValue o) := by
  cases o with
  | skipped reason => exact .object (by simp [Plain.string])
  | failed error => exact .object (by simp [Plain.string, plain_backendError])
  | succeeded duration => exact .object (by simp [Plain.string, Plain.natural 2 h])

@[simp] theorem ofValue?_outcome (o : AttemptOutcome) :
    outcome.ofValue? (outcome.toValue o) = some o := by
  cases o <;> simp [outcome]

/-- A record of an attempt has its outcome as a field. -/
theorem reads_attempt {r : AttemptRecord} (h : r.InRange) (hdepth : depth + 4 ≤ maxDepth) :
    Reads attempt.reader depth (attempt.toValue r) :=
  have houtcome : Reads outcome.reader (depth + 1) (outcome.toValue r.outcome) :=
    reads_outcome h (by omega)
  reads_record
    [(required "backend" readText, .string r.backend),
     (required "outcome" outcome.reader, outcome.toValue r.outcome)]
    (by simp [required]) (by simp [required, reads_text, houtcome])

/-- An attempt nests one level deeper than its outcome. -/
theorem plain_attempt {r : AttemptRecord} (h : r.InRange) : Plain 4 (attempt.toValue r) :=
  .object (by simp [Plain.string, plain_outcome h])

@[simp] theorem ofValue?_attempt (r : AttemptRecord) :
    attempt.ofValue? (attempt.toValue r) = some r := by
  simp [attempt]

/-- The values of a list stand for what they were written for. -/
theorem mapM_ofValue? {α : Type} {f : Format α} (h : ∀ a, f.ofValue? (f.toValue a) = some a)
    (l : List α) : (l.map f.toValue).mapM f.ofValue? = some l := by
  induction l with
  | nil => rfl
  | cons a l ih => simp [h, ih]

/-- A report has a list of attempts as a field. -/
theorem reads_report {r : ConversionReport} (h : r.InRange) (hdepth : depth + 6 ≤ maxDepth) :
    Reads report.reader depth (report.toValue r) :=
  have hattempts : Reads (readList attempt.reader) (depth + 1)
      (.array (r.attempts.map attempt.toValue)) :=
    reads_list (List.forall_mem_map.2 fun a ha => reads_attempt (h.attempts a ha) (by omega))
  reads_record
    [(required "backend" readText, .string r.backend),
     (required "output" readText, .string r.output),
     (required "html_bytes" readNatural, .natural r.htmlBytes),
     (required "pdf_bytes" readNatural, .natural r.pdfBytes),
     (required "duration_ms" readNatural, .natural r.durationMs),
     (required "attempts" (readList attempt.reader), .array (r.attempts.map attempt.toValue))]
    (by simp [required])
    (by simp [required, reads_text, reads_natural, h.htmlBytes, h.pdfBytes, h.durationMs, hattempts])

/-- A report nests six levels deep, far from the limit. -/
theorem plain_report {r : ConversionReport} (h : r.InRange) : Plain 6 (report.toValue r) :=
  have hattempts : Plain 5 (.array (r.attempts.map attempt.toValue)) :=
    .array (List.forall_mem_map.2 fun a ha => plain_attempt (h.attempts a ha))
  .object (by
    simp [Plain.string, Plain.natural 5 h.htmlBytes, Plain.natural 5 h.pdfBytes,
      Plain.natural 5 h.durationMs, hattempts])

@[simp] theorem ofValue?_report (r : ConversionReport) :
    report.ofValue? (report.toValue r) = some r := by
  simp [report, mapM_ofValue? ofValue?_attempt]

/-! ## Reports on capabilities -/

/-- The status of a capability is a record with two texts that may be null. -/
theorem reads_status (s : CapabilityStatus) : Reads status.reader depth (status.toValue s) :=
  reads_record
    [(required "name" readText, .string s.name), (required "available" readFlag, .bool s.available),
     (⟨"location", true, readOptional readText⟩, optionalText s.location),
     (⟨"detail", true, readOptional readText⟩, optionalText s.detail),
     (required "install_hint" readText, .string s.installHint)]
    (by simp [required]) (by simp [required, reads_text, reads_flag, reads_optionalText])

/-- Neither a text nor null nests. -/
theorem plain_optionalText (n : Nat) (text : Option String) : Plain n (optionalText text) := by
  cases text with
  | none => exact .null n
  | some text => exact .string n text

/-- A status nests one level deep. -/
theorem plain_status (s : CapabilityStatus) : Plain 1 (status.toValue s) :=
  .object (by simp [Plain.string, Plain.bool, plain_optionalText])

/-- Null is the one value that stands for no text. -/
@[simp] theorem optionalText?_optionalText (text : Option String) :
    optionalText? (optionalText text) = some text := by
  cases text <;> rfl

@[simp] theorem ofValue?_status (s : CapabilityStatus) :
    status.ofValue? (status.toValue s) = some s := by
  simp [status]

/-- A report on capabilities has a list of them as a field. -/
theorem reads_capabilities (r : CapabilityReport) :
    Reads capabilities.reader depth (capabilities.toValue r) :=
  have hbackends : Reads (readList status.reader) (depth + 1)
      (.array (r.backends.map status.toValue)) :=
    reads_list (List.forall_mem_map.2 fun s _ => reads_status s)
  reads_record
    [(required "markdown" status.reader, status.toValue r.markdown),
     (required "backends" (readList status.reader), .array (r.backends.map status.toValue))]
    (by simp [required]) (by simp [required, reads_status, hbackends])

/-- A report on capabilities nests three levels deep. -/
theorem plain_capabilities (r : CapabilityReport) : Plain 3 (capabilities.toValue r) :=
  have hmarkdown : Plain 2 (status.toValue r.markdown) := (plain_status r.markdown).succ
  have hbackends : Plain 2 (.array (r.backends.map status.toValue)) :=
    .array (List.forall_mem_map.2 fun s _ => plain_status s)
  .object (by simp [hmarkdown, hbackends])

@[simp] theorem ofValue?_capabilities (r : CapabilityReport) :
    capabilities.ofValue? (capabilities.toValue r) = some r := by
  simp [capabilities, mapM_ofValue? ofValue?_status]

end Format

end DocPress.Conversion
