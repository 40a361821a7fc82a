import DocPress.Backend.Capability
import DocPress.Backend.Program
import DocPress.Conversion.Report
import DocPress.Document.Body
import DocPress.Json.Format
import DocPress.Page.Layout

/-!
# DocPress.Conversion.Format

The JSON forms of layouts, errors and reports. Fields stand in the order of their declaration. A
choice without content is its name; an error is an object with its kind as the only field; the
outcome of an attempt carries its kind in the field `status`.
-/

namespace DocPress.Conversion.Format

open DocPress.Backend DocPress.Document DocPress.Json DocPress.Page

/-! ## Layouts -/

/-- The JSON form of a paper size. -/
def pageSize : Format PageSize :=
  .ofNames PageSize.all (·.name)

/-- The JSON form of an anchor mode. -/
def anchorMode : Format AnchorMode :=
  .ofNames AnchorMode.all (·.name)

/-- The JSON form of a choice of backends. -/
def backendChoice : Format BackendChoice :=
  .ofNames BackendChoice.all (·.name)

/-- The JSON form of margins. -/
def margins : Format Margins where
  reader := readRecord
    [required "top" readText, required "right" readText, required "bottom" readText,
     required "left" readText]
  toValue m := .object
    [("top", .string m.top), ("right", .string m.right), ("bottom", .string m.bottom),
     ("left", .string m.left)]
  ofValue?
    | .object [(_, .string top), (_, .string right), (_, .string bottom), (_, .string left)] =>
      some ⟨top, right, bottom, left⟩
    | _ => none

/-- The JSON form of a layout. -/
def layout : Format Layout where
  reader := readRecord
    [required "page_size" pageSize.reader, required "margins" margins.reader,
     required "encoding" readText, required "outline" readFlag]
  toValue l := .object
    [("page_size", pageSize.toValue l.pageSize), ("margins", margins.toValue l.margins),
     ("encoding", .string l.encoding), ("outline", .bool l.outline)]
  ofValue?
    | .object [(_, size), (_, edges), (_, .string encoding), (_, .bool outline)] => do
      some ⟨← pageSize.ofValue? size, ← margins.ofValue? edges, encoding, outline⟩
    | _ => none

/-! ## Errors -/

/-- The kinds of backend errors, each with its fields. -/
def errorKinds : List (String × List String) :=
  [("Unavailable", ["backend", "detail"]), ("Spawn", ["backend", "detail"]),
   ("Failed", ["backend", "status", "stderr"]), ("InvalidOutput", ["backend", "detail"]),
   ("Io", ["backend", "detail"])]

/-- The kind of an error. -/
def errorKind : BackendError → String
  | .unavailable .. => "Unavailable"
  | .spawn .. => "Spawn"
  | .failed .. => "Failed"
  | .invalidOutput .. => "InvalidOutput"
  | .io .. => "Io"

/-- The fields of an error. -/
def errorFields : BackendError → Value
  | .unavailable backend detail | .spawn backend detail | .invalidOutput backend detail
  | .io backend detail => .object [("backend", .string backend), ("detail", .string detail)]
  | .failed backend status stderr =>
    .object [("backend", .string backend), ("status", .string status), ("stderr", .string stderr)]

/-- The error of a kind with two fields. -/
def detailedError? (kind backend detail : String) : Option BackendError :=
  match kind with
  | "Unavailable" => some (.unavailable backend detail)
  | "Spawn" => some (.spawn backend detail)
  | "InvalidOutput" => some (.invalidOutput backend detail)
  | "Io" => some (.io backend detail)
  | _ => none

/-- The JSON form of a backend error. -/
def backendError : Format BackendError where
  reader := readVariant (errorKinds.map fun (kind, names) =>
    (kind, names.map (required · readText)))
  toValue e := .object [(errorKind e, errorFields e)]
  ofValue?
    | .object [(kind, .object [(_, .string backend), (_, .string detail)])] =>
      detailedError? kind backend detail
    | .object [("Failed", .object [(_, .string backend), (_, .string status),
        (_, .string stderr)])] => some (.failed backend status stderr)
    | _ => none

/-- Fits a backend error. -/
def fitError : Fit :=
  fitVariant (errorKinds.map fun (kind, names) => (kind, names.map (⟨·, false, fitText⟩)))

/-! ## Reports on conversions -/

/-- The kinds of outcomes, each with its fields. -/
def outcomeKinds : List (String × List FitField) :=
  [("skipped", [⟨"reason", false, fitText⟩]), ("failed", [⟨"error", false, fitError⟩]),
   ("succeeded", [⟨"duration_ms", false, fitNatural⟩])]

/-- The JSON form of an outcome. -/
def outcome : Format AttemptOutcome where
  reader := readTagged "status" outcomeKinds
  toValue
    | .skipped reason => .object [("status", .string "skipped"), ("reason", .string reason)]
    | .failed error =>
      .object [("status", .string "failed"), ("error", backendError.toValue error)]
    | .succeeded duration =>
      .object [("status", .string "succeeded"), ("duration_ms", .natural duration)]
  ofValue?
    | .object [(_, .string "skipped"), (_, .string reason)] => some (.skipped reason)
    | .object [(_, .string "failed"), (_, error)] => (backendError.ofValue? error).map .failed
    | .object [(_, .string "succeeded"), (_, .natural duration)] => some (.succeeded duration)
    | _ => none

/-- The JSON form of what became of one backend. -/
def attempt : Format AttemptRecord where
  reader := readRecord [required "backend" readText, required "outcome" outcome.reader]
  toValue r := .object [("backend", .string r.backend), ("outcome", outcome.toValue r.outcome)]
  ofValue?
    | .object [(_, .string backend), (_, value)] => do some ⟨backend, ← outcome.ofValue? value⟩
    | _ => none

/-- The JSON form of a report on a conversion. -/
def report : Format ConversionReport where
  reader := readRecord
    [required "backend" readText, required "output" readText, required "html_bytes" readNatural,
     required "pdf_bytes" readNatural, required "duration_ms" readNatural,
     required "attempts" (readList attempt.reader)]
  toValue r := .object
    [("backend", .string r.backend), ("output", .string r.output),
     ("html_bytes", .natural r.htmlBytes), ("pdf_bytes", .natural r.pdfBytes),
     ("duration_ms", .natural r.durationMs), ("attempts", .array (r.attempts.map attempt.toValue))]
  ofValue?
    | .object [(_, .string backend), (_, .string output), (_, .natural htmlBytes),
        (_, .natural pdfBytes), (_, .natural duration), (_, .array attempts)] => do
      some ⟨backend, output, htmlBytes, pdfBytes, duration, ← attempts.mapM attempt.ofValue?⟩
    | _ => none

/-! ## Reports on capabilities -/

/-- The JSON form of the state of a capability. -/
def status : Format CapabilityStatus where
  reader := readRecord
    [required "name" readText, required "available" readFlag,
     ⟨"location", true, readOptional readText⟩, ⟨"detail", true, readOptional readText⟩,
     required "install_hint" readText]
  toValue s := .object
    [("name", .string s.name), ("available", .bool s.available),
     ("location", optionalText s.location), ("detail", optionalText s.detail),
     ("install_hint", .string s.installHint)]
  ofValue?
    | .object [(_, .string name), (_, .bool available), (_, location), (_, detail),
        (_, .string installHint)] => do
      some ⟨name, available, ← optionalText? location, ← optionalText? detail, installHint⟩
    | _ => none

/-- The JSON form of a report on capabilities. -/
def capabilities : Format CapabilityReport where
  reader := readRecord
    [required "markdown" status.reader, required "backends" (readList status.reader)]
  toValue r := .object
    [("markdown", status.toValue r.markdown),
     ("backends", .array (r.backends.map status.toValue))]
  ofValue?
    | .object [(_, markdown), (_, .array backends)] => do
      some ⟨← status.ofValue? markdown, ← backends.mapM status.ofValue?⟩
    | _ => none

end DocPress.Conversion.Format
