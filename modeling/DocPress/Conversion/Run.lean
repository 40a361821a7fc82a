import DocPress.Conversion.Config
import DocPress.Conversion.Files
import DocPress.Conversion.Report

/-!
# DocPress.Conversion.Run

The way from a Markdown file to a PDF file:

1. It is checked that some backend is there, before anything is read.
2. The source is read and made into HTML.
3. The HTML document is written where the configuration asks for it.
4. The backends have their turns. Each one that is there renders into a staging file of its own;
   the first whose file is a PDF file wins, and its file takes the place of the output. One that
   fails, breaks off, or leaves anything else costs no more than its turn.

A run also holds what its observer is told, and which calls backends got. It has no clock:
durations are 0. How each step is told is a parameter, `tell`: an observer does no more than keep
what it is told, but another way of telling may look at the files as they are then, or break off.
-/

namespace DocPress.Conversion

open DocPress.Backend DocPress.Document DocPress.FileSystem DocPress.Page DocPress.Program

/-! ## Runs -/

/-- What an observer is told. -/
inductive Event where
  /-- The body is there, with its size. -/
  | htmlReady (bytes : Nat)
  | skipped (backend reason : String)
  | started (backend : String)
  | failed (backend message : String)
  | succeeded (backend output : String)
  deriving Repr, DecidableEq

/-- One call of a backend to render. -/
structure Call where
  /-- Which one of the backends was called. -/
  position : Nat
  html : String
  /-- Where the backend was to write. -/
  target : String
  layout : Layout
  deriving Repr, DecidableEq

/-- How far a conversion has come. -/
structure Progress where
  files : Files
  events : List Event
  calls : List Call

/-- A part of a conversion. -/
abbrev Run (α : Type) := ExceptT Failure (StateM Progress) α

namespace Run

/-- Does something to the files. -/
def onFiles (action : Action Failure α) : Run α := do
  let progress ← get
  let (answer, files) := action.run.run progress.files
  set { progress with files }
  match answer with
  | .ok a => return a
  | .error e => throw e

/-- Tells the observer something, if there is one that keeps it. -/
def emit (observer : Option Observer) (event : Event) : Run Unit :=
  if observer = some .recording then modify fun p => { p with events := p.events ++ [event] }
  else return

end Run

/-! ## Documents -/

/-- The HTML document for a body. -/
def documentFor (body : Body) (flavor : Flavor) (config : Config) : String :=
  wrapDocument body.html flavor config.layout (config.title <|> body.firstTitle?)

/-- The HTML document for a Markdown text. -/
def renderHtml (markdown : String) (flavor : Flavor) (config : Config) : String :=
  documentFor (.ofMarkdown config.anchors markdown) flavor config

/-! ## Attempts -/

/-- What all attempts of a conversion share. -/
structure Job where
  config : Config
  body : Body
  output : String

/-- A backend with its place among the others, and what it was found to be. -/
structure Candidate where
  position : Nat
  backend : Backend
  availability : Availability

/-- The candidates of a conversion. -/
def candidatesOf (probes : List (Backend × Availability)) : List Candidate :=
  probes.zipIdx.map fun ((backend, availability), position) => ⟨position, backend, availability⟩

/-- The error of a backend that broke off. In its text `#` stands for the number of the task that
broke off, which differs from run to run. -/
def panicError (backend message : String) : BackendError :=
  .failed backend "panicked" ("task # panicked with message " ++ Text.quoted message)

/-- Has a backend render into a file, and checks what it wrote; gives the size of that. -/
def renderInto (job : Job) (c : Candidate) (target : String) :
    Run (Except BackendError Nat) := do
  let html := documentFor job.body c.backend.flavor job.config
  let layout := job.config.layout
  modify fun p => { p with calls := p.calls ++ [⟨c.position, html, target, layout⟩] }
  let outcome ← Run.onFiles (liftM (c.backend.render html target layout))
  match outcome with
  | .failed e => return .error e
  | .panicked message => return .error (panicError c.backend.name message)
  | .rendered => return validatePdf (← get).files target c.backend.name

/-- Gives each candidate its turn until one has succeeded. The last two arguments hold what became
of the backends before: the records for a report, and the errors for the failure if none succeeds. A
staging file is given up only when it has been told of the failure. -/
def tryCandidatesTelling (tell : Event → Run Unit) (job : Job) :
    List Candidate → List AttemptRecord → List BackendError → Run ConversionReport
  | [], _, failures => throw (.allBackendsExhausted failures)
  | c :: rest, attempts, failures => do
    let name := c.backend.name
    match c.availability with
    | .missing reason =>
      tell (.skipped name reason)
      tryCandidatesTelling tell job rest (attempts ++ [⟨name, .skipped reason⟩])
        (failures ++ [.unavailable name reason])
    | .installed _ =>
      tell (.started name)
      let staged ← Run.onFiles (stage job.output)
      match ← renderInto job c staged.path with
      | .ok pdfBytes =>
        Run.onFiles staged.persist
        tell (.succeeded name job.output)
        return {
          backend := name
          output := job.output
          htmlBytes := job.body.html.utf8ByteSize
          pdfBytes
          durationMs := 0
          attempts := attempts ++ [⟨name, .succeeded 0⟩] }
      | .error e =>
        tell (.failed name e.message)
        Run.onFiles staged.discard
        tryCandidatesTelling tell job rest (attempts ++ [⟨name, .failed e⟩]) (failures ++ [e])

/-- Gives the candidates their turns; the observer of the job is told of them. -/
def tryCandidates (job : Job) :
    List Candidate → List AttemptRecord → List BackendError → Run ConversionReport :=
  tryCandidatesTelling (Run.emit job.config.observer) job

/-! ## Conversions -/

/-- What a conversion with this configuration would find of all that it needs. -/
def checkCapabilities (m : Machine) (config : Config) (fs : Files) : CapabilityReport :=
  .ofProbes ((config.registry m).probeAll fs)

/-- Converts the Markdown file at `input` into a PDF file at `output`; tells of each step. -/
def convertTelling (tell : Event → Run Unit) (m : Machine) (config : Config)
    (input output : String) : Run ConversionReport := do
  let probes := (config.registry m).probeAll (← get).files
  let capabilities := CapabilityReport.ofProbes probes
  if !capabilities.isViable then
    throw (.missingCapability capabilities.missing capabilities.installGuidance)
  let text ← Run.onFiles (Action.ask (readSource · input))
  let body := Body.ofMarkdown config.anchors text
  tell (.htmlReady body.html.utf8ByteSize)
  if let some path := config.emitHtml then
    Run.onFiles (writeHtml path (documentFor body .css config))
  tryCandidatesTelling tell ⟨config, body, output⟩ (candidatesOf probes) [] []

/-- Converts the Markdown file at `input` into a PDF file at `output`; the observer of the
configuration is told of each step. -/
def convert (m : Machine) (config : Config) (input output : String) : Run ConversionReport :=
  convertTelling (Run.emit config.observer) m config input output

/-- The path of the output if none is given: that of the input with another extension. -/
def defaultOutput (input : String) : String :=
  withExtension "pdf" input

end DocPress.Conversion
