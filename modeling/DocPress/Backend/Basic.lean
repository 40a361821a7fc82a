import DocPress.Backend.Capability
import DocPress.Backend.Error
import DocPress.FileSystem.Update
import DocPress.Page.Template
import DocPress.Text.Printable

/-!
# DocPress.Backend.Basic

Backends: what turns an HTML document into a PDF file. A backend can tell whether it is installed
without being run; it is run at most once for a document, and it may fail, or break off, after it
has written anything at all.
-/

namespace DocPress

open DocPress.FileSystem DocPress.Page DocPress.Text

namespace Backend

/-- Whether a backend can be used. -/
inductive Availability where
  /-- It can; it may have a location on disk. -/
  | installed (location : Option String)
  | missing (reason : String)
  deriving Repr, DecidableEq

/-- The backend can be used. -/
def Availability.isInstalled : Availability → Bool
  | .installed _ => true
  | .missing _ => false

/-- How the run of a backend ended. -/
inductive RenderOutcome where
  /-- It says that it has written the document. -/
  | rendered
  | failed (error : BackendError)
  /-- It broke off with a message. -/
  | panicked (message : String)
  deriving Repr, DecidableEq

end Backend

/-- Something that turns an HTML document into a PDF file. -/
structure Backend where
  name : String
  flavor : Flavor
  installHint : String
  /-- Tells whether the backend can be used. -/
  probe : Files → Backend.Availability
  /-- Renders a document into the file at a path. -/
  render : (html output : String) → Layout → StateM Files Backend.RenderOutcome

namespace Backend

/-- What a report says of a backend. -/
def status (b : Backend) (availability : Availability) : CapabilityStatus :=
  match availability with
  | .installed location => ⟨b.name, true, location, none, b.installHint⟩
  | .missing reason => ⟨b.name, false, none, some reason, b.installHint⟩

/-! ## Registries -/

/-- Backends in the order in which they are tried. -/
abbrev Registry := List Backend

namespace Registry

/-- The names of the backends. -/
def names (r : Registry) : List String :=
  r.map (·.name)

/-- The names of the backends as one text. -/
def describe (r : Registry) : String :=
  "[" ++ ", ".intercalate (r.names.map quoted) ++ "]"

/-- Each backend with its availability. -/
def probeAll (r : Registry) (fs : Files) : List (Backend × Availability) :=
  r.map fun b => (b, b.probe fs)

end Registry

/-- The name of the Markdown reader in reports. -/
def markdownCapability : String :=
  "markdown"

/-- What a report says of the Markdown reader: it is always there. -/
def markdownStatus : CapabilityStatus :=
  ⟨markdownCapability, true, none, some "pulldown-cmark (built in)", ""⟩

/-- The report on backends that have been probed. -/
def CapabilityReport.ofProbes (probes : List (Backend × Availability)) : CapabilityReport :=
  ⟨markdownStatus, probes.map fun (b, availability) => b.status availability⟩

end Backend

end DocPress
