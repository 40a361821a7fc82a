import DocPress.Text.Blank

/-!
# DocPress.Backend.Capability

What a conversion needs, and whether it is there: the Markdown reader, and one of the backends.

A report names as missing what stands in the way, and tells how to install exactly that. Of the
backends any single one is enough, so they are missing together or not at all.
-/

namespace DocPress.Backend

open DocPress.Text

/-- One thing that a conversion needs. -/
structure CapabilityStatus where
  name : String
  available : Bool
  /-- Where it is, if it lies on disk. -/
  location : Option String
  /-- What it is, or why it is not available. -/
  detail : Option String
  /-- How to install it. -/
  installHint : String
  deriving Repr, DecidableEq

/-- All that a conversion needs. -/
structure CapabilityReport where
  markdown : CapabilityStatus
  /-- The backends, in the order in which they are tried. -/
  backends : List CapabilityStatus
  deriving Repr, DecidableEq

namespace CapabilityReport

/-- One of the backends is there. -/
def hasBackend (r : CapabilityReport) : Bool :=
  r.backends.any (·.available)

/-- All that a conversion needs is there. -/
def isViable (r : CapabilityReport) : Bool :=
  r.markdown.available && r.hasBackend

/-- The names of what stands in the way. -/
def missing (r : CapabilityReport) : List String :=
  (if r.markdown.available then [] else [r.markdown.name]) ++
    (if r.hasBackend then [] else r.backends.map (·.name))

/-- How to install one thing, each line indented. -/
def indentedHint (status : CapabilityStatus) : String :=
  String.join ((textLines status.installHint).map fun line => "  " ++ line ++ "\n")

/-- How to install what stands in the way; empty if nothing does. -/
def installGuidance (r : CapabilityReport) : String :=
  if r.missing.isEmpty then ""
  else
    let named := (r.markdown :: r.backends).filter fun status => r.missing.contains status.name
    "To install:\n" ++ "  # or\n".intercalate (named.map indentedHint)

end CapabilityReport

end DocPress.Backend
