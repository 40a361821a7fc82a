import DocPress.Backend.Program
import DocPress.Conversion.Failure
import DocPress.Document.Body

/-!
# DocPress.Conversion.Config

What a conversion is told: layout, anchors, title, backends, and what else to write. A configuration
is made from the standard one by settings, each of which replaces what was set before; it is good
for use once its margins are lengths and there is a backend to try.
-/

namespace DocPress.Conversion

open DocPress.Backend DocPress.Document DocPress.Page DocPress.Program DocPress.Text

/-- Who is told how a conversion goes. -/
inductive Observer where
  /-- Nothing is kept of what it is told. -/
  | silent
  | recording
  deriving Repr, DecidableEq

/-- What a conversion is told. -/
structure Config where
  layout : Layout
  anchors : AnchorMode
  /-- The title of the document, in place of its first heading. -/
  title : Option String
  choice : BackendChoice
  /-- The backends, in place of those that `choice` stands for. -/
  backends : Option Registry
  /-- Where the HTML document is to be written, too. -/
  emitHtml : Option String
  observer : Option Observer

namespace Config

/-- The configuration of a conversion that is told nothing. -/
def standard : Config :=
  ⟨.standard, .auto, none, .auto, none, none, none⟩

/-- The backends that a configuration stands for. -/
def registry (c : Config) (m : Machine) : Registry :=
  c.backends.getD (.ofChoice m c.choice)

/-! ## Settings -/

/-- One thing that a configuration is told. -/
inductive Setting where
  | pageSize (size : PageSize)
  /-- The margin of all edges. -/
  | margin (margin : String)
  | margins (margins : Margins)
  | outline (on : Bool)
  | anchors (mode : AnchorMode)
  | title (title : String)
  | choice (choice : BackendChoice)
  | backends (registry : Registry)
  | emitHtml (path : String)
  | observer (observer : Observer)

/-- The configuration after a setting. -/
def apply (c : Config) : Setting → Config
  | .pageSize size => { c with layout.pageSize := size }
  | .margin margin => { c with layout.margins := .uniform margin }
  | .margins margins => { c with layout.margins := margins }
  | .outline on => { c with layout.outline := on }
  | .anchors mode => { c with anchors := mode }
  | .title title => { c with title := some title }
  | .choice choice => { c with choice := choice }
  | .backends registry => { c with backends := some registry }
  | .emitHtml path => { c with emitHtml := some path }
  | .observer observer => { c with observer := some observer }

/-- What is wrong with a configuration: its first margin that is no length, or else that there is no
backend to try. -/
def fault? (c : Config) : Option String :=
  match c.layout.margins.firstFault? with
  | some (edge, margin) =>
    some (edge ++ " margin must be a length like 2.5cm, 20mm or 1in, got '" ++ margin ++ "'")
  | none =>
    match c.backends with
    | some [] => some "Backend registry must contain at least one backend"
    | _ => none

/-- The configuration itself, if it is good for use. -/
def validate (c : Config) : Except Failure Config :=
  match c.fault? with
  | some fault => .error (.invalidConfig fault)
  | none => .ok c

/-- The configuration that settings make of the standard one, in their order. -/
def ofSettings (settings : List Setting) : Except Failure Config :=
  (settings.foldl apply standard).validate

/-! ## Description -/

/-- A value that may be absent, for a reader. -/
def describeOption : Option String → String
  | some value => "Some(" ++ value ++ ")"
  | none => "None"

/-- A value with named parts, for a reader. -/
def describeParts (name : String) (parts : List (String × String)) : String :=
  name ++ " \x7b " ++
    ", ".intercalate (parts.map fun (name, value) => name ++ ": " ++ value) ++ " \x7d"

/-- Margins for a reader. -/
def describeMargins (m : Margins) : String :=
  describeParts "Margins" (m.edges.map fun (edge, margin) => (edge, quoted margin))

/-- A layout for a reader. -/
def describeLayout (l : Layout) : String :=
  describeParts "PageLayout"
    [("page_size", l.pageSize.name), ("margins", describeMargins l.margins),
     ("encoding", quoted l.encoding), ("outline", toString l.outline)]

/-- A configuration for a reader. -/
def describe (c : Config) : String :=
  describeParts "ConversionConfig"
    [("layout", describeLayout c.layout), ("anchors", c.anchors.name),
     ("title", describeOption (c.title.map quoted)), ("backend", c.choice.name),
     ("backends", describeOption (c.backends.map Registry.describe)),
     ("emit_html", describeOption (c.emitHtml.map quoted)),
     ("progress_callback",
       describeOption (c.observer.map fun _ => quoted "<dyn RenderProgressCallback>"))]

end Config

/-! ## Defaults -/

/-- The document that is converted if none is named. -/
def defaultInput : String :=
  "docs/Proposta_Arquitetura_TOTVS_HubIntegracao.md"

end DocPress.Conversion
