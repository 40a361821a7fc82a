import DocPress.Markdown.Html
import DocPress.Markdown.Reader
import DocPress.Document.Contents
import DocPress.Document.Slug

/-!
# DocPress.Document.Body

The body of a document: its HTML, with the ids and tables of contents that its anchor mode asks for,
and its headings.
-/

namespace DocPress.Document

open DocPress.Markdown

/-- Whether headings get ids. -/
inductive AnchorMode where
  /-- If there is a table of contents to link to them. -/
  | auto
  | always
  | never
  deriving Repr, DecidableEq

/-- The name of a mode. -/
def AnchorMode.name : AnchorMode → String
  | .auto => "Auto"
  | .always => "Always"
  | .never => "Never"

/-- All modes. -/
def AnchorMode.all : List AnchorMode :=
  [.auto, .always, .never]

/-- Headings get ids in a document with or without a table of contents. -/
def AnchorMode.withIds : AnchorMode → Bool → Bool
  | .auto, hasToc => hasToc
  | .always, _ => true
  | .never, _ => false

/-- A document as HTML, with its headings. -/
structure Body where
  html : String
  headings : List Heading
  deriving Repr

/-- The text of the first heading of level 1. -/
def Body.firstTitle? (b : Body) : Option String :=
  (b.headings.find? (·.level == 1)).map (·.text)

/-- Headings with ids, all different. -/
def withSlugs (headings : List Heading) : List Heading :=
  (headings.zip (assignSlugs [] (headings.map (·.text)))).map fun (h, slug) =>
    { h with id := some slug }

/-- The headings of a document as its anchor mode has them. -/
def headingsOf (mode : AnchorMode) (events : List Event) : List Heading :=
  let headings := collectHeadings events
  if mode.withIds (hasToc events) then withSlugs headings else headings

/-- The events of a document with the ids and tables of contents that its anchor mode asks for. -/
def outlined (mode : AnchorMode) (events : List Event) : List Event :=
  let headings := headingsOf mode events
  placeContents (renderToc headings) (headings.map (·.id)) events

/-- The body of a document that is given by its events. -/
def Body.ofEvents (mode : AnchorMode) (events : List Event) : Body :=
  ⟨writeHtml (outlined mode events), headingsOf mode events⟩

/-- The body of a document that is given by its text. -/
def Body.ofMarkdown (mode : AnchorMode) (text : String) : Body :=
  .ofEvents mode (readEvents text)

end DocPress.Document
