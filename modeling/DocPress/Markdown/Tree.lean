import DocPress.Markdown.Event
import DocPress.Markdown.Cursor

/-!
# DocPress.Markdown.Tree

A document as trees, before it becomes events.

1. The blocks: what stands below what, before anything is said of the text inside. Running text is
   kept as it is written, with the markers of its enclosing blocks still at the start of every line
   but the first; which markers those are is kept with it.
2. What a line of running text is made of: plain text, code, raw HTML, breaks, and spans of emphasis,
   links and images that hold more of the same.
-/

namespace DocPress.Markdown

/-! ## Blocks -/

/-- The text of a paragraph, a heading or a table cell. -/
structure Prose where
  /-- What each later line begins with. -/
  markers : List Marker
  /-- The text is a cell of a table. -/
  inTable : Bool
  text : List Char
  deriving Repr

/-- A block of a document. -/
inductive Block where
  | paragraph (text : Prose)
  | heading (level : Nat) (text : Prose)
  | quote (inner : List Block)
  /-- In a tight list the paragraphs of the items are not marked as such. -/
  | list (first : Option Nat) (tight : Bool) (items : List (List Block))
  /-- `info` is the text after the fence; an indented block has none. -/
  | code (info : Option String) (lines : List String)
  /-- `indent` spaces stand before the first line. -/
  | html (lines : List (Nat × String))
  | table (columns : List Alignment) (head : List Prose) (rows : List (List Prose))
  | rule

/-! ## Running text -/

/-- A piece of running text. -/
inductive Inline where
  | text (content : String)
  | code (content : String)
  | html (content : String)
  | softBreak
  | hardBreak
  | emphasis (inner : List Inline)
  | strong (inner : List Inline)
  | link (kind : LinkKind) (target title : String) (inner : List Inline)
  | image (target title : String) (inner : List Inline)

mutual

/-- The events of a piece of running text. -/
def Inline.events : Inline → List Event
  | .text content => [.text content]
  | .code content => [.code content]
  | .html content => [.inlineHtml content]
  | .softBreak => [.softBreak]
  | .hardBreak => [.hardBreak]
  | .emphasis inner => Event.span .emphasis (Inline.eventsAll inner)
  | .strong inner => Event.span .strong (Inline.eventsAll inner)
  | .link kind target title inner => Event.span (.link kind target title) (Inline.eventsAll inner)
  | .image target title inner => Event.span (.image target title) (Inline.eventsAll inner)

/-- The events of running text. -/
def Inline.eventsAll : List Inline → List Event
  | [] => []
  | piece :: rest => piece.events ++ Inline.eventsAll rest

end

end DocPress.Markdown
