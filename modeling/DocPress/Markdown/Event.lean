/-!
# DocPress.Markdown.Event

A Markdown document as the flat stream of what a reader meets in it, from top to bottom: the start
of a paragraph, some text, the end of the paragraph. Everything that is done with a document after
it has been read (headings, tables of contents, HTML) is a function on such a stream.
-/

namespace DocPress.Markdown

/-! ## What can be opened -/

/-- How a table column aligns its cells. -/
inductive Alignment where
  | unset
  | left
  | center
  | right
  deriving Repr, DecidableEq

/-- What the target of a link is: an address as written, or a mail address. -/
inductive LinkKind where
  | address
  | mail
  deriving Repr, DecidableEq

/-- A span of the document, with what is known of it when it opens. -/
inductive Tag where
  | paragraph
  | heading (level : Nat) (id : Option String)
  | quote
  /-- `info` is the text after the fence; an indented block has none. -/
  | codeBlock (info : Option String)
  | htmlBlock
  /-- `first` is the number of the first item; a bullet list has none. -/
  | list (first : Option Nat)
  | item
  | table (columns : List Alignment)
  | tableHead
  | tableRow
  | tableCell
  | emphasis
  | strong
  | link (kind : LinkKind) (target title : String)
  | image (target title : String)
  deriving Repr, DecidableEq

/-- The end of a span. -/
inductive TagEnd where
  | paragraph
  | heading (level : Nat)
  | quote
  | codeBlock
  | htmlBlock
  | list (numbered : Bool)
  | item
  | table
  | tableHead
  | tableRow
  | tableCell
  | emphasis
  | strong
  | link
  | image
  deriving Repr, DecidableEq

/-- The end that closes a span. -/
def Tag.close : Tag → TagEnd
  | .paragraph => .paragraph
  | .heading level _ => .heading level
  | .quote => .quote
  | .codeBlock _ => .codeBlock
  | .htmlBlock => .htmlBlock
  | .list first => .list first.isSome
  | .item => .item
  | .table _ => .table
  | .tableHead => .tableHead
  | .tableRow => .tableRow
  | .tableCell => .tableCell
  | .emphasis => .emphasis
  | .strong => .strong
  | .link .. => .link
  | .image .. => .image

/-! ## Events -/

/-- One step through a document. -/
inductive Event where
  | start (tag : Tag)
  | finish (tag : TagEnd)
  | text (content : String)
  | code (content : String)
  /-- Raw HTML that stands on lines of its own. -/
  | html (content : String)
  /-- Raw HTML inside a line. -/
  | inlineHtml (content : String)
  | softBreak
  | hardBreak
  | rule
  deriving Repr, DecidableEq

/-- The events of a span: its start, what is in it, its end. -/
def Event.span (tag : Tag) (inner : List Event) : List Event :=
  .start tag :: inner ++ [.finish tag.close]

end DocPress.Markdown
