import DocPress.Text.Blank
import DocPress.Markdown.Event

/-!
# DocPress.Document.Heading

The headings of a document, in document order, each with its level and its text.
-/

namespace DocPress.Document

open DocPress.Markdown

/-- A heading: its level from 1 to 6, its text without markup, and its id if it has one. -/
structure Heading where
  level : Nat
  text : String
  id : Option String
  deriving Repr, DecidableEq

/-- What an event adds to the text of a heading: text and code as they are, a space for a break. -/
def headingText : Event → String
  | .text content | .code content => content
  | .softBreak | .hardBreak => " "
  | _ => ""

/-- Collects the headings; `open?` holds the level and the text so far of the heading that is being
read. -/
def collectFrom (open? : Option (Nat × String)) : List Event → List Heading
  | [] => []
  | .start (.heading level _) :: rest => collectFrom (some (level, "")) rest
  | .finish (.heading _) :: rest =>
    match open? with
    | some (level, text) => ⟨level, Text.trim text, none⟩ :: collectFrom none rest
    | none => collectFrom none rest
  | e :: rest => collectFrom (open?.map fun (level, text) => (level, text ++ headingText e)) rest

/-- The headings of a document, without ids. -/
def collectHeadings (events : List Event) : List Heading :=
  collectFrom none events

end DocPress.Document
