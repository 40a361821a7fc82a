import DocPress.Text.Escape
import DocPress.Markdown.Event

/-!
# DocPress.Markdown.Html

Writing a stream of events as HTML.

1. Most blocks begin on a new line; a line feed is written before them where the last thing written
   did not end with one. Tables and list ends do not look.
2. Text is escaped, addresses are percent-encoded, raw HTML is taken over as it is.
3. The text of an image goes into its attribute without any tags.
-/

namespace DocPress.Markdown

open DocPress.Text

/-- What has been written, and what the next event has to know of it. -/
structure HtmlWriter where
  out : String
  /-- The next thing stands on a new line. -/
  fresh : Bool
  /-- The alignments of the columns of the table. -/
  columns : List Alignment
  /-- The head of the table is being written. -/
  inHead : Bool
  /-- The column of the next cell. -/
  column : Nat
  /-- The title of the image whose text is being written, and the number of spans open in it. -/
  image : Option (String × Nat)

namespace HtmlWriter

/-- Nothing has been written. -/
def empty : HtmlWriter :=
  ⟨"", true, [], false, 0, none⟩

/-- Writes a piece of HTML. -/
def write (html : String) (w : HtmlWriter) : HtmlWriter :=
  { w with
    out := w.out ++ html
    fresh := if html.isEmpty then w.fresh else html.toList.getLast? == some '\n' }

/-- Writes a piece of HTML on a new line. -/
def writeFresh (html : String) (w : HtmlWriter) : HtmlWriter :=
  w.write (if w.fresh then html else "\n" ++ html)

/-- Writes text that has been escaped; even if it is empty, a line has begun with it. -/
def writeText (escaped : String) (w : HtmlWriter) : HtmlWriter :=
  { w with out := w.out ++ escaped, fresh := escaped.toList.getLast? == some '\n' }

/-- The title attribute with the quote that closes the attribute before it. -/
def titleText (title : String) : String :=
  if title.isEmpty then "" else "\" title=\"" ++ escapeAttribute title

/-- The attribute that aligns a cell. -/
def alignText : Option Alignment → String
  | some .left => " style=\"text-align: left\""
  | some .center => " style=\"text-align: center\""
  | some .right => " style=\"text-align: right\""
  | _ => ""

/-- The opening of a code block. Its language is the first word of the text after the fence. -/
def codeStart (info : Option String) : String :=
  let language := (info.getD "").toList.takeWhile (· != ' ')
  if language.isEmpty then "<pre><code>"
  else "<pre><code class=\"language-" ++ escapeAttribute (String.ofList language) ++ "\">"

/-- Writes the start of a span. -/
def start (w : HtmlWriter) : Tag → HtmlWriter
  | .paragraph => w.writeFresh "<p>"
  | .heading level none => w.writeFresh s!"<h{level}>"
  | .heading level (some id) => w.writeFresh s!"<h{level} id=\"{escapeAttribute id}\">"
  | .quote => w.writeFresh "<blockquote>\n"
  | .codeBlock info => w.writeFresh (codeStart info)
  | .htmlBlock => w
  | .list none => w.writeFresh "<ul>\n"
  | .list (some 1) => w.writeFresh "<ol>\n"
  | .list (some first) => w.writeFresh s!"<ol start=\"{first}\">\n"
  | .item => w.writeFresh "<li>"
  | .table columns => { w with columns := columns }.write "<table>"
  | .tableHead => { w with inHead := true, column := 0 }.write "<thead><tr>"
  | .tableRow => { w with column := 0 }.write "<tr>"
  | .tableCell =>
    w.write ((if w.inHead then "<th" else "<td") ++ alignText w.columns[w.column]? ++ ">")
  | .emphasis => w.write "<em>"
  | .strong => w.write "<strong>"
  | .link kind target title =>
    w.write ((match kind with
      | .address => "<a href=\""
      | .mail => "<a href=\"mailto:") ++ percentEncode target ++ titleText title ++ "\">")
  | .image target title =>
    { w with image := some (title, 0) }.write ("<img src=\"" ++ percentEncode target ++ "\" alt=\"")

/-- Writes the end of a span. -/
def finish (w : HtmlWriter) : TagEnd → HtmlWriter
  | .paragraph => w.write "</p>\n"
  | .heading level => w.write s!"</h{level}>\n"
  | .quote => w.write "</blockquote>\n"
  | .codeBlock => w.write "</code></pre>\n"
  | .htmlBlock => w
  | .list true => w.write "</ol>\n"
  | .list false => w.write "</ul>\n"
  | .item => w.write "</li>\n"
  | .table => w.write "</tbody></table>\n"
  | .tableHead => { w.write "</tr></thead><tbody>\n" with inHead := false }
  | .tableRow => w.write "</tr>\n"
  | .tableCell =>
    { w.write (if w.inHead then "</th>" else "</td>") with column := w.column + 1 }
  | .emphasis => w.write "</em>"
  | .strong => w.write "</strong>"
  | .link => w.write "</a>"
  | .image => w

/-- Ends the text of an image. -/
def endImage (title : String) (w : HtmlWriter) : HtmlWriter :=
  { w with image := none }.write (titleText title ++ "\" />")

/-- Writes an event inside an image. -/
def readImage (w : HtmlWriter) (title : String) (depth : Nat) : Event → HtmlWriter
  | .start _ => { w with image := some (title, depth + 1) }
  | .finish _ =>
    match depth with
    | 0 => w.endImage title
    | depth + 1 => { w with image := some (title, depth) }
  | .text content | .code content | .inlineHtml content => w.writeText (escapeAttribute content)
  | .html _ => w
  | .softBreak | .hardBreak | .rule => w.write " "

/-- Writes an event. -/
def read (w : HtmlWriter) (e : Event) : HtmlWriter :=
  match w.image with
  | some (title, depth) => w.readImage title depth e
  | none =>
    match e with
    | .start tag => w.start tag
    | .finish tag => w.finish tag
    | .text content => w.writeText (escapeBody content)
    | .code content => w.write ("<code>" ++ escapeBody content ++ "</code>")
    | .html content | .inlineHtml content => w.write content
    | .softBreak => w.write "\n"
    | .hardBreak => w.write "<br />\n"
    | .rule => w.writeFresh "<hr />\n"

/-- All that has been written. -/
def toHtml (w : HtmlWriter) : String :=
  match w.image with
  | some (title, _) => (w.endImage title).out
  | none => w.out

end HtmlWriter

/-- A document as HTML. -/
def writeHtml (events : List Event) : String :=
  (events.foldl HtmlWriter.read .empty).toHtml

end DocPress.Markdown
