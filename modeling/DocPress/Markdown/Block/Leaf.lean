import DocPress.Markdown.Tree
import DocPress.Markdown.Reference

/-!
# DocPress.Markdown.Block.Leaf

Blocks that hold text and no other blocks. Each reader begins behind the markers of the enclosing
blocks on the first line of its block, is given those markers, and gives back the lines it has taken
with the text after them.

1. A code block or an HTML block ends at the latest where a line lacks a marker.
2. A paragraph may go on without its markers, as long as the line begins nothing of its own.
3. A table row stands in all markers.
-/

namespace DocPress.Markdown

open DocPress.Text

/-! ## Verbatim lines -/

/-- Writes the line end of a verbatim line as a line feed: a carriage return before the last
character is dropped. -/
def normalLineEnd (line : List Char) : List Char :=
  match line.reverse with
  | last :: '\r' :: before => if last.toNat < 128 then (last :: before).reverse else line
  | _ => line

/-- A verbatim line behind `owed` columns of a tab that was used up in part. -/
def verbatim (owed : Nat) (line : List Char) : String :=
  String.ofList (List.replicate owed ' ' ++ normalLineEnd line)

/-! ## Indented code -/

/-- The lines of an indented code block, each with the sign whether it is blank, and the text after
the last. The first argument bounds the number of lines. -/
def indentedLines (markers : List Marker) :
    Nat → Bool → Cursor → List (Bool × String) × List Char
  | 0, _, c => ([], c.rest)
  | fuel + 1, blank, c =>
    let (line, next) := splitAfterLineFeed c.rest
    let taken := (blank, verbatim c.owed line)
    let (n, after) := passMarkers markers (.ofLine next)
    let (lack, after) := after.lacking 4
    if n < markers.length || !(lack == 0 || after.atLineEnd) || after.rest.isEmpty then
      ([taken], next)
    else
      let (more, rest) := indentedLines markers fuel (blankLine? after.rest).isSome after
      (taken :: more, rest)

/-- An indented code block behind its four columns, without the blank lines at its end; whether
there were such lines; and the text after the last line. -/
def indentedCode (markers : List Marker) (c : Cursor) : Block × Bool × List Char :=
  let (lines, rest) := indentedLines markers (c.rest.length + 1) false c
  let kept := (lines.reverse.dropWhile (·.1)).reverse
  (.code none (kept.map (·.2)), kept.length != lines.length, rest)

/-! ## Fenced code -/

/-- The lines inside a fenced code block behind `indent` columns, and the text after the closing
fence. The first argument bounds the number of lines. -/
def fencedLines (markers : List Marker) (indent : Nat) (sign : Char) (length : Nat) :
    Nat → List Char → List String × List Char
  | 0, text => ([], text)
  | fuel + 1, text =>
    let (n, c) := passMarkers markers (.ofLine text)
    if n < markers.length then ([], text)
    else
      let c := (c.skipUpTo indent).2
      let (lack, inner) := c.lacking (4 - indent)
      match (if lack == 0 then none else closingFence? sign length inner.rest) with
      | some rest => ([], rest)
      | none =>
        let (line, next) := splitAfterLineFeed c.rest
        let (more, rest) := fencedLines markers indent sign length fuel next
        (verbatim c.owed line :: more, rest)

/-- A fenced code block: its opening fence stands behind `indent` columns, `text` is what is behind
the fence. -/
def fencedCode (markers : List Marker) (indent : Nat) (sign : Char) (length : Nat)
    (text : List Char) : Block × List Char :=
  let (info, next) := splitAfterLineFeed (dropLineBlanks text)
  let info := unescape false (dropEndWhile isAsciiBlank info)
  let (lines, rest) := fencedLines markers indent sign length (next.length + 1) next
  (.code (some (String.ofList info)) lines, rest)

/-! ## HTML -/

/-- The lines of an HTML block whose first line stands behind `indent` spaces, and the text after
the last. A block with a closing text ends with the line that holds it, any other one before a blank
line. The first argument bounds the number of lines. -/
def htmlLines (markers : List Marker) (closing : Option String) :
    Nat → Nat → List Char → List (Nat × String) × List Char
  | 0, _, text => ([], text)
  | fuel + 1, indent, text =>
    let (line, next) := splitAfterLineFeed text
    let taken := (indent, String.ofList (normalLineEnd line))
    let (n, c) := passMarkers markers (.ofLine next)
    let ends := match closing with
      | some closing => (splitBehind? closing.toList line).isSome || c.rest.isEmpty
      | none => (blankLine? c.rest).isSome
    if n < markers.length || ends then ([taken], next)
    else
      let (more, rest) := htmlLines markers closing fuel c.owed c.rest
      (taken :: more, rest)

/-- An HTML block behind `indent` columns, if one begins here. -/
def htmlBlock? (markers : List Marker) (indent : Nat) (text : List Char) :
    Option (Block × List Char) :=
  let block (closing : Option String) :=
    let (lines, rest) := htmlLines markers closing (text.length + 1) indent text
    some (Block.html lines, rest)
  match text with
  | '<' :: rest =>
    match blockClosing? rest with
    | some closing => block (some closing)
    | none => if opensBlockElement rest || isLoneTag rest then block none else none
  | _ => none

/-! ## Headings -/

/-- The content of a heading line: without the spaces at its end, and without closing signs, which
are signs alone or behind a space. -/
def headingContent (line : List Char) : List Char :=
  let content := dropEndWhile (· == ' ') line
  let before := dropEndWhile (· == '#') content
  if before.isEmpty then []
  else if before.getLast? == some ' ' then dropEndWhile (· == ' ') before
  else content

/-- A heading that is opened by signs, if one stands here. -/
def headingLine? (markers : List Marker) (text : List Char) : Option (Block × List Char) :=
  (headingSigns? text).map fun (level, text) =>
    let (line, _, rest) := splitLine (dropLineBlanks text)
    (.heading level ⟨markers, false, headingContent line⟩, rest)

/-! ## Tables -/

/-- The rows of a table, each cut or filled up to `width` cells, and the text after the last. The
first argument bounds the number of rows. -/
def tableRows (markers : List Marker) (width : Nat) :
    Nat → List Char → List (List Prose) × List Char
  | 0, text => ([], text)
  | fuel + 1, text =>
    let (n, c) := passMarkers markers (.ofLine text)
    let line := c.skipAll.rest
    if n < markers.length || interruptsText true true line then ([], text)
    else
      match rowCells (line.length + 1) line with
      | ([], _) => ([], text)
      | (cells, next) =>
        let (more, rest) := tableRows markers width fuel next
        (row cells :: more, rest)
where
  row (cells : List (List Char)) : List Prose :=
    ((cells.take width) ++ List.replicate (width - cells.length) []).map fun cell =>
      ⟨markers, true, dropEndWhile isLineBlank cell⟩

/-- A table, if one begins with this line. -/
def table? (markers : List Marker) (text : List Char) : Option (Block × List Char) :=
  (tableHead? markers text).map fun (columns, body) =>
    let cells := (rowCells (text.length + 1) text).1
    let (rows, rest) := tableRows markers columns.length (body.length + 1) body
    (.table columns (tableRows.row markers columns.length cells) rows, rest)

/-! ## Paragraphs -/

/-- Reads a paragraph on from the start of a line: gives the text from the end of its last line on,
the level if the paragraph turns out to be an underlined heading, and the text after it. The first
argument bounds the number of lines. -/
def paragraphEnd (markers : List Marker) :
    Nat → List Char → List Char × Option Nat × List Char
  | 0, text => (text, none, text)
  | fuel + 1, text =>
    let (_, lineEnd, next) := splitLine text
    let stop := lineEnd ++ next
    let (n, c) := passMarkers markers (.ofLine next)
    let inAllMarkers := n == markers.length
    let (columns, c) := c.skipUpTo 4
    let goOn := fun _ : Unit =>
      let c := c.skipAll
      if c.atLineEnd then (stop, none, next) else paragraphEnd markers fuel c.rest
    if columns < 4 then
      match (if inAllMarkers then underline? c.rest else none) with
      | some (level, rest) => (stop, some level, rest)
      | none =>
        if interruptsParagraph markers inAllMarkers c.rest then (stop, none, next) else goOn ()
    else goOn ()

/-- A paragraph, or the heading or table that the text turns out to be. -/
def paragraph (markers : List Marker) (text : List Char) : Block × List Char :=
  match table? markers text with
  | some found => found
  | none =>
    let (stop, level, rest) := paragraphEnd markers (text.length + 1) text
    let prose : Prose :=
      ⟨markers, false, dropEndWhile isLineBlank (text.take (text.length - stop.length))⟩
    match level with
    | some level => (.heading level prose, rest)
    | none => (.paragraph prose, rest)

end DocPress.Markdown
