import DocPress.Markdown.Event
import DocPress.Markdown.RawHtml

/-!
# DocPress.Markdown.Table

Tables: a head line with pipes in it, under it a divider line with as many columns, then one row a
line. The module says where a table begins, how a row falls into cells, and with that also what
interrupts a paragraph, since a table does.
-/

namespace DocPress.Markdown

open DocPress.Text

/-! ## The divider -/

/-- What has been read of a divider line. -/
structure Divider where
  /-- The columns that are complete, last one first. -/
  columns : List Alignment
  /-- The column being read. -/
  column : Alignment
  /-- Nothing of this column has been read. -/
  untouched : Bool
  hasPipe : Bool
  hasDash : Bool
  /-- A dash stands in this column. -/
  dashed : Bool

/-- Reads one character of a divider; a character that has no place in one gives nothing, and so
does a column without a dash. -/
def Divider.read? (d : Divider) (c : Char) : Option Divider :=
  if c = ' ' then some d
  else if c = ':' then
    let column := match d.untouched, d.column with
      | true, .unset => .left
      | false, .left => .center
      | false, .unset => .right
      | _, column => column
    some { d with column := column, untouched := false }
  else if c = '-' then some { d with untouched := false, hasDash := true, dashed := true }
  else if c = '|' then
    if d.dashed then
      some { d with columns := d.column :: d.columns, column := .unset, untouched := true,
                    hasPipe := true, dashed := false }
    else none
  else none

/-- The columns of a divider line, and the text after it. Behind at most three columns of
indentation it holds dashes, colons, spaces and at least one pipe. -/
def divider? (text : List Char) : Option (List Alignment × List Char) :=
  let c := Cursor.ofLine text
  if c.hasColumns 4 then none
  else
    let (line, _, rest) := splitLine (c.skipUpTo 3).2.rest
    let (hasPipe, line) := match line with
      | '|' :: line => (true, line)
      | _ => (false, line)
    match line.foldlM Divider.read? ⟨[], .unset, true, hasPipe, false, false⟩ with
    | none => none
    | some d =>
      if d.hasPipe && d.hasDash then
        let columns := if d.untouched then d.columns else d.column :: d.columns
        some (columns.reverse, rest)
      else none

/-! ## The head -/

/-- The number of pipes without a backslash before them, and the text behind the last one. -/
def pipes (line : List Char) : Nat × List Char :=
  go '\x00' 0 line line
where
  go (before : Char) (count : Nat) (behind : List Char) : List Char → Nat × List Char
    | [] => (count, behind)
    | c :: rest =>
      if c = '|' && before != '\\' then go c (count + 1) rest rest else go c count behind rest

/-- The number of columns of a head line that has pipes: a pipe at either end divides nothing. -/
def headColumns (line : List Char) : Nat :=
  let (count, behind) := pipes line
  let count := match dropLineBlanks line with
    | '|' :: _ => count - 1
    | _ => count
  if (dropLineBlanks behind).isEmpty then count else count + 1

/-- A table begins with this line: it has pipes, and the next line, behind all its markers, is a
divider of as many columns. Gives the columns and the text after the divider. -/
def tableHead? (markers : List Marker) (text : List Char) : Option (List Alignment × List Char) :=
  let (line, lineEnd, next) := splitLine text
  if lineEnd.isEmpty || (pipes line).1 == 0 then none
  else
    let (n, c) := passMarkers markers (.ofLine next)
    if n < markers.length then none
    else
      match divider? c.rest with
      | none => none
      | some (columns, rest) =>
        if columns.length == headColumns line then some (columns, rest) else none

/-! ## Rows -/

/-- The text of a cell up to the next pipe that is not escaped, and what follows. -/
def splitCell : List Char → List Char × List Char
  | [] => ([], [])
  | '\\' :: '\\' :: '|' :: rest =>
    let (cell, rest) := splitCell rest
    ('\\' :: '\\' :: '|' :: cell, rest)
  | '\\' :: c :: rest =>
    if isLineEnd c then (['\\'], c :: rest)
    else
      let (cell, rest) := splitCell rest
      ('\\' :: c :: cell, rest)
  | c :: rest =>
    if c = '|' || isLineEnd c then ([], c :: rest)
    else
      let (cell, rest) := splitCell rest
      (c :: cell, rest)

/-- The cells of the row that begins here, and the text after its line. The first argument bounds
the number of cells. -/
def rowCells : Nat → List Char → List (List Char) × List Char
  | 0, text => ([], text)
  | fuel + 1, text =>
    let text := match text with
      | '|' :: rest => rest
      | _ => text
    let text := dropLineBlanks text
    match lineEnd? text with
    | some rest => ([], rest)
    | none =>
      let (cell, rest) := splitCell text
      let (cells, rest) := rowCells fuel rest
      (cell :: cells, rest)

/-! ## Interrupting a paragraph -/

/-- What ends a paragraph, or a table, when a line begins with it: anything but plain text, an
indented block, a definition or a lone tag. Where the line stands in all enclosing blocks and no
table is open, a list only interrupts with a first item that has content and is a bullet or has the
number 1. -/
def interruptsText (inAllMarkers inTable : Bool) (text : List Char) : Bool :=
  (lineEnd? text).isSome || (thematicBreak? text).isSome || (headingSigns? text).isSome ||
    (fence? text).isSome || text.head? == some '>' ||
    (match itemStart? text with
      | none => false
      | some (item, rest) =>
        !inAllMarkers || inTable ||
          ((!item.isNumbered || item.number == 1) && !twoBlankLines rest)) ||
    (match text with
      | '<' :: rest => opensFirmBlock rest
      | _ => false)

/-- What ends a paragraph when a line behind the given markers begins with it. -/
def interruptsParagraph (markers : List Marker) (inAllMarkers : Bool) (text : List Char) : Bool :=
  interruptsText inAllMarkers false text || (inAllMarkers && (tableHead? markers text).isSome)

/-- The next line goes on with a paragraph or definition that has begun: gives its text behind the
markers. An indented line always goes on; the underline of a heading does not. -/
def continuation? (markers : List Marker) (next : List Char) : Option Cursor :=
  let (n, c) := passMarkers markers (.ofLine next)
  let inAllMarkers := n == markers.length
  let (columns, behind) := c.skipUpTo 4
  if columns < 4 &&
      (interruptsParagraph markers inAllMarkers behind.rest ||
        (inAllMarkers && (underline? behind.rest).isSome)) then none
  else some behind

end DocPress.Markdown
