import DocPress.Text.Blank

/-!
# DocPress.Markdown.Cursor

A place in the indentation of a line. Indentation is counted in columns, and a tab reaches to the
next multiple of four, so a tab can be used up in parts: the columns of it that are not used yet
belong to whatever follows.
-/

namespace DocPress.Markdown

open DocPress.Text

/-! ## Line ends -/

/-- The text after a line end, if one stands here; the end of the text is one, and a carriage
return with a line feed after it is a single one. -/
def lineEnd? : List Char → Option (List Char)
  | [] => some []
  | '\n' :: rest => some rest
  | '\r' :: '\n' :: rest => some rest
  | '\r' :: rest => some rest
  | _ :: _ => none

/-- The text after this line, if only blanks are left on it. -/
def blankLine? (text : List Char) : Option (List Char) :=
  lineEnd? (text.dropWhile isLineBlank)

/-- The rest of this line without its end, the end as it is written, and the lines after it. -/
def splitLine (text : List Char) : List Char × List Char × List Char :=
  match text.span (!isLineEnd ·) with
  | (line, '\r' :: '\n' :: rest) => (line, ['\r', '\n'], rest)
  | (line, c :: rest) => (line, [c], rest)
  | (line, []) => (line, [], [])

/-- The text up to and with the next line feed, and what follows. Unlike `splitLine`, this takes a
lone carriage return for an ordinary character. -/
def splitAfterLineFeed (text : List Char) : List Char × List Char :=
  match text.span (· != '\n') with
  | (line, c :: rest) => (line ++ [c], rest)
  | (line, []) => (line, [])

/-! ## Cursors -/

/-- A place in the indentation of a line. -/
structure Cursor where
  /-- The text from here on. -/
  rest : List Char
  /-- Characters since the last tab, or since the start of the line. -/
  sinceTab : Nat
  /-- Columns of the last tab that are not used yet. -/
  owed : Nat
  /-- Characters passed since the start of the line. -/
  passed : Nat
  deriving Repr

namespace Cursor

/-- The start of a line. -/
def ofLine (text : List Char) : Cursor :=
  ⟨text, 0, 0, 0⟩

/-- Passes one character that is not indentation. -/
def next (c : Cursor) : Cursor :=
  { c with rest := c.rest.tail, sinceTab := c.sinceTab + 1, owed := c.owed, passed := c.passed + 1 }

/-- Passes indentation that is written out, as far as it goes but no more than `want` columns;
gives the columns that are lacking. -/
def passColumns : Nat → List Char → Nat → Nat → Nat × Cursor
  | 0, text, sinceTab, passed => (0, ⟨text, sinceTab, 0, passed⟩)
  | want + 1, ' ' :: text, sinceTab, passed => passColumns want text (sinceTab + 1) (passed + 1)
  | want + 1, '\t' :: text, sinceTab, passed =>
    let width := 4 - sinceTab % 4
    if want + 1 ≤ width then
      (0, ⟨text, 0, width - (want + 1), passed + 1⟩)
    else
      passColumns (want + 1 - width) text 0 (passed + 1)
  | want + 1, text, sinceTab, passed => (want + 1, ⟨text, sinceTab, 0, passed⟩)
termination_by _ text => text.length

/-- Passes up to `want` columns of indentation; gives the columns that are lacking. -/
def lacking (want : Nat) (c : Cursor) : Nat × Cursor :=
  if want ≤ c.owed then
    (0, { c with owed := c.owed - want })
  else
    passColumns (want - c.owed) c.rest c.sinceTab c.passed

/-- Passes up to `want` columns of indentation; gives the columns passed. -/
def skipUpTo (want : Nat) (c : Cursor) : Nat × Cursor :=
  let (lack, c) := c.lacking want
  (want - lack, c)

/-- The indentation reaches `want` columns. -/
def hasColumns (want : Nat) (c : Cursor) : Bool :=
  (c.lacking want).1 == 0

/-- Passes all spaces and tabs. -/
def skipAll (c : Cursor) : Cursor :=
  let blanks := c.rest.takeWhile fun ch => ch == ' ' || ch == '\t'
  { c with rest := c.rest.drop blanks.length, owed := 0, passed := c.passed + blanks.length }

/-- Nothing is left on the line. -/
def atLineEnd (c : Cursor) : Bool :=
  match c.rest with
  | [] => true
  | ch :: _ => isLineEnd ch

/-- Passes the sign of a block quote and one column after it. -/
def quoteSign? (c : Cursor) : Option Cursor :=
  match c.rest with
  | '>' :: _ => some ((c.next).skipUpTo 1).2
  | _ => none

end Cursor

/-! ## Markers of enclosing blocks -/

/-- What the lines of an enclosing block begin with. -/
inductive Marker where
  /-- A block quote: a `>` behind at most three columns. -/
  | quote
  /-- A list item: so many columns. -/
  | item (indent : Nat)
  deriving Repr, DecidableEq

/-- Passes the marker of one enclosing block. A line that ends within the indentation of a list
item still belongs to the item. -/
def Marker.pass? : Marker → Cursor → Option Cursor
  | .quote, c => (c.skipUpTo 3).2.quoteSign?
  | .item indent, c =>
    let (lack, after) := c.lacking indent
    if lack == 0 || after.atLineEnd then some after else none

/-- Passes markers from the outermost enclosing block inwards, until one is missing; gives the
number of markers passed. -/
def passMarkers : List Marker → Cursor → Nat × Cursor
  | [], c => (0, c)
  | marker :: markers, c =>
    match marker.pass? c with
    | none => (0, c)
    | some c =>
      let (n, c) := passMarkers markers c
      (n + 1, c)

/-- What is left of a text at the start of a line behind the markers that stand there. -/
def dropMarkers (markers : List Marker) (text : List Char) : List Char :=
  (passMarkers markers (.ofLine text)).2.rest

end DocPress.Markdown
