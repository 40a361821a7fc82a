import DocPress.Markdown.Cursor

/-!
# DocPress.Markdown.Line

What a line of Markdown can begin with: a thematic break, a heading, a fence, an item marker, the
divider of a table. Each recogniser looks at the text behind the indentation of the line and says
what stands there, and mostly what is left behind it.
-/

namespace DocPress.Markdown

open DocPress.Text

/-! ## Runs -/

/-- The length of the run of `c` at the start, and the text behind it. -/
def countRun (c : Char) : List Char → Nat × List Char
  | [] => (0, [])
  | d :: rest =>
    if d = c then
      let (n, rest) := countRun c rest
      (n + 1, rest)
    else (0, d :: rest)

/-- Drops blanks within the line. -/
def dropLineBlanks (text : List Char) : List Char :=
  text.dropWhile isLineBlank

/-! ## Thematic breaks -/

/-- Behind a thematic break only its own sign, spaces and tabs are left on the line; `found` signs
have been seen so far. -/
def breakTail? (sign : Char) (found : Nat) : List Char → Option (List Char)
  | [] => if 3 ≤ found then some [] else none
  | c :: rest =>
    if c = sign then breakTail? sign (found + 1) rest
    else if c = ' ' || c = '\t' then breakTail? sign found rest
    else if isLineEnd c then
      if 3 ≤ found then lineEnd? (c :: rest) else none
    else none

/-- A thematic break: three or more of one of `*`, `-`, `_`, and nothing else but blanks. Gives the
text after the line. -/
def thematicBreak? (text : List Char) : Option (List Char) :=
  match text with
  | c :: _ => if c = '*' || c = '-' || c = '_' then breakTail? c 0 text else none
  | [] => none

/-! ## Headings -/

/-- The level of a heading that is opened by `#` signs: one to six of them, then a blank or the end
of the text. Gives the text behind the signs. -/
def headingSigns? (text : List Char) : Option (Nat × List Char) :=
  let (level, rest) := countRun '#' text
  if 1 ≤ level && level ≤ 6 then
    match rest with
    | [] => some (level, rest)
    | c :: _ => if isAsciiBlank c then some (level, rest) else none
  else none

/-- The line under a heading: `=` for level 1, `-` for level 2, in any number. Gives the text after
the line. -/
def underline? (text : List Char) : Option (Nat × List Char) :=
  match text with
  | '=' :: _ => (blankLine? (countRun '=' text).2).map fun rest => (1, rest)
  | '-' :: _ => (blankLine? (countRun '-' text).2).map fun rest => (2, rest)
  | _ => none

/-! ## Fences -/

/-- The opening of a fenced code block: three or more of '\x60' or '~'. Behind a fence of back
quotes no other back quote may follow on the line. Gives the sign, the length and the rest. -/
def fence? (text : List Char) : Option (Char × Nat × List Char) :=
  match text with
  | '~' :: _ =>
    let (n, rest) := countRun '~' text
    if 3 ≤ n then some ('~', n, rest) else none
  | '\x60' :: _ =>
    let (n, rest) := countRun '\x60' text
    if 3 ≤ n && !((splitAfterLineFeed rest).1.contains '\x60') then some ('\x60', n, rest) else none
  | _ => none

/-- The closing of a fenced code block: at least as many signs, then nothing but spaces. Gives the
text after the line. -/
def closingFence? (sign : Char) (length : Nat) (text : List Char) : Option (List Char) :=
  match text with
  | [] => some []
  | _ =>
    let (n, rest) := countRun sign text
    if n < length then none else lineEnd? (rest.dropWhile (· == ' '))

/-! ## List items -/

/-- The sign and number of an item marker. For a bullet the number is 0. -/
structure ItemSign where
  sign : Char
  number : Nat
  deriving Repr, DecidableEq

/-- The item belongs to a numbered list. -/
def ItemSign.isNumbered (s : ItemSign) : Bool :=
  s.sign == '.' || s.sign == ')'

/-- Up to `room` digits, and their value. -/
def digits : Nat → Nat → List Char → Nat × List Char
  | 0, value, text => (value, text)
  | room + 1, value, c :: rest =>
    if c.isDigit then digits room (value * 10 + (c.toNat - '0'.toNat)) rest else (value, c :: rest)
  | _ + 1, value, [] => (value, [])

/-- The sign of an item: a bullet, or at most nine digits with a point or a parenthesis. -/
def itemSign? (text : List Char) : Option (ItemSign × List Char) :=
  match text with
  | [] => none
  | c :: rest =>
    if c = '-' || c = '+' || c = '*' then some (⟨c, 0⟩, rest)
    else if c.isDigit then
      match digits 9 0 text with
      | (value, d :: rest) => if d = '.' || d = ')' then some (⟨d, value⟩, rest) else none
      | _ => none
    else none

/-- The marker of a list item at a cursor behind `indent` columns: its sign, with one column or the
end of the line behind it. Up to four columns behind the sign belong to the marker; if there are
more, all but one belong to the content. Gives the sign, the columns of the marker with the
indentation before it, and the place behind it. A line that is a thematic break holds no marker. -/
def itemMarker? (indent : Nat) (c : Cursor) : Option (ItemSign × Nat × Cursor) :=
  match itemSign? c.rest with
  | none => none
  | some (sign, rest) =>
    if !sign.isNumbered && (thematicBreak? c.rest).isSome then none
    else
      let width := c.rest.length - rest.length
      let behind : Cursor :=
        { rest := rest, sinceTab := c.sinceTab + width, owed := c.owed, passed := c.passed + width }
      let (lack, after) := behind.lacking 1
      if lack == 0 || after.atLineEnd then
        let indent := indent + width + 1
        if (blankLine? after.rest).isSome then some (sign, indent, after)
        else
          let (more, deeper) := after.skipUpTo 4
          if more < 4 then some (sign, indent + more, deeper) else some (sign, indent, after)
      else none

/-- The text behind an item marker that could stand here, for deciding whether a list may begin in
the middle of a paragraph. -/
def itemStart? (text : List Char) : Option (ItemSign × List Char) :=
  match itemSign? text with
  | none => none
  | some (sign, rest) =>
    if (blankLine? rest).isSome then some (sign, rest)
    else
      match (Cursor.ofLine rest).skipUpTo 5 with
      | (0, _) => none
      | (n, after) => if n ≤ 4 then some (sign, after.rest) else some (sign, rest.tail)

/-- Nothing is left on this line nor on the next. -/
def twoBlankLines (text : List Char) : Bool :=
  match blankLine? text with
  | none => false
  | some rest => (blankLine? rest).isSome

end DocPress.Markdown
