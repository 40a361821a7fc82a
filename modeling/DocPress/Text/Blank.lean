/-!
# DocPress.Text.Blank

Blank characters, in three senses that must not be mixed up:

1. `isBlank`: the property White_Space, used wherever a text is trimmed for a reader.
2. `isAsciiBlank`: the six ASCII blanks that Markdown knows, line ends among them.
3. `isLineBlank`: an ASCII blank that does not end a line.

And what is parted by them: a text without the blanks around it, and the lines of a text.
-/

namespace DocPress.Text

/-! ## The three senses -/

/-- The property White_Space. -/
def isBlank (c : Char) : Bool :=
  let n := c.toNat
  (9 ≤ n && n ≤ 13) || n == 0x20 || n == 0x85 || n == 0xA0 || n == 0x1680 ||
    (0x2000 ≤ n && n ≤ 0x200A) || n == 0x2028 || n == 0x2029 || n == 0x202F || n == 0x205F ||
    n == 0x3000

/-- Space, tab, line feed, vertical tab, form feed or carriage return. -/
def isAsciiBlank (c : Char) : Bool :=
  let n := c.toNat
  (9 ≤ n && n ≤ 13) || n == 0x20

/-- Space, tab, vertical tab or form feed. -/
def isLineBlank (c : Char) : Bool :=
  let n := c.toNat
  n == 9 || n == 11 || n == 12 || n == 0x20

/-- Line feed or carriage return. -/
def isLineEnd (c : Char) : Bool :=
  let n := c.toNat
  n == 10 || n == 13

/-! ## Trimming -/

/-- Drops the characters in the class from the end. -/
def dropEndWhile (p : Char → Bool) (text : List Char) : List Char :=
  (text.reverse.dropWhile p).reverse

/-- Drops blanks (White_Space) from both ends. -/
def trimChars (text : List Char) : List Char :=
  dropEndWhile isBlank (text.dropWhile isBlank)

/-- Drops blanks (White_Space) from both ends of a string. -/
def trim (text : String) : String :=
  String.ofList (trimChars text.toList)

/-! ## Lines -/

/- A line ends in a line feed, or in a carriage return and a line feed, or with the text. A text that
ends in a line feed has no empty line behind it. -/

/-- The lines of a text; `line` is the one that has begun, last character first. -/
def linesFrom (line : List Char) : List Char → List (List Char)
  | [] => if line.isEmpty then [] else [line.reverse]
  | c :: rest =>
    if c = '\n' then
      (if line.head? = some '\r' then line.tail else line).reverse :: linesFrom [] rest
    else linesFrom (c :: line) rest

/-- The lines of a text. -/
def textLines (text : String) : List String :=
  (linesFrom [] text.toList).map String.ofList

end DocPress.Text
