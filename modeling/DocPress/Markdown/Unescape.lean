import DocPress.Text.NamedReference
import DocPress.Text.Punctuation
import DocPress.Markdown.Cursor

/-!
# DocPress.Markdown.Unescape

Escapes and character references: the two ways to write a character without its meaning.

1. A backslash before ASCII punctuation stands for that character alone.
2. `&#...;` with up to seven decimal digits, `&#x...;` with up to six hexadecimal digits, and
   `&name;` stand for the character or characters they refer to. A number that is no character, and
   zero, stands for U+FFFD.
-/

namespace DocPress.Markdown

open DocPress.Text

/-! ## Character references -/

/-- The value of a hexadecimal digit in either case. -/
def hexDigit? (c : Char) : Option Nat :=
  if c.isDigit then some (c.toNat - '0'.toNat)
  else if 'a' ≤ c && c ≤ 'f' then some (c.toNat - 'a'.toNat + 10)
  else if 'A' ≤ c && c ≤ 'F' then some (c.toNat - 'A'.toNat + 10)
  else none

/-- The value of a decimal digit. -/
def decimalDigit? (c : Char) : Option Nat :=
  if c.isDigit then some (c.toNat - '0'.toNat) else none

/-- Up to `room` digits of a base; gives their number, their value and the text behind them. -/
def number (digit? : Char → Option Nat) (base : Nat) : Nat → List Char → Nat × Nat × List Char :=
  go 0 0
where
  go (count value : Nat) : Nat → List Char → Nat × Nat × List Char
    | room + 1, c :: rest =>
      match digit? c with
      | some d => go (count + 1) (value * base + d) room rest
      | none => (count, value, c :: rest)
    | _, text => (count, value, text)

/-- The character of a code point, U+FFFD in place of none. -/
def charOfCode (code : Nat) : Char :=
  if h : code.isValidChar ∧ code ≠ 0 then Char.ofNatAux code h.1 else '\uFFFD'

/-- A character reference behind its `&`: the text it stands for, and what follows it. -/
def charReference? (text : List Char) : Option (List Char × List Char) :=
  match text with
  | '#' :: rest =>
    let (count, value, rest) :=
      match rest with
      | 'x' :: rest => number hexDigit? 16 6 rest
      | 'X' :: rest => number hexDigit? 16 6 rest
      | _ => number decimalDigit? 10 7 rest
    match rest with
    | ';' :: rest => if count = 0 then none else some ([charOfCode value], rest)
    | _ => none
  | _ =>
    let name := text.takeWhile Char.isAlphanum
    match text.drop name.length with
    | ';' :: rest => (namedReference? (String.ofList name)).map fun value => (value.toList, rest)
    | _ => none

/-! ## Unescaping -/

/-- Resolves escapes and references. A carriage return is dropped. In a table, where a pipe is
written `\|`, a doubled backslash before a pipe counts once. The first argument bounds the number of
steps. -/
def unescapeFrom (inTable : Bool) : Nat → List Char → List Char
  | 0, text => text
  | _ + 1, [] => []
  | fuel + 1, '\r' :: rest => unescapeFrom inTable fuel rest
  | fuel + 1, '\\' :: rest =>
    match inTable, rest with
    | true, '\\' :: '|' :: rest => '|' :: unescapeFrom inTable fuel rest
    | _, c :: rest' =>
      if isAsciiPunctuation c then c :: unescapeFrom inTable fuel rest'
      else '\\' :: unescapeFrom inTable fuel rest
    | _, [] => ['\\']
  | fuel + 1, '&' :: rest =>
    match charReference? rest with
    | some (value, rest) => value ++ unescapeFrom inTable fuel rest
    | none => '&' :: unescapeFrom inTable fuel rest
  | fuel + 1, c :: rest => c :: unescapeFrom inTable fuel rest

/-- Resolves the escapes and references of a link target, a title or a fence. -/
def unescape (inTable : Bool) (text : List Char) : List Char :=
  unescapeFrom inTable text.length text

end DocPress.Markdown
