import DocPress.Json.Value
import DocPress.Text.CodeRange

/-!
# DocPress.Json.Scan

The parts of JSON text that hold no others: blanks, words, strings and numbers. A reader takes what
it reads from the front of the text and gives the rest; it stops at the first fault.

1. A string that is to be used must be good Unicode, so its surrogates come in pairs. A string that
   is passed over may hold any.
2. A number that is to be used must be within reach: one above all floating-point numbers is
   malformed. Natural numbers up to 2^64 - 1 are kept exactly.
-/

namespace DocPress.Json

/-! ## Faults -/

/-- What is wrong with a text. -/
inductive Fault where
  /-- It is not JSON. -/
  | malformed
  /-- It is JSON, but not of the shape that was asked for. -/
  | mismatched
  /-- It ends too early. -/
  | incomplete
  deriving Repr, DecidableEq

/-- What a reader gives: a fault, or what it has read and the rest of the text. -/
abbrev Scan (α : Type) := List Char → Except Fault (α × List Char)

/-! ## Blanks and words -/

/-- A character that may stand between the parts of a text. -/
def isGap (c : Char) : Bool :=
  c = ' ' || c = '\n' || c = '\t' || c = '\r'

/-- The text behind blanks. -/
def skipGap (text : List Char) : List Char :=
  text.dropWhile isGap

/-- Reads the rest of a word. -/
def scanWord : List Char → Scan Unit
  | [], text => .ok ((), text)
  | _ :: _, [] => .error .incomplete
  | w :: word, c :: rest => if c = w then scanWord word rest else .error .malformed

/-- Reads a character that must come next behind blanks; if the text goes on in another way, it is
malformed. -/
def expect (c : Char) : Scan Unit := fun text =>
  match skipGap text with
  | [] => .error .incomplete
  | d :: rest => if d = c then .ok ((), rest) else .error .malformed

/-! ## Strings -/

/-- The value of a hexadecimal digit. -/
def hexValue? (c : Char) : Option Nat :=
  if c.isDigit then some (c.toNat - '0'.toNat)
  else if 'a' ≤ c ∧ c ≤ 'f' then some (c.toNat - 'a'.toNat + 10)
  else if 'A' ≤ c ∧ c ≤ 'F' then some (c.toNat - 'A'.toNat + 10)
  else none

/-- Reads four hexadecimal digits. A text that has no four bytes more ends too early, whatever those
are. -/
def scanHex : Scan Nat
  | a :: b :: c :: d :: rest =>
    match hexValue? a, hexValue? b, hexValue? c, hexValue? d with
    | some a, some b, some c, some d => .ok (((a * 16 + b) * 16 + c) * 16 + d, rest)
    | _, _, _, _ => .error .malformed
  | text => if (String.ofList text).utf8ByteSize < 4 then .error .incomplete else .error .malformed

/-- A surrogate that comes first. -/
def isLeading (unit : Nat) : Bool :=
  0xD800 ≤ unit && unit ≤ 0xDBFF

/-- A surrogate that comes second. -/
def isTrailing (unit : Nat) : Bool :=
  0xDC00 ≤ unit && unit ≤ 0xDFFF

/-- Reads one character of an exact kind. -/
def scanExactly (c : Char) : Scan Unit
  | [] => .error .incomplete
  | d :: rest => if d = c then .ok ((), rest) else .error .malformed

/-- Reads the digits of a character that is given by its number, and those of a second surrogate if
the first asks for one. -/
def scanCodePoint : Scan Char := fun text => do
  let (unit, rest) ← scanHex text
  if isTrailing unit then .error .malformed
  else if isLeading unit then
    let ((), rest) ← scanExactly '\\' rest
    let ((), rest) ← scanExactly 'u' rest
    let (second, rest) ← scanHex rest
    if isTrailing second then
      .ok (Char.ofNat (0x10000 + (unit - 0xD800) * 0x400 + (second - 0xDC00)), rest)
    else .error .malformed
  else .ok (Char.ofNat unit, rest)

/-- The character that a letter behind a backslash stands for. -/
def escapedChar? (c : Char) : Option Char :=
  match c with
  | '\x22' | '\\' | '/' => some c
  | 'b' => some '\x08'
  | 'f' => some '\x0c'
  | 'n' => some '\n'
  | 'r' => some '\r'
  | 't' => some '\t'
  | _ => none

/-- Reads a string behind its first quote. `whole` says that the string is to be used; `read` is
what has been read of it, last character first, and the first argument bounds its length. -/
def scanStringFrom (whole : Bool) : Nat → List Char → Scan String
  | 0, _, _ => .error .incomplete
  | _ + 1, _, [] => .error .incomplete
  | fuel + 1, read, c :: rest =>
    if c = '\x22' then .ok (String.ofList read.reverse, rest)
    else if c.toNat < 0x20 then .error .malformed
    else if c = '\\' then
      match rest with
      | [] => .error .incomplete
      | 'u' :: rest => do
        let (d, rest) ← if whole then scanCodePoint rest else do
          let (_, rest) ← scanHex rest
          .ok ('\uFFFD', rest)
        scanStringFrom whole fuel (d :: read) rest
      | e :: rest =>
        match escapedChar? e with
        | some d => scanStringFrom whole fuel (d :: read) rest
        | none => .error .malformed
    else scanStringFrom whole fuel (c :: read) rest

/-- Reads a string behind its first quote. -/
def scanString : Scan String := fun text =>
  scanStringFrom true (text.length + 1) [] text

/-- Passes over a string behind its first quote. -/
def skipString : Scan Unit := fun text => do
  let (_, rest) ← scanStringFrom false (text.length + 1) [] text
  .ok ((), rest)

/-! ## Numbers -/

/-- The digits at the front of a text, and the rest. -/
def digitSpan (text : List Char) : List Char × List Char :=
  text.span Char.isDigit

/-- The fault of a text that goes on without the digits it needs: a number that is to be used may
end too early, one that is passed over is malformed in any case. -/
def missingDigits (whole : Bool) (text : List Char) : Fault :=
  if whole && text.isEmpty then .incomplete else .malformed

/-- Reads the digits of the whole part: a single zero, or digits that do not begin with one. -/
def scanWholePart (whole : Bool) : Scan (List Char) := fun text =>
  match digitSpan text with
  | ([], rest) => .error (missingDigits whole rest)
  | (['0'], rest) => .ok (['0'], rest)
  | ('0' :: _, _) => .error .malformed
  | (digits, rest) => .ok (digits, rest)

/-- Reads a point and the digits behind it, if there is a point. -/
def scanFraction (whole : Bool) : Scan (List Char)
  | '.' :: text =>
    match digitSpan text with
    | ([], rest) => .error (missingDigits whole rest)
    | (digits, rest) => .ok (digits, rest)
  | text => .ok ([], text)

/-- Reads an exponent, if there is one. -/
def scanExponent (whole : Bool) : Scan (Option Int)
  | c :: text =>
    if c = 'e' || c = 'E' then
      let (negative, text) := match text with
        | '+' :: text => (false, text)
        | '-' :: text => (true, text)
        | _ => (false, text)
      match digitSpan text with
      | ([], rest) => .error (missingDigits whole rest)
      | (digits, rest) =>
        let n : Int := Text.digitsValue digits
        .ok (some (if negative then -n else n), rest)
    else .ok (none, c :: text)
  | [] => .ok (none, [])

/-- The largest floating-point number and half of the step beyond it. -/
def floatLimit : Nat :=
  1 <<< 1024 - 1 <<< 970

/-- The number with these digits times a power of ten is above all floating-point numbers. -/
def isBeyondFloat (digits : List Char) (exponent : Int) : Bool :=
  let n := Text.digitsValue digits
  if n = 0 then false
  else if 308 < exponent then true
  else if 0 ≤ exponent then floatLimit ≤ n * Nat.pow 10 exponent.toNat
  else if digits.length < exponent.natAbs then false
  else floatLimit * Nat.pow 10 exponent.natAbs ≤ n

/-- The largest natural number that is kept exactly. -/
def maxNatural : Nat :=
  1 <<< 64 - 1

/-- Reads a number behind its sign. -/
def scanNumber (negative : Bool) : Scan Value := fun text => do
  let (digits, rest) ← scanWholePart true text
  let (fraction, rest) ← scanFraction true rest
  let (exponent, rest) ← scanExponent true rest
  let written := text.take (text.length - rest.length)
  if isBeyondFloat (digits ++ fraction) (exponent.getD 0 - fraction.length) then
    .error .malformed
  else if !negative && fraction.isEmpty && exponent.isNone && Text.digitsValue digits ≤ maxNatural then
    .ok (.natural (Text.digitsValue digits), rest)
  else
    .ok (.otherNumber (String.ofList (if negative then '-' :: written else written)), rest)

/-- Passes over a number behind its sign. -/
def skipNumber : Scan Unit := fun text => do
  let (_, rest) ← scanWholePart false text
  let (_, rest) ← scanFraction false rest
  let (_, rest) ← scanExponent false rest
  .ok ((), rest)

/-! ## Scalars -/

/-- Reads a value that holds no others, from its first character on; `none` if this is no such
value. -/
def scanScalar? (c : Char) (rest : List Char) : Option (Except Fault (Value × List Char)) :=
  match c with
  | 'n' => some ((scanWord ['u', 'l', 'l'] rest).map fun (_, rest) => (.null, rest))
  | 't' => some ((scanWord ['r', 'u', 'e'] rest).map fun (_, rest) => (.bool true, rest))
  | 'f' => some ((scanWord ['a', 'l', 's', 'e'] rest).map fun (_, rest) => (.bool false, rest))
  | '\x22' => some ((scanString rest).map fun (text, rest) => (.string text, rest))
  | '-' => some (scanNumber true rest)
  | _ => if c.isDigit then some (scanNumber false (c :: rest)) else none

end DocPress.Json
