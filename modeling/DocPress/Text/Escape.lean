/-!
# DocPress.Text.Escape

Writing text so that HTML takes it for text.

1. `escapeBody` and `escapeAttribute` look at each character once.
2. `replaceBody` and `replaceAttribute` replace one character after the other in the whole text. The
   ampersand comes first, since the entities that replace the others begin with one.
3. `percentEncode` writes an address so that it can stand in an attribute: bytes that an address
   cannot hold are written with a percent sign.
-/

namespace DocPress.Text

/-! ## One character at a time -/

/-- A character between tags: `&`, `<` and `>` are written as entities. -/
def bodyEntity (c : Char) : List Char :=
  if c = '&' then "&amp;".toList
  else if c = '<' then "&lt;".toList
  else if c = '>' then "&gt;".toList
  else [c]

/-- A character in a quoted attribute: a quote is written as an entity, too. -/
def attributeEntity (c : Char) : List Char :=
  if c = '\x22' then "&quot;".toList else bodyEntity c

/-- Text between tags. -/
def escapeBody (text : String) : String :=
  String.ofList (text.toList.flatMap bodyEntity)

/-- Text in a quoted attribute. -/
def escapeAttribute (text : String) : String :=
  String.ofList (text.toList.flatMap attributeEntity)

/-! ## One replacement after the other -/

/-- Replaces each occurrence of a character. -/
def replaceChar (c : Char) (entity : String) (text : List Char) : List Char :=
  text.flatMap fun d => if d = c then entity.toList else [d]

/-- Text between tags, by three replacements. -/
def replaceBody (text : String) : String :=
  String.ofList
    (replaceChar '>' "&gt;" (replaceChar '<' "&lt;" (replaceChar '&' "&amp;" text.toList)))

/-- Text in a quoted attribute, by four replacements. -/
def replaceAttribute (text : String) : String :=
  String.ofList
    (replaceChar '\x22' "&quot;"
      (replaceChar '>' "&gt;" (replaceChar '<' "&lt;" (replaceChar '&' "&amp;" text.toList))))

/-! ## Addresses -/

/-- A byte that stands for itself in an address. -/
def isAddressByte (b : UInt8) : Bool :=
  let c := Char.ofNat b.toNat
  b < 128 && (c.isAlphanum || "!#$%()*+,-./:;=?@_~".toList.contains c)

/-- A hexadecimal digit in upper case. -/
def hexDigit (n : Nat) : Char :=
  if n < 10 then Char.ofNat ('0'.toNat + n) else Char.ofNat ('A'.toNat + (n - 10))

/-- A byte of an address in an attribute. -/
def encodeByte (b : UInt8) : List Char :=
  if isAddressByte b then [Char.ofNat b.toNat]
  else if b == 0x26 then "&amp;".toList
  else if b == 0x27 then "&#x27;".toList
  else ['%', hexDigit (b.toNat / 16), hexDigit (b.toNat % 16)]

/-- An address in an attribute. -/
def percentEncode (address : String) : String :=
  String.ofList (address.toUTF8.toList.flatMap encodeByte)

end DocPress.Text
