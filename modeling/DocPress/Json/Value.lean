/-!
# DocPress.Json.Value

JSON values, whose objects keep the order of their fields, and their two written forms: the compact
one has no blanks, the pretty one has a line for each item, indented by two spaces.
-/

namespace DocPress.Json

/-- A JSON value. -/
inductive Value where
  | null
  | bool (b : Bool)
  | natural (n : Nat)
  /-- A number that is negative, too large, or has a point or an exponent, as it is written. -/
  | otherNumber (literal : String)
  | string (text : String)
  | array (items : List Value)
  | object (fields : List (String × Value))
  deriving Repr

/-! ## Strings -/

/-- A hexadecimal digit in lower case. -/
def hexDigit (n : Nat) : Char :=
  "0123456789abcdef".toList.getD n '0'

/-- A character inside a string. -/
def escapeChar (c : Char) : List Char :=
  if c = '\x22' || c = '\\' then ['\\', c]
  else if c = '\x08' then ['\\', 'b']
  else if c = '\x0c' then ['\\', 'f']
  else if c = '\n' then ['\\', 'n']
  else if c = '\r' then ['\\', 'r']
  else if c = '\t' then ['\\', 't']
  else if c.toNat < 0x20 then ['\\', 'u', '0', '0', hexDigit (c.toNat / 16), hexDigit (c.toNat % 16)]
  else [c]

/-- A string in its quotes. -/
def writeString (text : String) : List Char :=
  '\x22' :: text.toList.flatMap escapeChar ++ ['\x22']

/-! ## Written forms -/

/-- A value that holds no others. -/
def writeScalar : Value → List Char
  | .bool b => (toString b).toList
  | .natural n => (toString n).toList
  | .otherNumber literal => literal.toList
  | .string text => writeString text
  | _ => "null".toList

mutual

/-- The compact form of a value. -/
def Value.compact : Value → List Char
  | .array items => '[' :: compactItems items ++ [']']
  | .object fields => '\x7b' :: compactFields fields ++ ['\x7d']
  | scalar => writeScalar scalar

/-- The compact form of items, with commas between them. -/
def compactItems : List Value → List Char
  | [] => []
  | [item] => item.compact
  | item :: rest => item.compact ++ ',' :: compactItems rest

/-- The compact form of fields, with commas between them. -/
def compactFields : List (String × Value) → List Char
  | [] => []
  | [(key, value)] => writeString key ++ ':' :: value.compact
  | (key, value) :: rest => writeString key ++ ':' :: value.compact ++ ',' :: compactFields rest

end

/-- A new line at a depth. -/
def lineAt (depth : Nat) : List Char :=
  '\n' :: List.replicate (2 * depth) ' '

mutual

/-- The pretty form of a value that stands at a depth. -/
def Value.pretty (depth : Nat) : Value → List Char
  | .array [] => ['[', ']']
  | .array items => '[' :: prettyItems (depth + 1) items ++ lineAt depth ++ [']']
  | .object [] => ['\x7b', '\x7d']
  | .object fields => '\x7b' :: prettyFields (depth + 1) fields ++ lineAt depth ++ ['\x7d']
  | scalar => writeScalar scalar

/-- The pretty form of items, each on a line of its own. -/
def prettyItems (depth : Nat) : List Value → List Char
  | [] => []
  | [item] => lineAt depth ++ item.pretty depth
  | item :: rest => lineAt depth ++ item.pretty depth ++ ',' :: prettyItems depth rest

/-- The pretty form of fields, each on a line of its own. -/
def prettyFields (depth : Nat) : List (String × Value) → List Char
  | [] => []
  | [(key, value)] => lineAt depth ++ writeString key ++ ':' :: ' ' :: value.pretty depth
  | (key, value) :: rest =>
    lineAt depth ++ writeString key ++ ':' :: ' ' :: value.pretty depth ++
      ',' :: prettyFields depth rest

end

end DocPress.Json
