import DocPress.Json.Read

/-!
# DocPress.Json.Format

A format ties a type to JSON: how its values are written, how text of their shape is read, and
which value such a text stands for.
-/

namespace DocPress.Json

/-- How the values of a type are written and read. -/
structure Format (α : Type) where
  /-- Reads text of the shape that the values have. -/
  reader : Reader
  toValue : α → Value
  /-- The value that is written in this form. -/
  ofValue? : Value → Option α

/-- Reads a whole text. -/
def readWhole (read : Reader) (text : List Char) : Except Fault Value := do
  let (value, rest) ← read 0 text
  if (skipGap rest).isEmpty then .ok value else .error .malformed

namespace Format

/-- The value that a text stands for. -/
def parse (f : Format α) (text : String) : Except Fault α := do
  match f.ofValue? (← readWhole f.reader text.toList) with
  | some a => .ok a
  | none => .error .mismatched

/-- The compact form of a value. -/
def compact (f : Format α) (a : α) : String :=
  String.ofList (f.toValue a).compact

/-- The pretty form of a value. -/
def pretty (f : Format α) (a : α) : String :=
  String.ofList ((f.toValue a).pretty 0)

/-- A choice of a name among several. -/
def ofNames (all : List α) (name : α → String) : Format α where
  reader := readChoice (all.map name)
  toValue a := .string (name a)
  ofValue?
    | .string text => all.find? (name · == text)
    | _ => none

end Format

/-! ## Parts -/

/-- A text, or null. -/
def optionalText : Option String → Value
  | some text => .string text
  | none => .null

/-- The text that a value holds, if it is a text or null. -/
def optionalText? : Value → Option (Option String)
  | .string text => some (some text)
  | .null => some none
  | _ => none

/-- A field that must be there. -/
def required (name : String) (read : Reader) : Field :=
  ⟨name, false, read⟩

/-- Fits a value of a given kind. -/
def fitScalar (isGood : Value → Bool) : Fit := fun value =>
  if isGood value then some value else none

/-- Fits a string. -/
def fitText : Fit :=
  fitScalar fun
    | .string _ => true
    | _ => false

/-- Fits a natural number. -/
def fitNatural : Fit :=
  fitScalar fun
    | .natural _ => true
    | _ => false

end DocPress.Json
