import DocPress.Text.CodeRange

/-!
# DocPress.Page.Layout

The geometry of a page: paper size, margins, and what else a renderer has to know of the layout.

A margin is a CSS length: digits, perhaps a point and more digits, and one of five units. Digits of
every script count.
-/

namespace DocPress.Page

open DocPress.Text

/-! ## Paper -/

/-- A paper size. -/
inductive PageSize where
  | a3
  | a4
  | a5
  | letter
  | legal
  deriving Repr, DecidableEq

/-- The name of a paper size. -/
def PageSize.name : PageSize → String
  | .a3 => "A3"
  | .a4 => "A4"
  | .a5 => "A5"
  | .letter => "Letter"
  | .legal => "Legal"

/-- All paper sizes. -/
def PageSize.all : List PageSize :=
  [.a3, .a4, .a5, .letter, .legal]

/-! ## Margins -/

/-- The margins of a page, each as a CSS length. -/
structure Margins where
  top : String
  right : String
  bottom : String
  left : String
  deriving Repr, DecidableEq

namespace Margins

/-- The same margin on all edges. -/
def uniform (margin : String) : Margins :=
  ⟨margin, margin, margin, margin⟩

/-- All edges have the same margin. -/
def isUniform (m : Margins) : Bool :=
  m.top == m.right && m.right == m.bottom && m.bottom == m.left

/-- The margins as CSS has them: a single length if they are uniform. -/
def toCss (m : Margins) : String :=
  if m.isUniform then m.top
  else m.top ++ " " ++ m.right ++ " " ++ m.bottom ++ " " ++ m.left

/-- The edges with their names, in the order in which they are checked. -/
def edges (m : Margins) : List (String × String) :=
  [("top", m.top), ("right", m.right), ("bottom", m.bottom), ("left", m.left)]

end Margins

/-- The units of a length. -/
def lengthUnits : List String :=
  ["cm", "mm", "in", "pt", "px"]

/-- Digits, at least one, and the text behind them. -/
def digitRun? (text : List Char) : Option (List Char) :=
  let digits := text.takeWhile isDecimalDigit
  if digits.isEmpty then none else some (text.drop digits.length)

/-- The text is a unit. -/
def isUnit (text : List Char) : Bool :=
  lengthUnits.any (·.toList == text)

/-- The text is a CSS length. -/
def isLength (text : String) : Bool :=
  match digitRun? text.toList with
  | none => false
  | some ('.' :: fraction) =>
    match digitRun? fraction with
    | none => false
    | some unit => isUnit unit
  | some unit => isUnit unit

/-- The first edge whose margin is no length, with that margin. -/
def Margins.firstFault? (m : Margins) : Option (String × String) :=
  m.edges.find? fun (_, margin) => !isLength margin

/-! ## Layouts -/

/-- What a renderer has to know of the layout of a page. -/
structure Layout where
  pageSize : PageSize
  margins : Margins
  /-- The encoding that the document declares. -/
  encoding : String
  /-- The document gets an outline. -/
  outline : Bool
  deriving Repr, DecidableEq

/-- The margin of a page for which none is given. -/
def defaultMargin : String :=
  "2.5cm"

/-- The layout of a page for which none is given. -/
def Layout.standard : Layout :=
  ⟨.a4, .uniform defaultMargin, "UTF-8", false⟩

end DocPress.Page
