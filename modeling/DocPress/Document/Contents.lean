import DocPress.Text.Escape
import DocPress.Document.Heading

/-!
# DocPress.Document.Contents

The table of contents: a nested list of all headings, in place of every paragraph that holds nothing
but the marker `[TOC]`.

1. A heading nests under the nearest earlier heading of a lower level. A level that is left out adds
   one step of depth, not two.
2. A paragraph is the marker if it holds text alone, and the text without the blanks around it is
   the marker.
-/

namespace DocPress.Document

open DocPress.Markdown DocPress.Text

/-- The text that stands for the table of contents. -/
def tocMarker : String :=
  "[TOC]"

/-! ## Depths -/

/-- The lists that are open while depths are assigned, innermost first. -/
structure Nesting where
  /-- The level of the headings in each open list. -/
  levels : List Nat
  /-- The level of the heading that owns each list but the outermost one. -/
  parents : List Nat
  /-- The level of the heading before. -/
  last : Nat
  deriving Repr

/-- Closes the lists that a heading of a lower level than the innermost one ends. -/
def Nesting.ascend (level : Nat) (n : Nesting) : Nesting :=
  match n.levels with
  | top :: levels =>
    if level < top then
      let closed := (n.parents.takeWhile (level ≤ ·)).length
      { n with levels := level :: levels.drop closed, parents := n.parents.drop closed }
    else n
  | [] => n

/-- Takes in a heading; its depth is the number of parents after it. -/
def Nesting.next (level : Nat) (n : Nesting) : Nesting :=
  let n := n.ascend level
  if n.levels.head? == some level then { n with last := level }
  else ⟨level :: n.levels, n.last :: n.parents, level⟩

/-- The depths of headings that follow others. -/
def Nesting.depths (n : Nesting) : List Nat → List Nat
  | [] => []
  | level :: rest =>
    let n := n.next level
    n.parents.length :: n.depths rest

/-- The depths of headings of the given levels. -/
def tocDepths : List Nat → List Nat
  | [] => []
  | first :: rest => 0 :: Nesting.depths ⟨[first], [], first⟩ rest

/-! ## Writing -/

/-- The entry of a heading: its text, as a link if it has an id. -/
def tocEntry (h : Heading) : String :=
  match h.id with
  | some id => "<a href=\"#" ++ id ++ "\">" ++ replaceAttribute h.text ++ "</a>"
  | none => replaceAttribute h.text

/-- What stands between an entry and one of the given depth behind it, where `opened` lists are
open, and the number of lists that are open then. -/
def tocStep (opened depth : Nat) : String × Nat :=
  if opened = 0 then ("<ul>\n", 1)
  else if opened ≤ depth then ("\n<ul>\n", opened + 1)
  else
    let closed := opened - (depth + 1)
    ("</li>\n" ++ String.join (List.replicate closed "</ul>\n</li>\n"), opened - closed)

/-- The entries of the table, where `opened` lists are open, and the ends of all lists. -/
def tocEntries (opened : Nat) : List (Heading × Nat) → String
  | [] => String.join (List.replicate opened "</li>\n</ul>\n")
  | (h, depth) :: rest =>
    let (between, opened) := tocStep opened depth
    between ++ "<li>" ++ tocEntry h ++ tocEntries opened rest

/-- The table of contents. Without headings it is an empty list. -/
def renderToc (headings : List Heading) : String :=
  "<div class=\"toc\">\n" ++ tocEntries 0 (headings.zip (tocDepths (headings.map (·.level)))) ++
    (if headings.isEmpty then "<ul></ul>\n" else "") ++ "</div>\n"

/-! ## Placing -/

/-- The text of a paragraph behind its start, if it holds text alone, and the events behind its
end. -/
def textParagraph? : List Event → Option (String × List Event)
  | .text content :: rest =>
    (textParagraph? rest).map fun (text, rest) => (content ++ text, rest)
  | .finish .paragraph :: rest => some ("", rest)
  | _ => none

/-- The events behind a paragraph that holds the marker, if one starts here. -/
def tocParagraph? : List Event → Option (List Event)
  | .start .paragraph :: rest =>
    (textParagraph? rest).bind fun (text, rest) =>
      if trim text == tocMarker then some rest else none
  | _ => none

/-- A text paragraph ends before what follows it. -/
theorem length_lt_of_textParagraph? {events rest : List Event} {text : String}
    (h : textParagraph? events = some (text, rest)) : rest.length < events.length := by
  fun_induction textParagraph? events generalizing text with
  | case1 content events ih =>
    obtain ⟨⟨t, r⟩, hr, heq⟩ := Option.map_eq_some_iff.1 h
    cases heq
    have := ih hr
    simp only [List.length_cons]
    omega
  | case2 events =>
    cases h
    simp
  | case3 => cases h

/-- A marker paragraph ends before what follows it. -/
theorem length_lt_of_tocParagraph? {events rest : List Event}
    (h : tocParagraph? events = some rest) : rest.length < events.length := by
  unfold tocParagraph? at h
  split at h
  next tail =>
    obtain ⟨⟨text, r⟩, hr, hif⟩ := Option.bind_eq_some_iff.1 h
    dsimp only at hif
    split at hif
    · cases hif
      have := length_lt_of_textParagraph? hr
      simp only [List.length_cons]
      omega
    · cases hif
  next => cases h

/-- There is a marker paragraph. -/
def hasToc : List Event → Bool
  | [] => false
  | e :: rest => (tocParagraph? (e :: rest)).isSome || hasToc rest

/-- Gives the headings their ids, in order, and writes the table of contents in place of every marker
paragraph. A heading for which there is no id keeps its own. -/
def placeContents (toc : String) (ids : List (Option String)) (events : List Event) :
    List Event :=
  match h : tocParagraph? events with
  | some rest =>
    have := length_lt_of_tocParagraph? h
    .html toc :: placeContents toc ids rest
  | none =>
    match events with
    | [] => []
    | .start (.heading level own) :: rest =>
      .start (.heading level ((ids.head?.join).or own)) :: placeContents toc ids.tail rest
    | e :: rest => e :: placeContents toc ids rest
termination_by events.length

end DocPress.Document
