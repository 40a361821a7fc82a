import DocPress.Text.CaseFold
import DocPress.Markdown.Unescape
import DocPress.Markdown.Table

/-!
# DocPress.Markdown.Reference

Where a link points: targets, titles, labels, and the definitions that bind a label to a target.

1. A target stands in angle brackets, or is a run without blanks whose parentheses balance.
2. A title stands in quotes or parentheses and may reach over line ends, but not over a blank line.
3. A label stands in brackets, holds no bracket that is not escaped, and is compared without regard
   to case and to the length of blanks.
4. A definition is a label with a colon, a target, and perhaps a title, at the start of a paragraph.
-/

namespace DocPress.Markdown

open DocPress.Text

/-! ## Targets -/

/-- The rest of a target in angle brackets: what is in it, and the text behind it. -/
def angledTarget? : List Char → Option (List Char × List Char)
  | [] => none
  | '\\' :: c :: rest =>
    if isAsciiPunctuation c then
      (angledTarget? rest).map fun (target, rest) => ('\\' :: c :: target, rest)
    else (angledTarget? (c :: rest)).map fun (target, rest) => ('\\' :: target, rest)
  | c :: rest =>
    if c = '>' then some ([], rest)
    else if c = '<' || isLineEnd c then none
    else (angledTarget? rest).map fun (target, rest) => (c :: target, rest)
termination_by text => text.length

/-- The rest of a bare target with `depth` parentheses open; more than `limit + 1` may never be. -/
def bareTarget? (limit : Nat) (depth : Nat) : List Char → Option (List Char × List Char)
  | [] => if depth = 0 then some ([], []) else none
  | '\\' :: c :: rest =>
    if isAsciiPunctuation c then
      (bareTarget? limit depth rest).map fun (target, rest) => ('\\' :: c :: target, rest)
    else (bareTarget? limit depth (c :: rest)).map fun (target, rest) => ('\\' :: target, rest)
  | c :: rest =>
    if c.toNat ≤ 0x20 then if depth = 0 then some ([], c :: rest) else none
    else if c = '(' then
      if limit < depth then none
      else (bareTarget? limit (depth + 1) rest).map fun (target, rest) => (c :: target, rest)
    else if c = ')' then
      if depth = 0 then some ([], c :: rest)
      else (bareTarget? limit (depth - 1) rest).map fun (target, rest) => (c :: target, rest)
    else (bareTarget? limit depth rest).map fun (target, rest) => (c :: target, rest)
termination_by text => text.length

/-- A target as it is written, and the text behind it. -/
def target? (limit : Nat) (text : List Char) : Option (List Char × List Char) :=
  match text with
  | '<' :: rest => angledTarget? rest
  | _ => bareTarget? limit 0 text

/-! ## Labels -/

/-- What a character adds to the length of a label, which is less than 1000: plain ASCII is free. -/
def labelWeight (c : Char) : Nat :=
  if c.toNat < 128 then 0 else c.utf8Size

/-- The rest of a label behind its opening bracket, and the text behind the closing one. Blanks are
drawn together to one space; `across` says where the next line goes on. The first argument bounds
the number of steps, the second is the weight read so far. -/
def labelRest? (across : List Char → Option (List Char)) (inTable : Bool) :
    Nat → Nat → List Char → Option (List Char × List Char)
  | 0, _, _ => none
  | fuel + 1, weight, text =>
    if 1000 ≤ weight then none
    else
      match text with
      | [] => none
      | '[' :: _ => none
      | ']' :: rest => some ([], rest)
      | '\\' :: c :: rest =>
        (labelRest? across inTable fuel (weight + 2) rest).map fun (label, rest) =>
          (if inTable && c == '|' then c :: label else '\\' :: c :: label, rest)
      | c :: rest =>
        if isAsciiBlank c then
          let before := dropLineBlanks text
          match before with
          | d :: _ =>
            if isLineEnd d then
              match (across (splitLine before).2.2).map dropLineBlanks with
              | none => none
              | some after =>
                if (after.head?.map isLineEnd).getD true then none
                else
                  (labelRest? across inTable fuel (weight + (text.length - after.length)) after).map
                    fun (label, rest) => (' ' :: label, rest)
            else
              (labelRest? across inTable fuel (weight + (text.length - before.length)) before).map
                fun (label, rest) => (' ' :: label, rest)
          | [] => none
        else
          (labelRest? across inTable fuel (weight + labelWeight c) rest).map
            fun (label, rest) => (c :: label, rest)

/-- A label behind its opening bracket: the form in which it is compared, and the text behind the
closing bracket. A label of blanks alone is none. -/
def label? (across : List Char → Option (List Char)) (inTable : Bool) (text : List Char) :
    Option (List Char × List Char) :=
  match labelRest? across inTable (text.length + 1) 0 text with
  | none => none
  | some (label, rest) =>
    let label := dropEndWhile isAsciiBlank (label.dropWhile isAsciiBlank)
    if label.isEmpty then none else some (foldCase label, rest)

/-! ## Definitions -/

/-- A label, in the form in which it is compared, with what it is bound to. -/
structure Definition where
  label : List Char
  target : String
  title : String
  deriving Repr

/-- The first definition of a label counts. -/
def findDefinition? (definitions : List Definition) (label : List Char) : Option Definition :=
  definitions.find? (·.label == label)

/-- The blanks between the parts of a definition, which may hold one line end: the text behind them,
and whether there was a line end. Gives nothing if the definition cannot go on. -/
def definitionGap? (markers : List Marker) (text : List Char) : Option (List Char × Bool) :=
  let text := dropLineBlanks text
  match lineEnd? text with
  | none => some (text, false)
  | some next =>
    match continuation? markers next with
    | none => none
    | some c =>
      let text := dropLineBlanks c.rest
      if (lineEnd? text).isSome then none else some (text, true)

/-- The rest of a title up to its closing sign. A later line goes on behind its markers and
indentation. The first argument bounds the number of steps. -/
def titleRest? (markers : List Marker) (closing : Char) :
    Nat → List Char → Option (List Char × List Char)
  | 0, _ => none
  | _ + 1, [] => none
  | fuel + 1, '\\' :: c :: rest =>
    if isLineEnd c then
      (titleRest? markers closing fuel (c :: rest)).map fun (title, rest) => ('\\' :: title, rest)
    else
      (titleRest? markers closing fuel rest).map fun (title, rest) => ('\\' :: c :: title, rest)
  | fuel + 1, c :: rest =>
    if c = closing then some ([], rest)
    else if c = '(' && closing = ')' then none
    else if isLineEnd c then
      match continuation? markers (splitLine (c :: rest)).2.2 with
      | none => none
      | some next =>
        (titleRest? markers closing fuel next.skipAll.rest).map fun (title, rest) =>
          ('\n' :: title, rest)
    else (titleRest? markers closing fuel rest).map fun (title, rest) => (c :: title, rest)

/-- The sign that closes a title which begins with a given sign. -/
def titleClosing? (c : Char) : Option Char :=
  if c = '\x22' || c = '\x27' then some c else if c = '(' then some ')' else none

/-- The title of a definition as it is written, and the text behind it. -/
def definitionTitle? (markers : List Marker) (text : List Char) :
    Option (List Char × List Char) :=
  match text with
  | [] => none
  | c :: rest => (titleClosing? c).bind fun closing =>
      titleRest? markers closing (rest.length + 1) rest

/-- The target and title of a definition behind its colon, and the text behind them. A title that
goes wrong on a line of its own leaves a definition without title. -/
def definitionBody? (markers : List Marker) (text : List Char) :
    Option (List Char × List Char × List Char) :=
  match definitionGap? markers text with
  | none => none
  | some (text, _) =>
    match target? 1 text with
    | none => none
    | some (target, behind) =>
      if behind.length == text.length then none
      else
        match definitionGap? markers behind with
        | none => some (target, [], behind)
        | some (gap, newLine) =>
          if gap.length == behind.length && !newLine then none
          else
            let untitled := if newLine then some (target, [], behind) else none
            match definitionTitle? markers gap with
            | none => untitled
            | some (title, rest) =>
              if (blankLine? rest).isSome then some (target, title, rest) else untitled

/-- A definition at the start of a paragraph, and the text after its last line. -/
def definition? (markers : List Marker) (text : List Char) : Option (Definition × List Char) :=
  match text with
  | '[' :: rest =>
    let across := fun next => (continuation? markers next).map (·.rest)
    match label? across false rest with
    | some (label, ':' :: rest) =>
      (definitionBody? markers rest).map fun (target, title, rest) =>
        (⟨label, String.ofList (unescape false target), String.ofList (unescape false title)⟩,
          (blankLine? rest).getD rest)
    | _ => none
  | _ => none

end DocPress.Markdown
