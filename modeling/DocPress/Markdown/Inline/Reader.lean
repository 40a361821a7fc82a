import DocPress.Markdown.Tree
import DocPress.Markdown.Reference
import DocPress.Markdown.Inline.Emphasis
import DocPress.Markdown.Inline.Span

/-!
# DocPress.Markdown.Inline.Reader

Reading running text from left to right.

1. Code spans, autolinks and raw HTML come before all else; what is in them has no other meaning.
2. A bracket that closes makes a link or an image of the text since the bracket that opened, if a
   target stands behind it in parentheses, or if a label behind it or the text itself is defined.
3. There are no links inside links: once a link is complete, brackets before it open no other one.
4. Emphasis is paired up last, within each link and outside of them.
-/

namespace DocPress.Markdown

open DocPress.Text

/-! ## The state of reading -/

/-- A bracket that is open. -/
structure OpenBracket where
  isImage : Bool
  /-- It can still become a link or an image. -/
  active : Bool
  /-- The text from behind the bracket on. -/
  source : List Char
  /-- What stands before it, last one first. -/
  before : List Piece

/-- The bracket as plain text. -/
def OpenBracket.toPiece (b : OpenBracket) : Piece :=
  .inline (.text (if b.isImage then "![" else "["))

/-- What has been read of a text. -/
structure InlineReader where
  /-- Plain characters at the end, last one first. -/
  plain : List Char
  /-- The pieces before them since the innermost open bracket, last one first. -/
  pieces : List Piece
  /-- The open brackets, innermost first. -/
  brackets : List OpenBracket
  /-- Closing brackets that end a label which was looked up already, each given by the length of the
  text behind it. -/
  spent : List Nat

namespace InlineReader

/-- Adds a plain character. -/
def addChar (c : Char) (r : InlineReader) : InlineReader :=
  { r with plain := c :: r.plain }

/-- Adds a plain text. -/
def addText (text : List Char) (r : InlineReader) : InlineReader :=
  { r with plain := text.reverse ++ r.plain }

/-- Makes a piece of the plain characters. -/
def flush (r : InlineReader) : InlineReader :=
  if r.plain.isEmpty then r
  else
    { r with plain := [],
             pieces := .inline (.text (String.ofList r.plain.reverse)) :: r.pieces }

/-- Adds a piece. -/
def add (piece : Piece) (r : InlineReader) : InlineReader :=
  let r := r.flush
  { r with pieces := piece :: r.pieces }

/-- Opens a bracket with the given text behind it. -/
def openBracket (isImage : Bool) (source : List Char) (r : InlineReader) : InlineReader :=
  let r := r.flush
  { r with pieces := [], brackets := ⟨isImage, true, source, r.pieces⟩ :: r.brackets }

/-- Takes the innermost bracket for plain text. -/
def dropBracket (b : OpenBracket) (r : InlineReader) : InlineReader :=
  { r with pieces := r.pieces ++ b.toPiece :: b.before }

/-- Makes a link or an image of the text since a bracket. -/
def completeBracket (b : OpenBracket) (target title : String) (r : InlineReader) : InlineReader :=
  let inner := resolveEmphasis r.pieces.reverse
  let span : Inline :=
    if b.isImage then .image target title inner else .link .address target title inner
  { r with
    pieces := .inline span :: b.before
    brackets := if b.isImage then r.brackets
      else r.brackets.map fun outer => { outer with active := outer.active && outer.isImage } }

/-- The whole text, with the brackets that are still open taken for plain text. -/
def toInlines (r : InlineReader) : List Inline :=
  let r := r.flush
  resolveEmphasis (r.brackets.foldl (fun pieces b => pieces ++ b.toPiece :: b.before)
    r.pieces).reverse

end InlineReader

/-! ## Closing brackets -/

/-- A text that is read, with what its meaning depends on. -/
structure InlineContext where
  definitions : List Definition
  markers : List Marker
  inTable : Bool

/-- The definition that the text of a bracket refers to, where `behind` is the text behind the
closing bracket. -/
def InlineContext.ownDefinition? (ctx : InlineContext) (b : OpenBracket) (behind : List Char) :
    Option Definition :=
  match label? (some ∘ dropMarkers ctx.markers) ctx.inTable b.source with
  | none => none
  | some (label, rest) =>
    if rest.length == behind.length then findDefinition? ctx.definitions label else none

/-- What stands behind a closing bracket. -/
inductive Behind where
  /-- A target, perhaps with a title, in parentheses. -/
  | target (target title : String) (rest : List Char)
  /-- A label in brackets. -/
  | label (label : List Char) (rest : List Char)
  /-- An empty pair of brackets, or nothing of all this: the text itself is the label. -/
  | itself (rest : List Char)

/-- What stands behind a closing bracket. A backslash before a label is passed over. -/
def InlineContext.behind (ctx : InlineContext) (text : List Char) : Behind :=
  match parenthesizedTarget? ctx.markers ctx.inTable text with
  | some (target, title, rest) => .target target title rest
  | none =>
    let next := match text with
      | '\\' :: '[' :: rest => '[' :: rest
      | _ => text
    match next with
    | '[' :: ']' :: rest => .itself rest
    | '[' :: rest =>
      match label? (some ∘ dropMarkers ctx.markers) ctx.inTable rest with
      | some (label, rest) => .label label rest
      | none => .itself text
    | _ => .itself text

/-- Reads on behind a closing bracket: gives the text that is left, and the character before it. -/
def InlineContext.closeBracket (ctx : InlineContext) (r : InlineReader) (text : List Char) :
    InlineReader × Char × List Char :=
  let r := r.flush
  match r.brackets with
  | [] => (r.addChar ']', ']', text)
  | b :: brackets =>
    let r := { r with brackets := brackets }
    let asText (r : InlineReader) := ((r.dropBracket b).addChar ']', ']', text)
    if !b.active then asText r
    else
      match ctx.behind text with
      | .target target title rest => (r.completeBracket b target title, ')', rest)
      | .label label rest =>
        match findDefinition? ctx.definitions label with
        | some d => (r.completeBracket b d.target d.title, ']', rest)
        | none => asText { r with spent := rest.length :: r.spent }
      | .itself rest =>
        if r.spent.contains text.length then asText r
        else
          match ctx.ownDefinition? b text with
          | some d => (r.completeBracket b d.target d.title, ']', rest)
          | none => asText r

/-! ## Reading -/

/-- Ends a line: two blanks before the end, or a backslash, make the break a hard one. -/
def InlineReader.endLine (hard : Bool) (r : InlineReader) : InlineReader :=
  let plain := r.plain.dropWhile isLineBlank
  if hard then r.add (.inline .hardBreak)
  else
    { r with plain := plain }.add
      (.inline (if plain.length + 2 ≤ r.plain.length then .hardBreak else .softBreak))

/-- The start of the next line, from a line end on. -/
def InlineContext.nextLine (ctx : InlineContext) (text : List Char) : List Char :=
  (dropMarkers ctx.markers ((lineEnd? text).getD text)).dropWhile fun c => c == ' ' || c == '\t'

/-- Reads a text on, from a place with the given character before it. The first argument bounds the
number of steps. -/
def InlineContext.read (ctx : InlineContext) :
    Nat → Option Char → InlineReader → List Char → InlineReader
  | 0, _, r, _ => r
  | _ + 1, _, r, [] => r
  | fuel + 1, before, r, c :: rest =>
    if isLineEnd c then ctx.read fuel none (r.endLine false) (ctx.nextLine (c :: rest))
    else
      match c with
      | '\\' =>
        match rest with
        | [] => r.addChar '\\'
        | d :: behind =>
          if isLineEnd d then ctx.read fuel none (r.endLine true) (ctx.nextLine rest)
          else if d = '\x60' then
            let (n, after) := countRun '\x60' rest
            match (if n == 1 then none else codeSpan? ctx.markers ctx.inTable (n - 1) after) with
            | some (code, after) =>
              ctx.read fuel (some d) ((r.addChar d).add (.inline (.code code))) after
            | none => ctx.read fuel (some d) (r.addText (List.replicate n d)) after
          else if ctx.inTable && "\\|".toList.isPrefixOf rest then
            ctx.read fuel (some '|') (r.addChar '|') behind.tail
          else if isAsciiPunctuation d then ctx.read fuel (some d) (r.addChar d) behind
          else ctx.read fuel (some c) (r.addChar c) rest
      | '\x60' =>
        let (n, after) := countRun c (c :: rest)
        match codeSpan? ctx.markers ctx.inTable n after with
        | some (code, after) => ctx.read fuel (some c) (r.add (.inline (.code code))) after
        | none => ctx.read fuel (some c) (r.addText (List.replicate n c)) after
      | '<' =>
        if rest.isEmpty || rest.head? == some '\\' then ctx.read fuel (some c) (r.addChar c) rest
        else
          match autolink? rest with
          | some (kind, target, after) =>
            let target := String.ofList target
            ctx.read fuel (some '>') (r.add (.inline (.link kind target "" [.text target]))) after
          | none =>
            match inlineHtml? ctx.markers rest with
            | some (html, after) =>
              ctx.read fuel (some '>') (r.add (.inline (.html (String.ofList html)))) after
            | none => ctx.read fuel (some c) (r.addChar c) rest
      | '&' =>
        match charReference? rest with
        | some (value, after) =>
          ctx.read fuel (some ';') (r.add (.inline (.text (String.ofList value)))) after
        | none => ctx.read fuel (some c) (r.addChar c) rest
      | '!' =>
        match rest with
        | '[' :: after => ctx.read fuel (some '[') (r.openBracket true after) after
        | _ => ctx.read fuel (some c) (r.addChar c) rest
      | '[' => ctx.read fuel (some c) (r.openBracket false rest) rest
      | ']' =>
        let (r, before, after) := ctx.closeBracket r rest
        ctx.read fuel (some before) r after
      | _ =>
        if c = '*' || c = '_' then
          let (n, after) := countRun c (c :: rest)
          ctx.read fuel (some c) (r.add (.run (.between c n before after.head?))) after
        else ctx.read fuel (some c) (r.addChar c) rest

/-- The running text of a block. -/
def Prose.inlines (definitions : List Definition) (p : Prose) : List Inline :=
  let ctx : InlineContext := ⟨definitions, p.markers, p.inTable⟩
  (ctx.read (p.text.length + 1) none ⟨[], [], [], []⟩ p.text).toInlines

end DocPress.Markdown
