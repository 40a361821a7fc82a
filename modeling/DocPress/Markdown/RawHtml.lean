import DocPress.Markdown.Line

/-!
# DocPress.Markdown.RawHtml

HTML that a Markdown document carries as it is.

1. An HTML block of the first kind opens with a comment, an instruction, a declaration, a CDATA
   section or one of four tags whose content is not markup, and lasts to the line that holds its
   closing text.
2. A block of the second kind opens with the tag of a block element, or with any one complete tag
   that is alone on its line, and lasts to the next blank line. A lone tag of no block element does
   not interrupt a paragraph.
3. Inside a line, a complete tag, comment, instruction, declaration or CDATA section is taken over.
   A tag may reach over line ends; the markers of enclosing blocks on its later lines are left out.
-/

namespace DocPress.Markdown

open DocPress.Text

/-! ## What opens a block -/

/-- Elements whose content is not markup. -/
def rawElements : List String :=
  ["pre", "style", "script", "textarea"]

/-- Elements whose tags open a block. -/
def blockElements : List String :=
  ["address", "article", "aside", "base", "basefont", "blockquote", "body", "caption", "center",
   "col", "colgroup", "dd", "details", "dialog", "dir", "div", "dl", "dt", "fieldset", "figcaption",
   "figure", "footer", "form", "frame", "frameset", "h1", "h2", "h3", "h4", "h5", "h6", "head",
   "header", "hr", "html", "iframe", "legend", "li", "link", "main", "menu", "menuitem", "nav",
   "noframes", "ol", "optgroup", "option", "p", "param", "search", "section", "summary", "table",
   "tbody", "td", "tfoot", "th", "thead", "title", "tr", "track", "ul"]

/-- The text begins with the name, in any case. -/
def startsWithName (name : String) (text : List Char) : Bool :=
  (text.take name.length).map Char.toLower == name.toList

/-- The element with raw content whose tag begins behind a `<`. -/
def rawElement? (text : List Char) : Option String :=
  rawElements.find? fun name =>
    startsWithName name text &&
      match text.drop name.length with
      | [] => true
      | c :: _ => isAsciiBlank c || c == '>'

/-- The text that closes a block of the first kind which begins behind a `<`. -/
def blockClosing? (text : List Char) : Option String :=
  match rawElement? text with
  | some name => some ("</" ++ name ++ ">")
  | none =>
    if "!--".toList.isPrefixOf text then some "-->"
    else if "?".toList.isPrefixOf text then some "?>"
    else if "![CDATA[".toList.isPrefixOf text then some "]]>"
    else
      match text with
      | '!' :: c :: _ => if c.isAlpha then some ">" else none
      | _ => none

/-- The tag of a block element begins behind a `<`. -/
def opensBlockElement (text : List Char) : Bool :=
  let text := match text with
    | '/' :: rest => rest
    | _ => text
  let name := text.takeWhile Char.isAlphanum
  blockElements.contains (String.ofList (name.map Char.toLower)) &&
    match text.drop name.length with
    | [] => true
    | '/' :: '>' :: _ => true
    | c :: _ => c == ' ' || c == '\t' || isLineEnd c || c == '>'

/-- A block of HTML that may interrupt a paragraph begins behind a `<`. -/
def opensFirmBlock (text : List Char) : Bool :=
  (blockClosing? text).isSome || opensBlockElement text

/-! ## Complete tags -/

/-- How far a tag has been read: what has been passed, last character first, and what is left. -/
structure TagCursor where
  passed : List Char
  rest : List Char

namespace TagCursor

/-- Passes the characters of a class. -/
def passWhile (p : Char → Bool) (t : TagCursor) : TagCursor :=
  let run := t.rest.takeWhile p
  ⟨run.reverse ++ t.passed, t.rest.drop run.length⟩

/-- Passes one given character. -/
def pass? (c : Char) (t : TagCursor) : Option TagCursor :=
  match t.rest with
  | d :: rest => if d = c then some ⟨d :: t.passed, rest⟩ else none
  | [] => none

/-- Passes a line end and the markers of the next line, where line ends are allowed at all. -/
def passLineEnd? (across : Option (List Marker)) (t : TagCursor) : Option TagCursor :=
  match across, t.rest with
  | some markers, '\r' :: '\n' :: rest =>
    some ⟨'\n' :: '\r' :: t.passed, dropMarkers markers rest⟩
  | some markers, c :: rest =>
    if isLineEnd c then some ⟨c :: t.passed, dropMarkers markers rest⟩ else none
  | _, _ => none

/-- Passes blanks and, where they are allowed, line ends. The first argument bounds the number of
lines. -/
def passBlanks? (across : Option (List Marker)) : Nat → TagCursor → Option TagCursor
  | 0, _ => none
  | fuel + 1, t =>
    let t := t.passWhile isLineBlank
    match t.rest with
    | c :: _ =>
      if isLineEnd c then (t.passLineEnd? across).bind (passBlanks? across fuel) else some t
    | [] => some t

/-- Passes the rest of a quoted value with its closing quote. -/
def passQuoted? (across : Option (List Marker)) (quote : Char) : Nat → TagCursor → Option TagCursor
  | 0, _ => none
  | fuel + 1, t =>
    match t.rest with
    | [] => none
    | c :: rest =>
      if c = quote then some ⟨c :: t.passed, rest⟩
      else if isLineEnd c then (t.passLineEnd? across).bind (passQuoted? across quote fuel)
      else passQuoted? across quote fuel ⟨c :: t.passed, rest⟩

/-- A character that an unquoted value may hold. -/
def isBareValueChar (c : Char) : Bool :=
  !(c == '\x27' || c == '\x22' || c == ' ' || c == '=' || c == '>' || c == '<' || c == '\x60' ||
    isLineEnd c)

/-- Passes the value of an attribute. -/
def passValue? (across : Option (List Marker)) (fuel : Nat) (t : TagCursor) : Option TagCursor :=
  match t.rest with
  | [] => none
  | c :: rest =>
    if c = '\x22' || c = '\x27' then passQuoted? across c fuel ⟨c :: t.passed, rest⟩
    else if isBareValueChar c then some (t.passWhile isBareValueChar)
    else none

/-- Passes an attribute: a name, and perhaps an equals sign and a value. -/
def passAttribute? (across : Option (List Marker)) (fuel : Nat) (t : TagCursor) :
    Option TagCursor :=
  match t.rest with
  | [] => none
  | c :: _ =>
    if c.isAlpha || c == '_' || c == ':' then
      let named := t.passWhile fun d => d.isAlphanum || d == '_' || d == '.' || d == ':' || d == '-'
      match passBlanks? across fuel named with
      | none => none
      | some behind =>
        match behind.pass? '=' with
        | none => some named
        | some equals => (passBlanks? across fuel equals).bind (passValue? across fuel)
    else none

/-- Passes the attributes of an opening tag, up to its end. The first argument bounds their
number. -/
def passAttributes? (across : Option (List Marker)) : Nat → TagCursor → Option TagCursor
  | 0, _ => none
  | fuel + 1, t =>
    match passBlanks? across (fuel + 1) t with
    | none => none
    | some behind =>
      match behind.rest with
      | [] => none
      | c :: _ =>
        if c = '/' || c = '>' then some behind
        else if behind.rest.length == t.rest.length then none
        else (passAttribute? across (fuel + 1) behind).bind (passAttributes? across fuel)

end TagCursor

/-- A complete tag behind a `<`. Gives the tag as it is taken over, with its `<`, and the text
behind it. `across` holds the markers of later lines, if the tag may reach over line ends. -/
def tag? (across : Option (List Marker)) (text : List Char) : Option (List Char × List Char) :=
  let start : TagCursor := ⟨['<'], text⟩
  let closing := start.pass? '/'
  let named := closing.getD start
  match named.rest with
  | [] => none
  | c :: _ =>
    if c.isAlpha then
      let named := named.passWhile fun d => d.isAlphanum || d == '-'
      let behind :=
        if closing.isSome then some (named.passWhile isLineBlank)
        else (TagCursor.passAttributes? across (text.length + 1) named).map fun t =>
          (t.pass? '/').getD t
      match behind with
      | none => none
      | some t => (t.pass? '>').map fun t => (t.passed.reverse, t.rest)
    else none

/-- A complete tag alone on its line, behind its `<`. -/
def isLoneTag (text : List Char) : Bool :=
  match tag? none text with
  | none => false
  | some (_, rest) => (blankLine? rest).isSome

/-! ## Inside a line -/

/-- Splits a text behind the first occurrence of `closing`. -/
def splitBehind? (closing : List Char) : List Char → Option (List Char × List Char)
  | [] => if closing.isEmpty then some ([], []) else none
  | c :: rest =>
    if closing.isPrefixOf (c :: rest) then some (closing, (c :: rest).drop closing.length)
    else (splitBehind? closing rest).map fun (before, after) => (c :: before, after)

/-- A CDATA section ends at its first closing bracket or not at all. -/
def cdata? (text : List Char) : Option (List Char × List Char) :=
  let body := text.takeWhile (· != ']')
  let (brackets, rest) := countRun ']' (text.drop body.length)
  match rest with
  | '>' :: rest =>
    if brackets == 0 then none else some (body ++ List.replicate brackets ']' ++ ['>'], rest)
  | _ => none

/-- Raw HTML inside a line, behind its `<`: the HTML with its `<`, and the text behind it. -/
def inlineHtml? (markers : List Marker) (text : List Char) : Option (List Char × List Char) :=
  match text with
  | '!' :: '-' :: '-' :: rest =>
    (splitBehind? "-->".toList ('-' :: '-' :: rest)).map fun (body, rest) =>
      ('<' :: '!' :: body, rest)
  | '!' :: '[' :: 'C' :: 'D' :: 'A' :: 'T' :: 'A' :: '[' :: rest =>
    (cdata? rest).map fun (body, rest) => ("<![CDATA[".toList ++ body, rest)
  | '!' :: c :: rest =>
    if c.isAlpha then
      (splitBehind? ['>'] rest).map fun (body, rest) => ('<' :: '!' :: c :: body, rest)
    else none
  | '?' :: rest =>
    (splitBehind? "?>".toList rest).map fun (body, rest) => ('<' :: '?' :: body, rest)
  | _ => tag? (some markers) text

end DocPress.Markdown
