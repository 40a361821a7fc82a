import DocPress.Markdown.Reference

/-!
# DocPress.Markdown.Inline.Span

Spans of running text that are found by their own ends: code between back quotes, links in angle
brackets, and the target of a link in parentheses.
-/

namespace DocPress.Markdown

open DocPress.Text

/-! ## Code -/

/-- Splits a text at the first run of exactly `n` back quotes. The first argument bounds the number
of runs. -/
def splitAtQuotes? (n : Nat) : Nat → List Char → Option (List Char × List Char)
  | 0, _ => none
  | fuel + 1, text =>
    let (before, behind) := text.span (· != '\x60')
    if behind.isEmpty then none
    else
      let (m, rest) := countRun '\x60' behind
      if m == n then some (before, rest)
      else
        (splitAtQuotes? n fuel rest).map fun (more, rest) =>
          (before ++ List.replicate m '\x60' ++ more, rest)

/-- The code of a span: a line end is a space, the markers of the next line are left out, and in a
table `\|` is a pipe. The first argument bounds the number of steps. -/
def codeText (markers : List Marker) (inTable : Bool) : Nat → List Char → List Char
  | 0, text => text
  | _ + 1, [] => []
  | fuel + 1, c :: rest =>
    if isLineEnd c then ' ' :: codeText markers inTable fuel (dropMarkers markers rest)
    else
      match inTable && c == '\\', rest with
      | true, '|' :: rest => '|' :: codeText markers inTable fuel rest
      | _, _ => c :: codeText markers inTable fuel rest

/-- Takes one space off both ends, if the text is more than spaces. -/
def stripSpacePair (text : List Char) : List Char :=
  if text.head? == some ' ' && text.getLast? == some ' ' && !text.all (· == ' ') then
    text.tail.dropLast
  else text

/-- A code span behind its opening run of `n` back quotes: the code and the text behind it. -/
def codeSpan? (markers : List Marker) (inTable : Bool) (n : Nat) (text : List Char) :
    Option (String × List Char) :=
  (splitAtQuotes? n (text.length + 1) text).map fun (code, rest) =>
    (String.ofList (stripSpacePair (codeText markers inTable (code.length + 1) code)), rest)

/-! ## Links in angle brackets -/

/-- An address behind a `<`: a scheme of 2 to 32 characters with a colon, then anything but blanks
and `<` up to the `>`. -/
def autolinkAddress? (text : List Char) : Option (List Char × List Char) :=
  match text with
  | [] => none
  | c :: _ =>
    if c.isAlpha then
      let scheme := text.takeWhile fun d => d.isAlphanum || d == '.' || d == '-' || d == '+'
      match text.drop scheme.length with
      | ':' :: rest =>
        if 2 ≤ scheme.length && scheme.length ≤ 32 then
          let path := rest.takeWhile fun d => !(d.toNat ≤ 0x20 || d == '<' || d == '>')
          match rest.drop path.length with
          | '>' :: rest => some (scheme ++ ':' :: path, rest)
          | _ => none
        else none
      | _ => none
    else none

/-- A character that may stand before the `@` of a mail address. -/
def isMailboxChar (c : Char) : Bool :=
  c.isAlphanum || ".!#$%&\x27*+/=?^_\x60\x7b|\x7d~-".toList.contains c

/-- The domain of a mail address: labels of at most 63 letters, digits and inner hyphens, with
points between them. The first argument bounds the number of labels. -/
def mailDomain? : Nat → List Char → Option (List Char × List Char)
  | 0, _ => none
  | fuel + 1, text =>
    let label := text.takeWhile fun c => c.isAlphanum || c == '-'
    if label.isEmpty || 63 < label.length || label.head? == some '-' ||
        label.getLast? == some '-' then none
    else
      match text.drop label.length with
      | '.' :: rest => (mailDomain? fuel rest).map fun (more, rest) => (label ++ '.' :: more, rest)
      | rest => some (label, rest)

/-- A mail address behind a `<`. -/
def autolinkMail? (text : List Char) : Option (List Char × List Char) :=
  let mailbox := text.takeWhile isMailboxChar
  match mailbox.isEmpty, text.drop mailbox.length with
  | false, '@' :: rest =>
    match mailDomain? (rest.length + 1) rest with
    | some (domain, '>' :: rest) => some (mailbox ++ '@' :: domain, rest)
    | _ => none
  | _, _ => none

/-- A link in angle brackets behind its `<`. -/
def autolink? (text : List Char) : Option (LinkKind × List Char × List Char) :=
  match autolinkAddress? text with
  | some (target, rest) => some (.address, target, rest)
  | none => (autolinkMail? text).map fun (target, rest) => (.mail, target, rest)

/-! ## Targets in parentheses -/

/-- Blanks with at most one line end among them, and the markers of the next line. -/
def dropGap (markers : List Marker) (text : List Char) : List Char :=
  let text := dropLineBlanks text
  match text with
  | [] => []
  | c :: _ =>
    if isLineEnd c then dropLineBlanks (dropMarkers markers (splitLine text).2.2) else text

/-- The rest of a title up to its closing sign, with escapes and references resolved. Its opening
sign must not occur in it. A later line goes on behind its markers and blanks. The first argument
bounds the number of steps. -/
def linkTitleRest? (markers : List Marker) (inTable : Bool) (opening closing : Char) :
    Nat → List Char → Option (List Char × List Char)
  | 0, _ => none
  | _ + 1, [] => none
  | fuel + 1, c :: rest =>
    let goOn (text : List Char) (rest : List Char) :=
      (linkTitleRest? markers inTable opening closing fuel rest).map fun (title, rest) =>
        (text ++ title, rest)
    if c = closing then some ([], rest)
    else if c = opening then none
    else if c = '\n' || (c = '\r' && rest.head? != some '\n') then
      goOn ['\n'] ((dropMarkers markers rest).dropWhile fun d => d == ' ' || d == '\t')
    else if c = '&' then
      match charReference? rest with
      | some (value, rest) => goOn value rest
      | none => goOn [c] rest
    else if c = '\\' then
      match inTable, rest with
      | true, '\\' :: '|' :: rest => goOn ['|'] rest
      | _, d :: behind => if isAsciiPunctuation d then goOn [d] behind else goOn [c] rest
      | _, [] => goOn [c] rest
    else goOn [c] rest

/-- A title with its signs, resolved, and the text behind it. -/
def linkTitle? (markers : List Marker) (inTable : Bool) (text : List Char) :
    Option (List Char × List Char) :=
  match text with
  | [] => none
  | c :: rest => (titleClosing? c).bind fun closing =>
      linkTitleRest? markers inTable c closing (rest.length + 1) rest

/-- A target, perhaps with a title, in parentheses; both are given resolved. -/
def parenthesizedTarget? (markers : List Marker) (inTable : Bool) (text : List Char) :
    Option (String × String × List Char) :=
  match text with
  | '(' :: rest =>
    match target? 5 (dropGap markers rest) with
    | none => none
    | some (target, rest) =>
      let rest := dropGap markers rest
      let (title, rest) := match linkTitle? markers inTable rest with
        | some (title, rest) => (title, dropGap markers rest)
        | none => ([], rest)
      match rest with
      | ')' :: rest =>
        some (String.ofList (unescape inTable target), String.ofList title, rest)
      | _ => none
  | _ => none

end DocPress.Markdown
