import DocPress.Shell.Command

/-!
# DocPress.Shell.Source

Places in scripts. A word ends at a blank or an operator that is not quoted; a reserved word counts
as one where a command may begin.
-/

namespace DocPress.Shell

/-- A place in a script. -/
structure Source where
  rest : List Char
  line : Nat

/-- Why a script cannot be read. -/
structure Fault where
  line : Nat
  reason : String

/-- A parser: it takes text away, or fails. -/
abbrev Parser (α : Type) := Source → Except Fault (α × Source)

/-- A character that ends a word. -/
def isOperatorChar (c : Char) : Bool :=
  c = ' ' || c = '\t' || c = '\n' || c = ';' || c = '&' || c = '|' || c = '<' || c = '>' ||
    c = '(' || c = ')'

/-- A character of a variable's name, behind the first. -/
def isNameChar (c : Char) : Bool :=
  c.isAlphanum || c = '_'

/-- A variable's name. -/
def isName (text : List Char) : Bool :=
  match text with
  | [] => false
  | c :: _ => !c.isDigit && text.all isNameChar

/-- A parameter that has a sign for a name. -/
def isSpecialParameter (c : Char) : Bool :=
  ['@', '*', '#', '?', '-', '$', '!'].contains c

namespace Source

/-- The source behind one character. -/
def next (s : Source) : Source :=
  match s.rest with
  | [] => s
  | c :: rest => ⟨rest, if c = '\n' then s.line + 1 else s.line⟩

/-- The source behind several characters. -/
def skip (n : Nat) (s : Source) : Source :=
  n.repeat next s

/-- The source behind blanks, line ends that are joined, and a comment. -/
def skipBlanks (s : Source) : Source :=
  go s.rest s.line
where
  go : List Char → Nat → Source
    | [], line => ⟨[], line⟩
    | '\\' :: '\n' :: rest, line => go rest (line + 1)
    | c :: rest, line =>
      if c = ' ' || c = '\t' then go rest line
      else if c = '#' then ⟨rest.dropWhile (· != '\n'), line⟩
      else ⟨c :: rest, line⟩

/-- The source behind blanks, comments and line ends; the first argument bounds their number. -/
def skipLines : Nat → Source → Source
  | 0, s => s
  | fuel + 1, s =>
    let s := s.skipBlanks
    match s.rest with
    | '\n' :: rest => skipLines fuel ⟨rest, s.line + 1⟩
    | _ => s

/-- The source where a command may begin. -/
def toCommand (s : Source) : Source :=
  s.skipLines (s.rest.length + 1)

/-- The word that stands at a place without any quoting. -/
def plainWord (s : Source) : String :=
  String.ofList (s.rest.takeWhile fun c => !isOperatorChar c)

end Source

/-! ## What must stand at a place -/

/-- Words at which a list of commands ends. -/
def closingWords : List String :=
  ["then", "else", "elif", "fi", "do", "done", "esac", "\x7d"]

/-- Words at which a command begins that has an end of its own. -/
def openingWords : List String :=
  ["if", "while", "until", "for", "case", "\x7b", "!"]

/-- What stands at a place, as a complaint names it. -/
def tokenName (s : Source) : String :=
  match s.rest with
  | [] => "end of file"
  | '\n' :: _ => "newline"
  | ';' :: ';' :: _ => "\";;\""
  | '&' :: '&' :: _ => "\"&&\""
  | '|' :: '|' :: _ => "\"||\""
  | c :: _ =>
    if c = '<' || c = '>' then "redirection"
    else if isOperatorChar c then "\"" ++ c.toString ++ "\""
    else if (closingWords ++ openingWords).contains s.plainWord then "\"" ++ s.plainWord ++ "\""
    else "word"

/-- A word that is taken as it stands: nothing in it is quoted, replaced or set. -/
def isBareWord (word : String) : Bool :=
  !word.isEmpty && !openingWords.contains word &&
    word.toList.all fun c => !(['$', '\x60', '\x22', '\x27', '\\', '='].contains c)

/-- What stands at a place must not stand there. -/
def unexpected (s : Source) : Except Fault α :=
  .error ⟨s.line, tokenName s ++ " unexpected"⟩

/-- Something else must stand at a place. -/
def unexpectedFor (expected : String) (s : Source) : Except Fault α :=
  .error ⟨s.line, tokenName s ++ " unexpected (expecting \"" ++ expected ++ "\")"⟩

/-- The source behind a word that must stand there, perhaps after line ends. -/
def expectWord (word : String) (s : Source) : Except Fault Source :=
  let s := s.toCommand
  if s.plainWord = word then .ok (s.skip word.length) else unexpectedFor word s

/-- The source behind a closing parenthesis that must stand there. -/
def expectClosing (s : Source) : Except Fault Source :=
  let s := s.toCommand
  match s.rest with
  | ')' :: _ => .ok s.next
  | _ => unexpectedFor ")" s

/-- A quotation does not end. -/
def unterminated (s : Source) : Except Fault α :=
  .error ⟨(s.skip s.rest.length).line, "Unterminated quoted string"⟩

/-- A list of commands ends at a place. -/
def endsList (s : Source) : Bool :=
  match s.rest with
  | [] | ')' :: _ | ';' :: ';' :: _ => true
  | _ => closingWords.contains s.plainWord

/-! ## Stretches of text -/

/-- The text up to the two parentheses that close an expression, and the text behind them. The number
is that of the parentheses that are open inside. -/
def expressionText : Nat → List Char → Option (List Char × List Char)
  | _, [] => none
  | 0, ')' :: rest =>
    match rest with
    | ')' :: behind => some ([], behind)
    | _ => none
  | n + 1, ')' :: rest => (expressionText n rest).map fun (text, behind) => (')' :: text, behind)
  | n, '(' :: rest => (expressionText (n + 1) rest).map fun (text, behind) => ('(' :: text, behind)
  | n, c :: rest => (expressionText n rest).map fun (text, behind) => (c :: text, behind)

/-- The text up to the backquote that closes it, and the text behind that; a backslash is for the
text inside where it stands before one of three signs. -/
def backquotedText : List Char → Option (List Char × List Char)
  | [] => none
  | '\x60' :: rest => some ([], rest)
  | '\\' :: c :: rest =>
    (backquotedText rest).map fun (text, behind) =>
      (if c = '\x60' || c = '\\' || c = '$' then c :: text else '\\' :: c :: text, behind)
  | c :: rest => (backquotedText rest).map fun (text, behind) => (c :: text, behind)

/-- The lines up to one that is the given word alone, and the text behind that one; with `indented`,
tabs in front of lines do not count. The first argument bounds the number of lines. -/
def hereLines (word : List Char) (indented : Bool) : Nat → List Char → List Char × List Char
  | 0, text => ([], text)
  | _, [] => ([], [])
  | fuel + 1, text =>
    let whole := text.takeWhile (· != '\n')
    let line := if indented then whole.dropWhile (· = '\t') else whole
    let behind := (text.drop whole.length).tail
    if line = word then ([], behind)
    else
      let (lines, behind) := hereLines word indented fuel behind
      (line ++ '\n' :: lines, behind)

end DocPress.Shell
