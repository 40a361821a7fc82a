import DocPress.Shell.Source

/-!
# DocPress.Shell.Parser

Reads scripts, a line at a time: what stands in front of a line that cannot be read is run all the
same. The first argument of each parser bounds the length of what it reads.
-/

namespace DocPress.Shell

/-- What a script that is too long for its parser fails with. -/
def outOfFuel (s : Source) : Except Fault α :=
  .error ⟨s.line, "too long"⟩

/-- The sign behind a parameter's name in braces, as a modifier, and what stands behind the sign. -/
def readModifier? (text : List Char) : Option (Bool × Modifier × Nat) :=
  match text with
  | '%' :: '%' :: _ => some (false, .cutEnd true, 2)
  | '%' :: _ => some (false, .cutEnd false, 1)
  | '#' :: '#' :: _ => some (false, .cutStart true, 2)
  | '#' :: _ => some (false, .cutStart false, 1)
  | ':' :: c :: _ => (ofSign c).map fun m => (true, m, 2)
  | c :: _ => (ofSign c).map fun m => (false, m, 1)
  | [] => none
where
  ofSign : Char → Option Modifier
    | '-' => some .orElse
    | '=' => some .assign
    | '?' => some .require
    | '+' => some .instead
    | _ => none

/-- The name of a parameter at the start of a text, in braces. -/
def bracedName (text : List Char) : List Char :=
  match text with
  | [] => []
  | c :: _ =>
    if c.isDigit then text.takeWhile Char.isDigit
    else if isNameChar c then text.takeWhile isNameChar
    else if isSpecialParameter c then [c]
    else []

mutual

/-- Reads what stands behind a dollar sign. -/
def parseDollar (quoted : Bool) : Nat → Parser Part
  | 0, s => outOfFuel s
  | fuel + 1, s =>
    match s.rest with
    | '(' :: rest => do
      let expression := match rest with
        | '(' :: inner => expressionText 0 inner
        | _ => none
      match expression with
      | some (text, behind) =>
        let (word, _) ← parseQuoted '\x00' true fuel ⟨text ++ ['\x00'], s.line⟩
        .ok (.arithmetic word, ⟨behind, s.line⟩)
      | none =>
        let (body, s) ← parseList fuel s.next
        let s ← expectClosing s
        .ok (.substitution body quoted, s)
    | '\x7b' :: rest => parseBraces quoted fuel ⟨rest, s.line⟩
    | c :: rest =>
      if isSpecialParameter c || c.isDigit then .ok (.parameter c.toString quoted, s.next)
      else
        let name := (c :: rest).takeWhile isNameChar
        if name.isEmpty then .ok (.text ['$'] quoted, s)
        else .ok (.parameter (String.ofList name) quoted, s.skip name.length)
    | [] => .ok (.text ['$'] quoted, s)

/-- Reads a parameter in braces, behind the opening one. -/
def parseBraces (quoted : Bool) : Nat → Parser Part
  | 0, s => outOfFuel s
  | fuel + 1, s => do
    let counted := match s.rest with
      | '#' :: rest =>
        let name := bracedName rest
        if !name.isEmpty && (rest.drop name.length).head? == some '\x7d' then some name else none
      | _ => none
    match counted with
    | some name => .ok (.length (String.ofList name), s.skip (name.length + 2))
    | none =>
      let name := bracedName s.rest
      let s := s.skip name.length
      match s.rest.head? == some '\x7d' && !name.isEmpty, readModifier? s.rest with
      | true, _ => .ok (.parameter (String.ofList name) quoted, s.next)
      | false, some (orEmpty, modifier, length) =>
        if name.isEmpty then .error ⟨s.line, "Bad substitution"⟩
        let inner := match modifier with
          | .cutEnd _ | .cutStart _ => false
          | _ => quoted
        let (word, s) ← parseInBraces inner fuel (s.skip length)
        .ok (.modified (String.ofList name) orEmpty modifier word quoted, s)
      | false, none => .error ⟨s.line, "Bad substitution"⟩

/-- Reads the word in braces, up to the closing one and past it. -/
def parseInBraces (quoted : Bool) : Nat → Parser Word
  | 0, s => outOfFuel s
  | fuel + 1, s =>
    match s.rest with
    | [] => .error ⟨s.line, "Missing '\x7d'"⟩
    | '\x7d' :: _ => .ok ([], s.next)
    | '\\' :: '\n' :: _ => parseInBraces quoted fuel (s.skip 2)
    | '\\' :: c :: _ => do
      let special := c = '$' || c = '\x60' || c = '\x22' || c = '\\' || c = '\x7d'
      let (word, s) ← parseInBraces quoted fuel (s.skip 2)
      .ok (.text (if special || !quoted then [c] else ['\\', c]) true :: word, s)
    | '\x22' :: _ => do
      let (inside, s) ← parseQuoted '\x22' true fuel s.next
      let (word, s) ← parseInBraces quoted fuel s
      .ok (.text [] true :: inside ++ word, s)
    | '$' :: _ => do
      let (part, s) ← parseDollar quoted fuel s.next
      let (word, s) ← parseInBraces quoted fuel s
      .ok (part :: word, s)
    | '\x60' :: _ => do
      let (part, s) ← parseBackquotes quoted fuel s.next
      let (word, s) ← parseInBraces quoted fuel s
      .ok (part :: word, s)
    | c :: rest => do
      if c = '\x27' && !quoted then
        let inside := rest.takeWhile (· != '\x27')
        if inside.length = rest.length then unterminated s
        let (word, s) ← parseInBraces quoted fuel (s.skip (inside.length + 2))
        .ok (.text inside true :: word, s)
      else
        let (word, s) ← parseInBraces quoted fuel s.next
        .ok (.text [c] quoted :: word, s)

/-- Reads a command in backquotes, behind the opening one. -/
def parseBackquotes (quoted : Bool) : Nat → Parser Part
  | 0, s => outOfFuel s
  | fuel + 1, s =>
    match backquotedText s.rest with
    | none => .error ⟨s.line, "EOF in backquote substitution"⟩
    | some (text, behind) => do
      let (body, _) ← parseList fuel ⟨text, s.line⟩
      .ok (.substitution body quoted, ⟨behind, (s.skip (s.rest.length - behind.length)).line⟩)

/-- Reads the inside of a word in quotes, up to the closing character and past it. -/
def parseQuoted (close : Char) (quoted : Bool) : Nat → Parser Word
  | 0, s => outOfFuel s
  | fuel + 1, s =>
    match s.rest with
    | [] => unterminated s
    | '\\' :: '\n' :: _ => parseQuoted close quoted fuel (s.skip 2)
    | '\\' :: c :: _ => do
      let kept := if c = '$' || c = '\x60' || c = close || c = '\\' then [c] else ['\\', c]
      let (word, s) ← parseQuoted close quoted fuel (s.skip 2)
      .ok (.text kept true :: word, s)
    | '$' :: _ => do
      let (part, s) ← parseDollar quoted fuel s.next
      let (word, s) ← parseQuoted close quoted fuel s
      .ok (part :: word, s)
    | c :: _ => do
      if c = close then .ok ([], s.next)
      else if c = '\x60' then
        let (part, s) ← parseBackquotes quoted fuel s.next
        let (word, s) ← parseQuoted close quoted fuel s
        .ok (part :: word, s)
      else
        let (word, s) ← parseQuoted close quoted fuel s.next
        .ok (.text [c] quoted :: word, s)

/-- Reads a word. -/
def parseWord : Nat → Parser Word
  | 0, s => outOfFuel s
  | fuel + 1, s =>
    match s.rest with
    | [] => .ok ([], s)
    | '\\' :: '\n' :: _ => parseWord fuel (s.skip 2)
    | '\\' :: c :: _ => do
      let (word, s) ← parseWord fuel (s.skip 2)
      .ok (.text [c] true :: word, s)
    | '\x27' :: rest => do
      let inside := rest.takeWhile (· != '\x27')
      if inside.length = rest.length then unterminated s
      let (word, s) ← parseWord fuel (s.skip (inside.length + 2))
      .ok (.text inside true :: word, s)
    | '\x22' :: _ => do
      let (inside, s) ← parseQuoted '\x22' true fuel s.next
      let (word, s) ← parseWord fuel s
      match inside with
      | [.parameter "@" _] => .ok (inside ++ word, s)
      | _ => .ok (.text [] true :: inside ++ word, s)
    | '$' :: _ => do
      let (part, s) ← parseDollar false fuel s.next
      let (word, s) ← parseWord fuel s
      .ok (part :: word, s)
    | '\x60' :: _ => do
      let (part, s) ← parseBackquotes false fuel s.next
      let (word, s) ← parseWord fuel s
      .ok (part :: word, s)
    | c :: _ =>
      if isOperatorChar c then .ok ([], s)
      else do
        let (word, s) ← parseWord fuel s.next
        .ok (.text [c] false :: word, s)

/-- Reads words up to the end of the command. -/
def parseWords : Nat → Parser (List Word)
  | 0, s => outOfFuel s
  | fuel + 1, s => do
    let s := s.skipBlanks
    let (word, s) ← parseWord fuel s
    if word.isEmpty then .ok ([], s)
    else
      let (words, s) ← parseWords fuel s
      .ok (word :: words, s)

/-- Reads a call. Words are added to the command, and settings as long as it has no words. -/
def parseSimple (line : Nat) (settings : List (String × Word)) (words : List Word)
    (redirections : List Redirection) : Nat → Parser Command
  | 0, s => outOfFuel s
  | fuel + 1, s => do
    let s := s.skipBlanks
    match ← parseRedirection? fuel s with
    | (some redirection, s) =>
      parseSimple line settings words (redirections ++ [redirection]) fuel s
    | (none, s) =>
      let name := s.rest.takeWhile isNameChar
      let s' := s.skip name.length
      if words.isEmpty && isName name && s'.rest.head? == some '=' then
        let (value, s) ← parseWord fuel s'.next
        parseSimple line (settings ++ [(String.ofList name, value)]) words redirections fuel s
      else
        let (word, s) ← parseWord fuel s
        if !word.isEmpty then parseSimple line settings (words ++ [word]) redirections fuel s
        else if settings.isEmpty && words.isEmpty && redirections.isEmpty then unexpected s
        else .ok (.simple line settings words redirections, s)

/-- Reads a redirection, if one stands there. -/
def parseRedirection? : Nat → Parser (Option Redirection)
  | 0, s => outOfFuel s
  | fuel + 1, start => do
    let digits := start.rest.takeWhile Char.isDigit
    let s := start.skip digits.length
    let number (standard : Nat) := ((String.ofList digits).toNat?).getD standard
    let sign : Option (Nat × RedirectionKind × Nat) :=
      match s.rest with
      | '>' :: '>' :: _ => some (number 1, .append, 2)
      | '>' :: '&' :: _ => some (number 1, .duplicate, 2)
      | '>' :: '|' :: _ => some (number 1, .write, 2)
      | '>' :: _ => some (number 1, .write, 1)
      | '<' :: '<' :: _ => some (number 0, .here, 2)
      | '<' :: _ => some (number 0, .read, 1)
      | _ => none
    match sign with
    | none => .ok (none, start)
    | some (stream, .here, length) =>
      let (word, s) ← parseHere fuel (s.skip length)
      .ok (some (.mk stream .here word), s)
    | some (stream, kind, length) =>
      let s := (s.skip length).skipBlanks
      let (target, s) ← parseWord fuel s
      if target.isEmpty then unexpected s
      .ok (some (.mk stream kind target), s)

/-- Reads the word that ends a text in the script, and takes that text out of the lines behind. -/
def parseHere : Nat → Parser Word
  | 0, s => outOfFuel s
  | fuel + 1, s => do
    let indented := s.rest.head? == some '-'
    let s := (if indented then s.next else s).skipBlanks
    let raw := s.plainWord.toList
    let literal := raw.any fun c => c = '\x27' || c = '\x22' || c = '\\'
    let word := raw.filter fun c => c != '\x27' && c != '\x22' && c != '\\'
    let s := s.skip raw.length
    let line := s.rest.takeWhile (· != '\n')
    let below := (s.rest.drop line.length).tail
    let (text, behind) := hereLines word indented (below.length + 1) below
    let s := ⟨line ++ '\n' :: behind, s.line⟩
    if literal then .ok ([.text text true], s)
    else
      let (parts, _) ← parseQuoted '\x00' true fuel ⟨text ++ ['\x00'], s.line⟩
      .ok (parts, s)

/-- Reads the redirections behind a command that has an end of its own. -/
def parseRedirections : Nat → Parser (List Redirection)
  | 0, s => outOfFuel s
  | fuel + 1, s => do
    match ← parseRedirection? fuel s.skipBlanks with
    | (none, _) => .ok ([], s)
    | (some redirection, s) =>
      let (redirections, s) ← parseRedirections fuel s
      .ok (redirection :: redirections, s)

/-- Reads a command that has an end of its own, if one stands there. -/
def parseCompound? : Nat → Parser (Option Command)
  | 0, s => outOfFuel s
  | fuel + 1, s => do
    let word := s.plainWord
    let inner := s.skip word.length
    if s.rest.head? == some '(' then
      let (body, s) ← parseBody fuel s.next
      let s ← expectClosing s
      .ok (some (.subshell body), s)
    else if word = "\x7b" then
      let (body, s) ← parseBody fuel inner
      let s ← expectWord "\x7d" s
      .ok (some body, s)
    else if word = "if" then
      let (command, s) ← parseConditional fuel inner
      .ok (some command, s)
    else if word = "while" || word = "until" then
      let (condition, s) ← parseBody fuel inner
      let (body, s) ← parseLoopBody fuel s
      .ok (some (.loop (word = "while") condition body), s)
    else if word = "for" then
      let (command, s) ← parseForEach fuel inner
      .ok (some command, s)
    else if word = "case" then
      let (subject, s) ← parseWord fuel inner.skipBlanks
      let s ← expectWord "in" s
      let (arms, s) ← parseArms fuel s
      .ok (some (.select subject arms), s)
    else .ok (none, s)

/-- Reads a command. -/
def parseCommand : Nat → Parser Command
  | 0, s => outOfFuel s
  | fuel + 1, s => do
    let s := s.skipBlanks
    let word := s.plainWord
    let behind := (s.skip word.length).skipBlanks
    match isBareWord word, behind.rest with
    | true, '(' :: _ =>
      let s := behind.next.skipBlanks
      if s.rest.head? != some ')' then unexpectedFor ")" s
      if !isName word.toList then .error ⟨s.line, "Bad function name"⟩
      let (body, s) ← parseCommand fuel s.next.toCommand
      .ok (.define word body, s)
    | _, _ =>
      match ← parseCompound? fuel s with
      | (some body, behind) =>
        let (redirections, behind) ← parseRedirections fuel behind
        .ok (if redirections.isEmpty then body else .redirected s.line body redirections, behind)
      | (none, _) => parseSimple s.line [] [] [] fuel s

/-- Reads what stands behind `if` or `elif`. -/
def parseConditional : Nat → Parser Command
  | 0, s => outOfFuel s
  | fuel + 1, s => do
    let (condition, s) ← parseBody fuel s
    let s ← expectWord "then" s
    let (body, s) ← parseBody fuel s
    let s := s.toCommand
    match s.plainWord with
    | "elif" =>
      let (otherwise, s) ← parseConditional fuel (s.skip 4)
      .ok (.conditional condition body otherwise, s)
    | "else" =>
      let (otherwise, s) ← parseBody fuel (s.skip 4)
      let s ← expectWord "fi" s
      .ok (.conditional condition body otherwise, s)
    | _ =>
      let s ← expectWord "fi" s
      .ok (.conditional condition body .nothing, s)

/-- Reads the body of a loop. -/
def parseLoopBody : Nat → Parser Command
  | 0, s => outOfFuel s
  | fuel + 1, s => do
    let s := match s.skipBlanks.rest with
      | ';' :: _ => s.skipBlanks.next
      | _ => s
    let s ← expectWord "do" s
    let (body, s) ← parseBody fuel s
    let s ← expectWord "done" s
    .ok (body, s)

/-- Reads what stands behind `for`. -/
def parseForEach : Nat → Parser Command
  | 0, s => outOfFuel s
  | fuel + 1, s => do
    let s := s.skipBlanks
    let name := s.plainWord
    if !isName name.toList then .error ⟨s.line, "Bad for loop variable"⟩
    let s := s.skip name.length
    if s.toCommand.plainWord = "in" then
      let (items, s) ← parseWords fuel (s.toCommand.skip 2)
      let (body, s) ← parseLoopBody fuel s
      .ok (.forEach name (some items) body, s)
    else
      let (body, s) ← parseLoopBody fuel s
      .ok (.forEach name none body, s)

/-- Reads the patterns of one arm, up to the closing parenthesis and past it. -/
def parsePatterns : Nat → Parser (List Word)
  | 0, s => outOfFuel s
  | fuel + 1, s => do
    let (pattern, s) ← parseWord fuel s.skipBlanks
    let s := s.skipBlanks
    match s.rest with
    | '|' :: _ =>
      let (patterns, s) ← parsePatterns fuel s.next
      .ok (pattern :: patterns, s)
    | ')' :: _ => .ok ([pattern], s.next)
    | _ => unexpectedFor ")" s

/-- Reads arms, up to `esac` and past it. -/
def parseArms : Nat → Parser (List (List Word × Command))
  | 0, s => outOfFuel s
  | fuel + 1, s => do
    let s := s.toCommand
    if s.plainWord = "esac" then .ok ([], s.skip 4)
    else if s.rest.isEmpty then unexpectedFor "esac" s
    else
      let s := if s.rest.head? == some '(' then s.next else s
      let (patterns, s) ← parsePatterns fuel s
      let (body, s) ← parseList fuel s
      let s := s.toCommand
      let s ← match s.rest with
        | ';' :: ';' :: _ => .ok (s.skip 2)
        | _ => if s.plainWord = "esac" then .ok s else unexpectedFor ";;" s
      let (arms, s) ← parseArms fuel s
      .ok ((patterns, body) :: arms, s)

/-- Reads commands with pipes between them. -/
def parsePipeline : Nat → Parser Command
  | 0, s => outOfFuel s
  | fuel + 1, s => do
    let s := s.skipBlanks
    if s.plainWord = "!" then
      let (body, s) ← parsePipeline fuel s.next
      .ok (.negated body, s)
    else
      let (first, s) ← parseCommand fuel s
      let s := s.skipBlanks
      match s.rest with
      | '|' :: '|' :: _ => .ok (first, s)
      | '|' :: _ =>
        let (second, s) ← parsePipeline fuel s.next.toCommand
        .ok (.pipe first second, s)
      | _ => .ok (first, s)

/-- Reads pipelines joined by `&&` and `||`, behind a first one. -/
def parseJoined (first : Command) : Nat → Parser Command
  | 0, s => outOfFuel s
  | fuel + 1, s => do
    let s := s.skipBlanks
    match s.rest with
    | '&' :: '&' :: _ =>
      let (second, s) ← parsePipeline fuel (s.skip 2).toCommand
      parseJoined (.andThen first second) fuel s
    | '|' :: '|' :: _ =>
      let (second, s) ← parsePipeline fuel (s.skip 2).toCommand
      parseJoined (.orElse first second) fuel s
    | _ => .ok (first, s)

/-- Reads commands up to the end of a line. -/
def parseLine : Nat → Parser Command
  | 0, s => outOfFuel s
  | fuel + 1, s => do
    let (first, s) ← parsePipeline fuel s
    let (first, s) ← parseJoined first fuel s
    let s := s.skipBlanks
    let (first, s, separated) := match s.rest with
      | ';' :: ';' :: _ => (first, s, false)
      | ';' :: _ => (first, s.next.skipBlanks, true)
      | '&' :: _ => (.background first, s.next.skipBlanks, true)
      | _ => (first, s, false)
    if s.rest.head? == some '\n' || endsList s then .ok (first, s)
    else if !separated then unexpected s
    else
      let (rest, s) ← parseLine fuel s
      .ok (.sequence first rest, s)

/-- Reads a list of commands with at least one in it. -/
def parseBody : Nat → Parser Command
  | 0, s => outOfFuel s
  | fuel + 1, s =>
    if endsList s.toCommand then unexpected s.toCommand else parseList fuel s

/-- Reads a list of commands, up to what ends it. -/
def parseList : Nat → Parser Command
  | 0, s => outOfFuel s
  | fuel + 1, s => do
    let s := s.toCommand
    if endsList s then .ok (.nothing, s)
    else
      let (first, s) ← parseLine fuel s
      let (rest, s) ← parseList fuel s
      .ok (.sequence first rest, s)

end

/-- The lines of a script, up to the first one that cannot be read; the first argument bounds their
number. -/
def scriptLines (fuel : Nat) : Nat → Source → Command
  | 0, _ => .nothing
  | lines + 1, s =>
    let s := s.toCommand
    if s.rest.isEmpty then .nothing
    else if endsList s then .malformed s.line (tokenName s ++ " unexpected")
    else
      match parseLine fuel s with
      | .error fault => .malformed fault.line fault.reason
      | .ok (first, s) => .sequence first (scriptLines fuel lines s)

/-- The commands of a script. -/
def parseScript (text : List Char) : Command :=
  scriptLines (6 * text.length + 16) (text.length + 1) ⟨text, 1⟩

end DocPress.Shell
