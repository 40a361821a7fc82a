import DocPress.Shell.Condition
import DocPress.Shell.Session

/-!
# DocPress.Shell.Builtin

Commands that a script need not look for: printing, reading, ending, and the state of the script.
-/

namespace DocPress.Shell

open DocPress.FileSystem DocPress.Program DocPress.Text

/-! ## Escapes -/

/-- Up to `n` octal digits: their value, and the text behind them. -/
def octalDigits : Nat → Nat → List Char → Nat × List Char
  | 0, value, text => (value, text)
  | _ + 1, value, [] => (value, [])
  | n + 1, value, c :: rest =>
    if '0' ≤ c ∧ c ≤ '7' then octalDigits n (value * 8 + (c.toNat - '0'.toNat)) rest
    else (value, c :: rest)

/-- The byte that a letter behind a backslash stands for. -/
def escapedByte? (c : Char) : Option UInt8 :=
  match c with
  | 'a' => some 7
  | 'b' => some 8
  | 'f' => some 12
  | 'n' => some 10
  | 'r' => some 13
  | 't' => some 9
  | 'v' => some 11
  | '\\' => some 92
  | _ => none

/-- An escape at the start of a text, behind its backslash: the bytes that it stands for and the text
behind it. `afterZero` says that a zero may stand in front of three octal digits. -/
def readEscape (afterZero : Bool) (text : List Char) : Bytes × List Char :=
  match text with
  | [] => ([92], [])
  | c :: rest =>
    match escapedByte? c with
    | some byte => ([byte], rest)
    | none =>
      if '0' ≤ c ∧ c ≤ '7' then
        let (value, rest) :=
          if afterZero && c = '0' then octalDigits 3 0 rest else octalDigits 3 0 (c :: rest)
        ([UInt8.ofNat value], rest)
      else ([92] ++ encode c.toString, rest)

/-- The bytes of a text with escapes, and whether it goes on behind them: the escape `c` ends all
output. The first argument bounds the length of the text. -/
def unescapeFrom : Nat → List Char → Bytes × Bool
  | 0, _ => ([], true)
  | _, [] => ([], true)
  | fuel + 1, c :: rest =>
    if c = '\\' then
      if rest.head? = some 'c' then ([], false)
      else
        let (bytes, rest) := readEscape true rest
        let (behind, goesOn) := unescapeFrom fuel rest
        (bytes ++ behind, goesOn)
    else
      let (behind, goesOn) := unescapeFrom fuel rest
      (encode c.toString ++ behind, goesOn)

/-- The bytes of a text with escapes. -/
def unescape (text : String) : Bytes × Bool :=
  unescapeFrom (text.length + 1) text.toList

/-! ## Printing -/

/-- What `echo` prints. -/
def echoText (arguments : List String) : Bytes :=
  let (line, words) := match arguments with
    | "-n" :: words => (false, words)
    | words => (true, words)
  let (bytes, goesOn) := unescape (" ".intercalate words)
  if goesOn && line then bytes ++ [10] else bytes

/-- A number in a given base. -/
def inBase (base n : Nat) : String :=
  String.ofList (Nat.toDigits base n)

/-- An argument as a number: its digits, or the code of the character behind a quote. -/
def numberOf (argument : String) : Int :=
  match argument.toList with
  | '\x27' :: c :: _ => c.toNat
  | '\x22' :: c :: _ => c.toNat
  | _ => (numberOf? argument).getD 0

/-- Pads bytes with blanks to a width. -/
def padTo (left : Bool) (width : Nat) (fill : UInt8) (bytes : Bytes) : Bytes :=
  let fillers := List.replicate (width - bytes.length)
  if left then bytes ++ fillers 32 else fillers fill ++ bytes

/-- What one conversion of a format prints for an argument, and whether the output goes on. -/
def convertArgument (kind : Char) (precision : Option Nat) (argument : String) : Bytes × Bool :=
  let n := numberOf argument
  match kind with
  | 's' =>
    let bytes := encode argument
    ((precision.map bytes.take).getD bytes, true)
  | 'b' => unescape argument
  | 'c' => ((encode argument).take 1, true)
  | 'x' => (encode (inBase 16 n.natAbs), true)
  | 'X' => (encode (inBase 16 n.natAbs).toUpper, true)
  | 'o' => (encode (inBase 8 n.natAbs), true)
  | _ => (encode (toString n), true)

/-- Prints a format once: the bytes, the arguments that are left, whether any conversion took one,
and whether the output goes on. The first argument bounds the length of the format. -/
def printOnce : Nat → List Char → List String → Bytes × List String × Bool × Bool
  | 0, _, arguments => ([], arguments, false, true)
  | _, [], arguments => ([], arguments, false, true)
  | fuel + 1, '\\' :: rest, arguments =>
    let (bytes, rest) := readEscape false rest
    let (behind, answer) := printOnce fuel rest arguments
    (bytes ++ behind, answer)
  | fuel + 1, '%' :: '%' :: rest, arguments =>
    let (behind, answer) := printOnce fuel rest arguments
    (37 :: behind, answer)
  | fuel + 1, '%' :: rest, arguments =>
    let flags := rest.takeWhile fun c => ['-', '+', ' ', '#', '0'].contains c
    let rest := rest.drop flags.length
    let width := rest.takeWhile Char.isDigit
    let rest := rest.drop width.length
    let (precision, rest) := match rest with
      | '.' :: rest =>
        let digits := rest.takeWhile Char.isDigit
        (some (((String.ofList digits).toNat?).getD 0), rest.drop digits.length)
      | _ => (none, rest)
    match rest with
    | [] => ([], arguments, false, true)
    | kind :: rest =>
      let (bytes, goesOn) := convertArgument kind precision (arguments.headD "")
      let fill : UInt8 := if flags.contains '0' && kind != 's' then 48 else 32
      let bytes := padTo (flags.contains '-') (((String.ofList width).toNat?).getD 0) fill bytes
      if goesOn then
        let (behind, left, _, goesOn) := printOnce fuel rest arguments.tail
        (bytes ++ behind, left, true, goesOn)
      else (bytes, arguments.tail, true, false)
  | fuel + 1, c :: rest, arguments =>
    let (behind, answer) := printOnce fuel rest arguments
    (encode c.toString ++ behind, answer)

/-- What `printf` prints: the format is used again as long as there are arguments for it. The first
argument bounds how often. -/
def printfText (format : List Char) : Nat → List String → Bytes
  | 0, _ => []
  | fuel + 1, arguments =>
    let (bytes, left, takes, goesOn) := printOnce (format.length + 1) format arguments
    if goesOn && takes && !left.isEmpty then bytes ++ printfText format fuel left else bytes

/-! ## Reading -/

/-- Gives each variable one word of a line; the last one gets what is left. -/
def assignWords : List String → List String → Act Unit
  | [], _ => return
  | [name], words => setVariable name (" ".intercalate words)
  | name :: names, words => do
    setVariable name (words.headD "")
    assignWords names words.tail

/-- Reads a line into variables. -/
def readLine (names : List String) : Act Unit := do
  let s ← get
  let line := s.input.takeWhile (· != 10)
  set { s with input := s.input.drop (line.length + 1) }
  let words := ((decodeLossy line).split s.separators.contains).toList.map (·.toString)
  assignWords (names.filter (· != "-r")) (words.filter (!·.isEmpty))
  setStatus (if line.length < s.input.length then 0 else 1)

/-! ## Ending -/

/-- The number of a signal. -/
def signalNumber? (name : String) : Option Nat :=
  match name.toNat? with
  | some n => some n
  | none =>
    (signalNames.idxOf? (if name.startsWith "SIG" then name else "SIG" ++ name)).map (· + 1)

/-- Sends a signal; only the script itself is there to get it. -/
def sendSignal (arguments : List String) : Act Unit := do
  let (name, targets) := match arguments with
    | "-s" :: name :: targets => (name, targets)
    | first :: targets =>
      if first.startsWith "-" then ((first.drop 1).toString, targets) else ("TERM", arguments)
    | [] => ("TERM", [])
  match signalNumber? name with
  | some 0 => setStatus 0
  | some number =>
    if targets.contains processNumber then throw (.signaled number) else setStatus 1
  | none => setStatus 2

/-- The status that a command gives for the end of a script or a function. -/
def endStatus (command : String) (arguments : List String) : Act Nat := do
  match arguments with
  | [] => return (← get).status
  | argument :: _ =>
    match argument.toNat? with
    | some n => return n % 256
    | none => giveUp (command ++ ": Illegal number: " ++ argument)

/-! ## The session -/

/-- Sets an option, or unsets it. -/
def setOption (on : Bool) (letter : Char) : Act Unit :=
  modify fun s =>
    let others := s.options.filter (· != letter)
    { s with options := if on then letter :: others else others }

/-- Sets options and arguments. -/
def setOptions : List String → Act Unit
  | [] => setStatus 0
  | "--" :: words => modify fun s => { s with arguments := words, status := 0 }
  | word :: rest => do
    match word.toList with
    | '-' :: letters =>
      letters.forM (setOption true)
      setOptions rest
    | '+' :: letters =>
      letters.forM (setOption false)
      setOptions rest
    | _ => modify fun s => { s with arguments := word :: rest, status := 0 }

/-- Sets the variables that have a value. -/
def setVariables (arguments : List String) : Act Unit :=
  arguments.forM fun argument =>
    match argument.splitOn "=" with
    | name :: value :: rest => setVariable name ("=".intercalate (value :: rest))
    | _ => return

/-- Goes to another directory. -/
def changeDirectory (arguments : List String) : Act Unit := do
  let s ← get
  let path := (arguments.head? <|> s.environment.lookup "HOME").getD "/"
  match s.files.resolve path with
  | .ok l =>
    if s.files.isDirectoryAt l then
      set { s with files := { s.files with current := l }, status := 0 }
    else complain ("cd: can't cd to " ++ path) 2
  | .error _ => complain ("cd: can't cd to " ++ path) 2

/-- Says what is run at the end. -/
def setTrap (arguments : List String) : Act Unit := do
  match arguments with
  | "-" :: _ => modify fun s => { s with atExit := none }
  | action :: conditions =>
    if conditions.contains "EXIT" || conditions.contains "0" then
      modify fun s => { s with atExit := some action }
  | [] => return
  setStatus 0

/-- Drops arguments. -/
def shiftArguments (arguments : List String) : Act Unit := do
  let n := (arguments.head?.bind (·.toNat?)).getD 1
  if (← get).arguments.length < n then giveUp "shift: can't shift that many"
  modify fun s => { s with arguments := s.arguments.drop n, status := 0 }

/-! ## All of them -/

/-- The names of the commands that need not be looked for. -/
def builtinNames : List String :=
  [":", "true", "false", "echo", "printf", "test", "[", "exit", "return", "kill", "read", "shift",
   "export", "readonly", "local", "unset", "set", "break", "continue", "cd", "pwd", "trap", "wait",
   "umask", "ulimit", "times", "hash", "alias", "eval", ".", "exec", "command", "type"]

/-- Decides a condition. -/
def runTest (name : String) (words : List String) : Act Unit := do
  match testWords (← get).files words with
  | .ok answer => setStatus (if answer then 0 else 1)
  | .error reason => complain (name ++ ": " ++ reason) 2

/-- The number of loops that a command is about. -/
def loopCount (arguments : List String) : Nat :=
  (arguments.head?.bind (·.toNat?)).getD 1

/-- Runs a command that need not be looked for and that runs no other one; tells whether there is one
of the name. -/
def runBuiltin (name : String) (arguments : List String) : Act Bool := do
  match name with
  | ":" | "true" | "wait" | "umask" | "ulimit" | "times" | "hash" | "alias" => setStatus 0
  | "false" => setStatus 1
  | "echo" =>
    printBytes (echoText arguments)
    setStatus 0
  | "printf" =>
    match if arguments.head? = some "--" then arguments.tail else arguments with
    | [] => complain "printf: usage: printf format [arg ...]" 2
    | format :: arguments =>
      printBytes (printfText format.toList (arguments.length + 1) arguments)
      setStatus 0
  | "test" => runTest name arguments
  | "[" =>
    if arguments.getLast? = some "]" then runTest name arguments.dropLast
    else complain "[: missing ]" 2
  | "exit" => throw (.exited (← endStatus name arguments))
  | "return" => throw (.returned (← endStatus name arguments))
  | "kill" => sendSignal arguments
  | "read" => readLine arguments
  | "shift" => shiftArguments arguments
  | "export" | "readonly" | "local" =>
    setVariables arguments
    setStatus 0
  | "unset" =>
    modify fun s =>
      { s with environment := s.environment.filter (!arguments.contains ·.1), status := 0 }
  | "set" => setOptions arguments
  | "break" => throw (.left (loopCount arguments))
  | "continue" => throw (.continued (loopCount arguments))
  | "cd" => changeDirectory arguments
  | "pwd" =>
    printText ("/" ++ "/".intercalate (← get).files.current ++ "\n")
    setStatus 0
  | "trap" => setTrap arguments
  | _ => return false
  return true

end DocPress.Shell
