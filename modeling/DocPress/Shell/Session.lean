import DocPress.Program.Basic
import DocPress.Shell.Command
import DocPress.Shell.Glob

/-!
# DocPress.Shell.Session

What a running script has: variables, arguments, functions, streams, and the files. Output is kept
last byte first while the script runs.
-/

namespace DocPress.Shell

open DocPress.FileSystem DocPress.Program DocPress.Text

/-! ## State -/

/-- Where a stream goes. -/
inductive Target where
  | output
  | error
  | file (location : Location)
  | nowhere
  deriving Repr, DecidableEq

/-- Where the output streams go, by their numbers. -/
abbrev Streams := List (Nat × Target)

/-- The streams of a new process. -/
def standardStreams : Streams :=
  [(1, .output), (2, .error)]

/-- Where a stream goes; one that is closed takes output nowhere. -/
def Streams.target (streams : Streams) (n : Nat) : Target :=
  (streams.lookup n).getD .nowhere

/-- The streams with one of them going somewhere else. -/
def Streams.redirect (streams : Streams) (n : Nat) (target : Target) : Streams :=
  (n, target) :: streams.filter (·.1 != n)

/-- The state of a script. -/
structure Session where
  files : Files
  environment : Environment
  /-- The name under which the script was called. -/
  name : String
  arguments : List String
  functions : List (String × Command)
  streams : Streams
  /-- The letters of the options that are set. -/
  options : List Char
  /-- A failure does not end the script, because it is asked for. -/
  isTested : Bool
  /-- What is run at the end. -/
  atExit : Option String
  /-- The line of the command that runs. -/
  line : Nat
  /-- The status of the last command. -/
  status : Nat
  input : Bytes
  output : Bytes
  error : Bytes

/-- A script that has just been started. -/
def Session.start (files : Files) (environment : Environment) (name : String)
    (arguments : List String) : Session where
  files
  environment
  name
  arguments
  functions := []
  streams := standardStreams
  options := []
  isTested := false
  atExit := none
  line := 0
  status := 0
  input := []
  output := []
  error := []

/-- Why a script, a function or a loop does not go on. -/
inductive Stop where
  | exited (code : Nat)
  | signaled (number : Nat)
  | returned (code : Nat)
  /-- So many loops are left. -/
  | left (loops : Nat)
  /-- So many loops are left, but the last one goes on. -/
  | continued (loops : Nat)

/-- Something that a script does. -/
abbrev Act (α : Type) := ExceptT Stop (StateM Session) α

/-! ## Output -/

/-- Writes bytes to a stream. A file that is gone takes them no more. -/
def writeTo (stream : Nat) (bytes : Bytes) : Act Unit :=
  modify fun s =>
    match s.streams.target stream with
    | .nowhere => s
    | .output => { s with output := bytes.reverse ++ s.output }
    | .error => { s with error := bytes.reverse ++ s.error }
    | .file l =>
      match s.files.get? l with
      | some (.file content executable) =>
        { s with files := s.files.set l (.file (content ++ bytes) executable) }
      | _ => s

/-- Prints bytes. -/
def printBytes (bytes : Bytes) : Act Unit :=
  writeTo 1 bytes

/-- Prints a text. -/
def printText (text : String) : Act Unit :=
  writeTo 1 (encode text)

/-- Writes a text to the stream for errors. -/
def printError (text : String) : Act Unit :=
  writeTo 2 (encode text)

/-- Sets the status. -/
def setStatus (code : Nat) : Act Unit :=
  modify fun s => { s with status := code }

/-- Says what is wrong in the line that runs, and sets the status. -/
def complain (text : String) (code : Nat) : Act Unit := do
  let s ← get
  printError (s.name ++ ": " ++ toString s.line ++ ": " ++ text ++ "\n")
  setStatus code

/-- Says what is wrong in the line that runs, and ends the script. -/
def giveUp (text : String) : Act α := do
  complain text 2
  throw (.exited 2)

/-! ## Parts of the state -/

/-- Does something and changes the state behind it, however that ends. -/
def restoring (restore : Session → Session) (body : Act α) : Act α := do
  let a ← tryCatch body fun stop => do
    modify restore
    throw stop
  modify restore
  return a

/-- Does something whose failure is asked for. -/
def tested (body : Act Unit) : Act Unit := do
  let before := (← get).isTested
  modify fun s => { s with isTested := true }
  restoring (fun s => { s with isTested := before }) body

/-- Does something in a shell of its own: what it leaves is its status, its output and the files. -/
def isolated (body : Act Unit) : Act Unit := do
  let before ← get
  let restore (s : Session) : Session :=
    { before with
      files := { s.files with current := before.files.current }
      status := s.status
      input := s.input
      output := s.output
      error := s.error }
  modify fun s => { s with atExit := none }
  restoring restore <| tryCatch body fun
    | .exited code | .returned code => setStatus code
    | .signaled number => throw (.signaled number)
    | .left _ | .continued _ => return

/-- Does something and takes what it prints. -/
def captured (body : Act Unit) : Act Bytes := do
  let before := (← get).output
  modify fun s => { s with output := [] }
  isolated do
    modify fun s => { s with streams := s.streams.redirect 1 .output }
    body
  let printed := (← get).output.reverse
  modify fun s => { s with output := before }
  return printed

/-! ## Variables -/

/-- The number of the process. -/
def processNumber : String := "4242"

/-- Sets a variable. -/
def setVariable (name value : String) : Act Unit :=
  modify fun s =>
    { s with environment := (name, value) :: s.environment.filter (·.1 != name) }

/-- The value of a parameter that has a single one. -/
def Session.parameter? (s : Session) (name : String) : Option String :=
  match name.toNat? with
  | some 0 => some s.name
  | some n => s.arguments[n - 1]?
  | none =>
    match name with
    | "#" => some (toString s.arguments.length)
    | "?" => some (toString s.status)
    | "$" => some processNumber
    | "*" | "@" => if s.arguments.isEmpty then none else some (" ".intercalate s.arguments)
    | "-" => some (String.ofList s.options)
    | "!" => none
    | _ => s.environment.lookup name

/-- The characters at which values are cut. -/
def Session.separators (s : Session) : List Char :=
  ((s.environment.lookup "IFS").getD " \t\n").toList

/-! ## Fields -/

/-- The fields that words become. `current` is the one that has begun; there may be none. -/
structure Fields where
  complete : List Marked
  current : Option Marked

namespace Fields

/-- No fields. -/
def empty : Fields := ⟨[], none⟩

/-- The fields with characters behind them. -/
def append (f : Fields) (chars : Marked) : Fields :=
  ⟨f.complete, some (f.current.getD [] ++ chars)⟩

/-- The fields where the current one has ended. -/
def close (f : Fields) : Fields :=
  match f.current with
  | some field => ⟨f.complete ++ [field], none⟩
  | none => f

/-- The fields where a separator ends the current one; one that is no blank ends a field even if
nothing is in it. -/
def separate (f : Fields) (c : Char) : Fields :=
  if c = ' ' || c = '\t' || c = '\n' then f.close else (f.append []).close

/-- The fields with a text behind them that is cut at separators. -/
def appendSplit (separators : List Char) (f : Fields) (text : List Char) : Fields :=
  text.foldl (fun f c => if separators.contains c then f.separate c else f.append [(c, false)]) f

/-- The fields with a value behind them: it is cut at separators unless it is quoted. -/
def appendValue (separators : List Char) (f : Fields) (value : String) (quoted : Bool) : Fields :=
  if quoted then f.append (value.toList.map (·, true))
  else f.appendSplit separators value.toList

/-- The fields with several values behind them, each in a field of its own. -/
def appendEach (separators : List Char) (f : Fields) (quoted : Bool) : List String → Fields
  | [] => f
  | [value] => f.appendValue separators value quoted
  | value :: rest =>
    (f.appendValue separators value quoted).close.appendEach separators quoted rest

end Fields

/-- The text of a field. -/
def fieldText (field : Marked) : String :=
  String.ofList (field.map (·.1))

end DocPress.Shell
