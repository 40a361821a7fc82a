import DocPress.Shell.Arithmetic
import DocPress.Shell.Binary
import DocPress.Shell.Parser

/-!
# DocPress.Shell.Run

Runs scripts, and the few other programs that scripts need.

1. A file that begins with `#!` is a script for the interpreter named there; that must be a shell.
2. A program that is no script is known by the name that its file holds behind the mark of a binary.
3. Every other file is in no known format; a shell takes it for a script all the same.
-/

namespace DocPress.Shell

open DocPress.FileSystem DocPress.Program DocPress.Text

/-! ## Interpreters -/

/-- The shells that may be named behind `#!`. -/
def shellPaths : List String :=
  ["/bin/sh", "/usr/bin/sh", "/bin/dash", "/usr/bin/dash", "/bin/bash", "/usr/bin/bash"]

/-- The interpreter of a script, if the file is one. -/
def interpreter? (content : Bytes) : Option String :=
  if [35, 33].isPrefixOf content then
    let line := decodeLossy ((content.drop 2).takeWhile (· != 10))
    let words := (line.replace "\t" " ").splitOn " "
    match words.filter (!·.isEmpty) with
    | "/usr/bin/env" :: name :: _ => some ("/bin/" ++ name)
    | path :: _ => some path
    | [] => none
  else none

/-! ## Opening files -/

/-- What a command prints, without the line ends behind it. -/
def substituted (printed : Bytes) : String :=
  decodeLossy (printed.reverse.dropWhile (· == 10)).reverse

/-- Opens a file for writing. -/
def openFile (append : Bool) (path : String) : Act (Except IoError Target) := do
  let s ← get
  match s.files.writeLocation (Files.maxLinks + 1) s.files.current path with
  | .error e => return .error e
  | .ok l =>
    if l = nullLocation then return .ok .nowhere
    if !append || (s.files.get? l).isNone then
      match s.files.writeFile path [] with
      | .ok files => set { s with files }
      | .error e => return .error e
    return .ok (.file l)

/-- Why a file could not be opened, as a script says it. -/
def openFault (reading : Bool) (path : String) (e : IoError) : String :=
  let missing := e == .notFound || e == .notDirectory
  if reading then
    "cannot open " ++ path ++ ": " ++ if missing then "No such file" else faultText e
  else
    "cannot create " ++ path ++ ": " ++ if missing then "Directory nonexistent" else faultText e

/-! ## Calls -/

/-- Commands that end the script if they cannot be carried out, and whose settings stay. -/
def specialNames : List String :=
  [":", ".", "break", "continue", "eval", "exec", "exit", "export", "readonly", "return", "set",
   "shift", "times", "trap", "unset"]

/-- The value of a variable put back, also if there was none. -/
def restoreVariable (before : Environment) (name : String) (s : Session) : Session :=
  let others := s.environment.filter (·.1 != name)
  { s with environment := match before.lookup name with
      | some value => (name, value) :: others
      | none => others }

/-- Ends the script if a command has failed and nothing asks for its status. -/
def checkFailure : Act Unit := do
  let s ← get
  if s.options.contains 'e' && !s.isTested && s.status ≠ 0 then throw (.exited s.status)

/-- What a signal says of the program that it ends. -/
def signalText (number : Nat) : String :=
  match number with
  | 1 => "Hangup\n"
  | 3 => "Quit\n"
  | 4 => "Illegal instruction\n"
  | 6 => "Aborted\n"
  | 9 => "Killed\n"
  | 11 => "Segmentation fault\n"
  | 15 => "Terminated\n"
  | _ => ""

/-- Runs a program as a child of the script: a signal ends the child alone. -/
def asChild (body : Act Unit) : Act Unit :=
  tryCatch (isolated body) fun
    | .signaled number => do
      printError (signalText number)
      setStatus (128 + number)
    | stop => throw stop

/-- What a name stands for where it is called, as `command -v` and `type` tell it. -/
def describeCommand (s : Session) (name : String) : Option (String × String) :=
  if (s.functions.lookup name).isSome then some (name, name ++ " is a shell function")
  else if builtinNames.contains name then some (name, name ++ " is a shell builtin")
  else
    match resolveProgram s.environment s.files name with
    | .ok (path, _) => some (path, name ++ " is " ++ path)
    | .error _ => none

/-- A tilde in front of a path stands for the home directory. -/
def expandTilde (word : Word) : Word :=
  match word with
  | [.text ['~'] false] => [.parameter "HOME" true]
  | .text ['~'] false :: .text ['/'] quoted :: rest =>
    .parameter "HOME" true :: .text ['/'] quoted :: rest
  | _ => word

/-- Does what one turn of a loop does, which may leave the loop; tells whether the loop goes on. -/
def oneTurn (body : Act Bool) : Act Bool :=
  tryCatch body fun
    | .left loops => do
      if 1 < loops then throw (.left (loops - 1))
      setStatus 0
      return false
    | .continued loops => do
      if 1 < loops then throw (.continued (loops - 1))
      setStatus 0
      return true
    | stop => throw stop

/-- The input is taken from elsewhere. -/
def redirectsInput (redirections : List Redirection) : Bool :=
  redirections.any fun
    | .mk _ .read _ | .mk _ .here _ => true
    | _ => false

/-- The streams put back to what they were in an earlier state, behind redirections. -/
def restoreStreams (before : Session) (redirections : List Redirection) (s : Session) : Session :=
  { s with
    streams := before.streams
    input := if redirectsInput redirections then before.input else s.input }

mutual

/-- Runs a command; the first argument bounds how long. -/
def run : Nat → Command → Act Unit
  | 0, _ => throw (.exited 2)
  | fuel + 1, command =>
    match command with
    | .nothing => return
    | .simple line settings words redirections => do
      modify fun s => { s with line }
      runSimple fuel settings words redirections
      checkFailure
    | .redirected line body redirections => do
      modify fun s => { s with line }
      let before ← get
      restoring (restoreStreams before redirections) do
        if ← redirect fuel redirections then run fuel body
    | .sequence first second => do
      run fuel first
      run fuel second
    | .andThen first second => do
      tested (run fuel first)
      if (← get).status = 0 then run fuel second
    | .orElse first second => do
      tested (run fuel first)
      if (← get).status ≠ 0 then run fuel second
    | .negated body => do
      tested (run fuel body)
      setStatus (if (← get).status = 0 then 1 else 0)
    | .pipe first second => do
      let printed ← captured (run fuel first)
      let before := (← get).input
      modify fun s => { s with input := printed }
      isolated (run fuel second)
      modify fun s => { s with input := before }
      checkFailure
    | .subshell body => do
      isolated (run fuel body)
      checkFailure
    | .background body => do
      isolated (run fuel body)
      setStatus 0
    | .conditional condition body otherwise => do
      tested (run fuel condition)
      if (← get).status = 0 then run fuel body
      else
        setStatus 0
        run fuel otherwise
    | .loop expected condition body => runLoop fuel expected condition body 0
    | .forEach name items body => do
      let values ← match items with
        | some words => expandWords fuel words
        | none => pure (← get).arguments
      setStatus 0
      runEach fuel name body values
    | .select word arms => do
      let subject ← expandText fuel word
      setStatus 0
      runArms fuel subject arms
    | .define name body =>
      modify fun s =>
        { s with functions := (name, body) :: s.functions.filter (·.1 != name), status := 0 }
    | .malformed line reason => do
      modify fun s => { s with line }
      giveUp ("Syntax error: " ++ reason)

/-- Runs a loop. The last argument is the status if the body does not run again. -/
def runLoop : Nat → Bool → Command → Command → Nat → Act Unit
  | 0, _, _, _, _ => throw (.exited 2)
  | fuel + 1, expected, condition, body, status => do
    let goesOn ← oneTurn do
      tested (run fuel condition)
      if decide ((← get).status = 0) == expected then
        run fuel body
        return true
      else
        setStatus status
        return false
    if goesOn then runLoop fuel expected condition body (← get).status

/-- Runs the body of a loop for each value. -/
def runEach : Nat → String → Command → List String → Act Unit
  | 0, _, _, _ => throw (.exited 2)
  | _, _, _, [] => return
  | fuel + 1, name, body, value :: rest => do
    setVariable name value
    if ← oneTurn (do run fuel body; return true) then runEach fuel name body rest

/-- Runs the first arm with a pattern that fits. -/
def runArms : Nat → String → List (List Word × Command) → Act Unit
  | 0, _, _ => throw (.exited 2)
  | _, _, [] => return
  | fuel + 1, subject, (patterns, body) :: rest => do
    if ← anyFits fuel subject patterns then run fuel body
    else runArms fuel subject rest

/-- Some pattern fits. -/
def anyFits : Nat → String → List Word → Act Bool
  | 0, _, _ => throw (.exited 2)
  | _, _, [] => return false
  | fuel + 1, subject, pattern :: rest => do
    if fits (← expandPattern fuel pattern) subject then return true
    else anyFits fuel subject rest

/-- Makes a call with its redirections. -/
def runSimple : Nat → List (String × Word) → List Word → List Redirection → Act Unit
  | 0, _, _, _ => throw (.exited 2)
  | fuel + 1, settings, words, redirections => do
    let fields ← expandWords fuel words
    let before ← get
    let restore := if fields == ["exec"] then id else restoreStreams before redirections
    restoring restore do
      if ← redirect fuel redirections then runCall fuel settings fields
      else if specialNames.contains (fields.headD "") then throw (.exited 2)

/-- Sets variables and makes a call. -/
def runCall : Nat → List (String × Word) → List String → Act Unit
  | 0, _, _ => throw (.exited 2)
  | fuel + 1, settings, words => do
    let before := (← get).environment
    if words.isEmpty then setStatus 0
    for (name, word) in settings do
      setVariable name (← expandText fuel word)
    match words with
    | [] => return
    | name :: arguments =>
      let restore (s : Session) : Session :=
        if specialNames.contains name then s
        else settings.foldl (fun s (name, _) => restoreVariable before name s) s
      restoring restore do
        match (← get).functions.lookup name with
        | some body => runFunction fuel body arguments
        | none =>
          if !(← runBuiltin name arguments) then
            if !(← runInner fuel name arguments) then runProgram fuel name arguments

/-- Calls a function. -/
def runFunction : Nat → Command → List String → Act Unit
  | 0, _, _ => throw (.exited 2)
  | fuel + 1, body, arguments => do
    let before := (← get).arguments
    modify fun s => { s with arguments }
    restoring (fun s => { s with arguments := before }) <| tryCatch (run fuel body) fun
      | .returned code => setStatus code
      | stop => throw stop

/-- Runs a command that runs other ones; tells whether there is one of the name. -/
def runInner : Nat → String → List String → Act Bool
  | 0, _, _ => throw (.exited 2)
  | fuel + 1, name, arguments => do
    match name, arguments with
    | "eval", _ =>
      setStatus 0
      run fuel (parseScript (" ".intercalate arguments).toList)
    | ".", path :: _ =>
      match (← get).files.readFile path with
      | .ok content =>
        setStatus 0
        tryCatch (run fuel (parseScript (decodeLossy content).toList)) fun
          | .returned code => setStatus code
          | stop => throw stop
      | .error e => giveUp (".: " ++ openFault true path e)
    | "exec", [] => setStatus 0
    | "exec", program :: arguments =>
      let s ← get
      match resolveProgram s.environment s.files program with
      | .ok _ => runProgram fuel program arguments
      | .error e =>
        if e == .denied then complain ("exec: " ++ program ++ ": Permission denied") 126
        else complain ("exec: " ++ program ++ ": not found") 127
      throw (.exited (← get).status)
    | "command", "-v" :: names =>
      let s ← get
      setStatus 0
      for name in names do
        match describeCommand s name with
        | some (path, _) => printText (path ++ "\n")
        | none => setStatus 127
    | "command", name :: arguments =>
      if !(← runBuiltin name arguments) then
        if !(← runInner fuel name arguments) then runProgram fuel name arguments
    | "type", names =>
      let s ← get
      setStatus 0
      for name in names do
        match describeCommand s name with
        | some (_, text) => printText (text ++ "\n")
        | none =>
          printText (name ++ ": not found\n")
          setStatus 127
    | _, _ => return name == "command" || name == "."
    return true

/-- Looks a program up and runs it. -/
def runProgram : Nat → String → List String → Act Unit
  | 0, _, _ => throw (.exited 2)
  | fuel + 1, name, arguments => do
    let s ← get
    match resolveProgram s.environment s.files name with
    | .error e =>
      if e == .denied then complain (name ++ ": Permission denied") 126
      else complain (name ++ ": not found") 127
    | .ok (path, content) =>
      match interpreter? content, binaryName? content with
      | some shell, _ =>
        if shellPaths.contains shell then
          asChild (runScript fuel path arguments (decodeLossy content))
        else complain (name ++ ": not found") 127
      | none, some program =>
        match program, arguments with
        | "env", first :: rest => asChild do
          setVariables (arguments.takeWhile (·.contains '='))
          match (first :: rest).dropWhile (·.contains '=') with
          | [] => runBinary path program []
          | inner :: arguments => runProgram fuel inner arguments
        | "sh", _ | "dash", _ => asChild (runShell fuel path arguments)
        | _, _ => asChild (runBinary path program arguments)
      | none, none => asChild (runScript fuel path arguments (decodeLossy content))

/-- Runs the text of a script from the start. -/
def runScript : Nat → String → List String → String → Act Unit
  | 0, _, _, _ => throw (.exited 2)
  | fuel + 1, name, arguments, text => do
    modify fun s =>
      { Session.start s.files s.environment name arguments with
        streams := s.streams
        input := s.input
        output := s.output
        error := s.error }
    let body : Act Nat := do
      run fuel (parseScript text.toList)
      return (← get).status
    let code ← tryCatch body fun
      | .exited code | .returned code => pure code
      | .left _ | .continued _ => do return (← get).status
      | stop => throw stop
    setStatus code
    if let some action := (← get).atExit then
      modify fun s => { s with atExit := none }
      run fuel (parseScript action.toList)
    throw (.exited code)

/-- Runs a shell: a script that is an argument, one in a file, or one that it reads. -/
def runShell : Nat → String → List String → Act Unit
  | 0, _, _ => throw (.exited 2)
  | fuel + 1, path, arguments => do
    match arguments with
    | "-c" :: text :: name :: arguments => runScript fuel name arguments text
    | ["-c", text] => runScript fuel path [] text
    | [] =>
      let text := decodeLossy (← get).input
      modify fun s => { s with input := [] }
      runScript fuel path [] text
    | file :: arguments =>
      match (← get).files.readFile file with
      | .ok content => runScript fuel file arguments (decodeLossy content)
      | .error e =>
        modify fun s => { s with name := path, line := 0 }
        giveUp (openFault true file e)

/-- Redirects streams; tells whether all files could be opened. -/
def redirect : Nat → List Redirection → Act Bool
  | 0, _ => throw (.exited 2)
  | _, [] => return true
  | fuel + 1, .mk stream kind word :: rest => do
    let text ← expandText fuel word
    let goTo (target : Target) : Act Unit :=
      modify fun s => { s with streams := s.streams.redirect stream target }
    match kind with
    | .duplicate =>
      goTo ((text.toNat?.map (← get).streams.target).getD .nowhere)
      redirect fuel rest
    | .here =>
      modify fun s => { s with input := encode text }
      redirect fuel rest
    | .read =>
      match (← get).files.readFile text with
      | .ok content =>
        modify fun s => { s with input := content }
        redirect fuel rest
      | .error e =>
        complain (openFault true text e) 2
        return false
    | .write | .append =>
      match ← openFile (kind == .append) text with
      | .ok target =>
        goTo target
        redirect fuel rest
      | .error e =>
        complain (openFault false text e) 2
        return false

/-- The texts that words become: values are cut, and patterns stand for paths. -/
def expandWords : Nat → List Word → Act (List String)
  | 0, _ => throw (.exited 2)
  | _, [] => return []
  | fuel + 1, word :: rest => do
    let fields ← expandWord fuel true (expandTilde word) .empty
    let behind ← expandWords fuel rest
    let fs := (← get).files
    return fields.close.complete.flatMap (pathsOf fs) ++ behind

/-- The pattern that a word becomes. -/
def expandPattern : Nat → Word → Act Marked
  | 0, _ => throw (.exited 2)
  | fuel + 1, word => do
    return (← expandWord fuel false word .empty).current.getD []

/-- The single text that a word becomes. -/
def expandText : Nat → Word → Act String
  | 0, _ => throw (.exited 2)
  | fuel + 1, word => return fieldText (← expandPattern fuel word)

/-- The fields with a word behind them; `splits` says that values are cut where they are not
quoted. -/
def expandWord : Nat → Bool → Word → Fields → Act Fields
  | 0, _, _, _ => throw (.exited 2)
  | _, _, [], fields => return fields
  | fuel + 1, splits, part :: rest, fields => do
    let fields ← expandPart fuel splits part fields
    expandWord fuel splits rest fields

/-- The fields with a part of a word behind them. -/
def expandPart : Nat → Bool → Part → Fields → Act Fields
  | 0, _, _, _ => throw (.exited 2)
  | fuel + 1, splits, part, fields => do
    let s ← get
    let value (text : String) (quoted : Bool) : Fields :=
      if splits || quoted then fields.appendValue s.separators text quoted
      else fields.append (text.toList.map (·, false))
    match part with
    | .text chars quoted => return fields.append (chars.map (·, quoted))
    | .length name => return value (toString ((s.parameter? name).getD "").length) true
    | .parameter name quoted =>
      if splits && name = "@" then
        return fields.appendEach s.separators quoted s.arguments
      else if splits && name = "*" && !quoted then
        return fields.appendEach s.separators false s.arguments
      else if name = "*" then
        let separator := (s.separators.head?.map (·.toString)).getD ""
        return value (separator.intercalate s.arguments) quoted
      else
        let found := s.parameter? name
        if found.isNone && s.options.contains 'u' && name != "@" then
          giveUp (name ++ ": parameter not set")
        return value (found.getD "") quoted
    | .modified name orEmpty modifier word quoted =>
      expandModified fuel splits name orEmpty modifier word quoted fields
    | .substitution body quoted => do
      let printed ← captured (run fuel body)
      return value (substituted printed) quoted
    | .arithmetic word => do
      let text ← expandText fuel word
      match Arithmetic.value s.parameter? text with
      | .ok n => return value (toString n) true
      | .error e =>
        giveUp ("arithmetic expression: " ++ e.message ++ ": \"" ++ text ++ "\"")

/-- The fields with a parameter behind them that is joined to a word. -/
def expandModified : Nat → Bool → String → Bool → Modifier → Word → Bool → Fields → Act Fields
  | 0, _, _, _, _, _, _, _ => throw (.exited 2)
  | fuel + 1, splits, name, orEmpty, modifier, word, quoted, fields => do
    let s ← get
    let found := (s.parameter? name).filter fun text => !orEmpty || !text.isEmpty
    let value (text : String) : Fields :=
      if splits || quoted then fields.appendValue s.separators text quoted
      else fields.append (text.toList.map (·, false))
    match modifier, found with
    | .instead, some _ => expandWord fuel splits word fields
    | .instead, none => return if quoted then fields.append [] else fields
    | .cutEnd longest, _ =>
      let pattern ← expandPattern fuel word
      return value (cutEnd longest pattern ((s.parameter? name).getD ""))
    | .cutStart longest, _ =>
      let pattern ← expandPattern fuel word
      return value (cutStart longest pattern ((s.parameter? name).getD ""))
    | _, some text => return value text
    | .orElse, none => expandWord fuel splits word fields
    | .assign, none =>
      let text ← expandText fuel word
      setVariable name text
      return value text
    | .require, none =>
      let text ← expandText fuel word
      let standard := if orEmpty then "parameter not set or null" else "parameter not set"
      giveUp (name ++ ": " ++ if text.isEmpty then standard else text)

end

/-! ## Processes -/

/-- How many steps a program may take, one inside the other. -/
def maxSteps : Nat := 100000

/-- What a process leaves behind that ended in a state. -/
def finishedOf (status : Status) (s : Session) : Finished :=
  ⟨status, s.output.reverse, s.error.reverse⟩

/-- Runs something as a process of its own. -/
def asProcess (env : Environment) (name : String) (arguments : List String) (body : Act Unit) :
    Action ε Finished := do
  let fs ← get
  let (answer, s) := body.run.run (Session.start fs env name arguments)
  set { s.files with current := fs.current }
  match answer with
  | .error (.exited code) => return finishedOf (.exited code) s
  | .error (.signaled number) => return finishedOf (.signaled number) s
  | _ => return finishedOf (.exited s.status) s

/-- Runs the program in a file. -/
def execute (env : Environment) (path : String) (content : Bytes) (arguments : List String) :
    Action IoError Finished := do
  match interpreter? content, binaryName? content with
  | some shell, _ =>
    if shellPaths.contains shell then
      asProcess env path arguments (runScript maxSteps path arguments (decodeLossy content))
    else throw .notFound
  | none, some "sh" | none, some "dash" =>
    asProcess env path arguments (runShell maxSteps path arguments)
  | none, some name =>
    if binaryNames.contains name then asProcess env path arguments (runBinary path name arguments)
    else throw .badFormat
  | none, none => throw .badFormat

/-- The machine on which programs are scripts. -/
def machine (env : Environment) : Machine :=
  ⟨env, execute env⟩

end DocPress.Shell
