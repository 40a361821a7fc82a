import DocPress.Shell.Builtin

/-!
# DocPress.Shell.Binary

The few programs besides the shell that scripts call. Each one is known by the name that its file
holds behind the mark of a binary.
-/

namespace DocPress.Shell

open DocPress.FileSystem DocPress.Program DocPress.Text

/-! ## Files of programs -/

/-- The mark at the start of a binary. -/
def binaryMark : Bytes := [127, 69, 76, 70]

/-- The file of a program that is no script. -/
def binary (name : String) : Bytes :=
  binaryMark ++ encode name

/-- The name of a program that is no script. -/
def binaryName? (content : Bytes) : Option String :=
  if binaryMark.isPrefixOf content then decode? (content.drop binaryMark.length) else none

/-- The text of an error of the file system. -/
def faultText : IoError → String
  | .system error => error.text
  | .other text => text

/-! ## Arguments -/

/-- An argument that is an option. -/
def isOption (argument : String) : Bool :=
  argument.startsWith "-" && 1 < argument.length

/-- The letters of all options. -/
def optionLetters (arguments : List String) : List Char :=
  (arguments.filter isOption).flatMap fun a => (a.drop 1).toString.toList

/-- The arguments that are no options. -/
def operandsOf (arguments : List String) : List String :=
  arguments.filter (!isOption ·)

/-! ## Files -/

/-- Does something to the files for a program, which complains if it fails. -/
def fileStep (complaint path : String) (step : Files → Except IoError Files) : Act Unit := do
  match step (← get).files with
  | .ok files => modify fun s => { s with files }
  | .error e =>
    printError (complaint ++ " '" ++ path ++ "': " ++ faultText e ++ "\n")
    setStatus 1

/-- Removes what a path leads to, with all that is in it. -/
def removeTree (path : String) (fs : Files) : Except IoError Files := do
  match ← fs.place path with
  | ⟨directory, some name, _⟩ =>
    if (fs.get? (directory ++ [name])).isNone then .error .notFound
    else .ok (fs.eraseTree (directory ++ [name]))
  | _ => .error .isDirectory

/-- Makes a link. -/
def makeLink (target path : String) (fs : Files) : Except IoError Files := do
  match ← fs.place path with
  | ⟨directory, some name, _⟩ =>
    if (fs.get? (directory ++ [name])).isSome then .error .alreadyExists
    else .ok (fs.set (directory ++ [name]) (.link target))
  | _ => .error .alreadyExists

/-- Says whether a file may be executed. -/
def setExecutable (executable : Bool) (path : String) (fs : Files) : Except IoError Files := do
  let l ← fs.resolve path
  match fs.get? l with
  | some (.file content _) => .ok (fs.set l (.file content executable))
  | some _ => .ok fs
  | none => .error .notFound

/-- The path of a copy: a directory gets it under its own name. -/
def copyTarget (fs : Files) (source target : String) : String :=
  if fs.isDirectory target then joinPath target ((source.splitOn "/").getLast?.getD source)
  else target

/-- Copies a file. -/
def copyFile (program source target : String) : Act Unit := do
  let fs := (← get).files
  match fs.readFile source with
  | .ok content =>
    let target := copyTarget fs source target
    fileStep (program ++ ": cannot create regular file") target (Files.writeFile target content)
  | .error e =>
    printError (program ++ ": cannot stat '" ++ source ++ "': " ++ faultText e ++ "\n")
    setStatus 1

/-- Removes files. -/
def removeFiles (program : String) (arguments : List String) : Act Unit := do
  let options := optionLetters arguments
  let wholly := options.contains 'r' || options.contains 'R'
  for path in operandsOf arguments do
    if !options.contains 'f' || (((← get).files.place path).toBool) then
      let step := if wholly then removeTree path else Files.removeFile path
      match step (← get).files with
      | .ok files => modify fun s => { s with files }
      | .error e =>
        if !(options.contains 'f' && e == .notFound) then
          fileStep (program ++ ": cannot remove") path step

/-- Makes directories. -/
def makeDirectories (program : String) (arguments : List String) : Act Unit := do
  for path in operandsOf arguments do
    if (optionLetters arguments).contains 'p' then
      let (_, files) := (ensureDirectories path).run.run (← get).files
      modify fun s => { s with files }
    else fileStep (program ++ ": cannot create directory") path (Files.makeDirectory path)

/-! ## Texts -/

/-- What a program reads: its files, or its input if it has none. -/
def contentsOf (program : String) (paths : List String) : Act Bytes := do
  if paths.isEmpty then
    let input := (← get).input
    modify fun s => { s with input := [] }
    return input
  let mut contents := []
  for path in paths do
    match (← get).files.readFile path with
    | .ok content => contents := contents ++ content
    | .error e =>
      printError (program ++ ": " ++ path ++ ": " ++ faultText e ++ "\n")
      setStatus 1
  return contents

/-- Bytes as lines, each with its end. -/
def byteLines (bytes : Bytes) : List Bytes :=
  bytes.foldr
    (fun b lines =>
      if b = 10 then [10] :: lines
      else
        match lines with
        | [] => [[b]]
        | line :: rest => if line = [10] || !line.isEmpty then (b :: line) :: rest else [b] :: lines)
    []

/-- How much of its input a program keeps: the number, whether it counts bytes, and the files. -/
def amountOf : List String → Nat × Bool × List String
  | "-n" :: n :: rest => (n.toNat?.getD 10, false, rest)
  | "-c" :: n :: rest => (n.toNat?.getD 10, true, rest)
  | first :: rest =>
    if first.startsWith "-n" then (((first.drop 2).toString.toNat?).getD 10, false, rest)
    else if first.startsWith "-c" then (((first.drop 2).toString.toNat?).getD 10, true, rest)
    else if isOption first then (((first.drop 1).toString.toNat?).getD 10, false, rest)
    else (10, false, first :: rest)
  | [] => (10, false, [])

/-- Prints the start or the end of what a program reads. -/
def printPart (program : String) (atEnd : Bool) (arguments : List String) : Act Unit := do
  let (n, inBytes, paths) := amountOf arguments
  let bytes ← contentsOf program paths
  let kept (parts : List Bytes) : List Bytes :=
    if atEnd then parts.drop (parts.length - n) else parts.take n
  printBytes (if inBytes then (if atEnd then bytes.drop (bytes.length - n) else bytes.take n)
    else (kept (byteLines bytes)).flatten)

/-- Prints how many bytes or lines a program reads. -/
def printCount (program : String) (arguments : List String) : Act Unit := do
  let paths := operandsOf arguments
  let bytes ← contentsOf program paths
  let count := if (optionLetters arguments).contains 'l' then bytes.count 10 else bytes.length
  printText (" ".intercalate (toString count :: paths) ++ "\n")

/-- The characters that a set for `tr` stands for; the first argument bounds its length. -/
def spreadSet : Nat → List Char → List Char
  | 0, _ => []
  | _, [] => []
  | fuel + 1, '\\' :: c :: rest =>
    (((escapedByte? c).map fun b => Char.ofNat b.toNat).getD c) :: spreadSet fuel rest
  | fuel + 1, c :: '-' :: d :: rest =>
    ((List.range (d.toNat + 1 - c.toNat)).map fun i => Char.ofNat (c.toNat + i)) ++
      spreadSet fuel rest
  | fuel + 1, c :: rest => c :: spreadSet fuel rest

/-- Replaces characters by those at the same place of another set, or removes them. -/
def mapCharacters (arguments : List String) : Act Unit := do
  let input ← contentsOf "tr" []
  let sets := (operandsOf arguments).map fun set => spreadSet (set.length + 1) set.toList
  let source := sets.headD []
  let removes := (optionLetters arguments).contains 'd'
  let target := (sets[1]?).getD []
  let text := (decodeLossy input).toList.filterMap fun c =>
    match source.idxOf? c with
    | none => some c
    | some i => if removes then none else (target[i]? <|> target.getLast?)
  printText (String.ofList text)

/-- Prints the names in a directory. -/
def printNames (arguments : List String) : Act Unit := do
  let fs := (← get).files
  let path := (operandsOf arguments).headD "."
  match fs.resolve path with
  | .ok l => (fittingNames fs l [('*', false)]).forM fun name => printText (name ++ "\n")
  | .error e =>
    printError ("ls: cannot access '" ++ path ++ "': " ++ faultText e ++ "\n")
    setStatus 2

/-- Prints the lines that have a text in them. -/
def printMatches (arguments : List String) : Act Unit := do
  let options := optionLetters arguments
  match operandsOf arguments with
  | [] => setStatus 2
  | text :: paths =>
    let lines := byteLines (← contentsOf "grep" paths)
    let found := lines.filter fun line =>
      ((decodeLossy line).contains text) != options.contains 'v'
    if options.contains 'c' then printText (toString found.length ++ "\n")
    else if !options.contains 'q' then found.forM printBytes
    setStatus (if found.isEmpty then 1 else 0)

/-! ## All of them -/

/-- The names of the programs. -/
def binaryNames : List String :=
  ["sh", "dash", "cat", "rm", "mkdir", "touch", "cp", "mv", "ln", "true", "false", "echo", "printf",
   "test", "[", "sleep", "head", "tail", "wc", "tr", "ls", "grep", "env", "chmod", "kill", "pwd",
   "sync", "basename", "dirname", "tee", "seq"]

/-- The file that takes all output and keeps none of it. -/
def nullLocation : Location :=
  ["dev", "null"]

/-- What scripts rely on to be there: the programs, each at its two usual places. -/
def standardEntries : List (Location × Entry) :=
  let places : List Location := [["bin"], ["usr", "bin"]]
  let programs := places.flatMap fun place =>
    binaryNames.map fun name => (place ++ [name], Entry.file (binary name) true)
  (["usr"] :: ["dev"] :: places).map (·, Entry.directory) ++
    (nullLocation, Entry.file [] false) :: programs

/-- Runs a program that is no script, called by a path. -/
def runBinary (path name : String) (arguments : List String) : Act Unit := do
  setStatus 0
  match name, operandsOf arguments with
  | "cat", _ => printBytes (← contentsOf path (operandsOf arguments |>.filter (· != "-")))
  | "rm", _ => removeFiles path arguments
  | "mkdir", _ => makeDirectories path arguments
  | "touch", operands =>
    for file in operands do
      if !(← get).files.pathExists file then
        fileStep (path ++ ": cannot touch") file (Files.writeFile file [])
  | "cp", [source, target] => copyFile path source target
  | "mv", [source, target] =>
    let target := copyTarget (← get).files source target
    fileStep (path ++ ": cannot move") source (Files.renameFile source target)
  | "ln", [target, file] =>
    if (optionLetters arguments).contains 'f' then
      removeFiles path ["-f", file]
    fileStep (path ++ ": failed to create symbolic link") file (makeLink target file)
  | "head", _ => printPart path false arguments
  | "tail", _ => printPart path true arguments
  | "wc", _ => printCount path arguments
  | "tr", _ => mapCharacters arguments
  | "ls", _ => printNames arguments
  | "grep", _ => printMatches arguments
  | "tee", operands =>
    let input ← contentsOf path []
    printBytes input
    for file in operands do
      fileStep path file (Files.writeFile file input)
  | "basename", operand :: _ =>
    printText (((operand.splitOn "/").filter (!·.isEmpty)).getLast?.getD "/" ++ "\n")
  | "dirname", operand :: _ => printText ((parent? operand).getD "." ++ "\n")
  | "env", [] =>
    (← get).environment.reverse.forM fun (name, value) =>
      printText (name ++ "=" ++ value ++ "\n")
  | "chmod", mode :: operands =>
    let executable := mode.endsWith "+x" || mode.any fun c => c = '1' || c = '5' || c = '7'
    operands.forM fun file => fileStep (path ++ ": cannot access") file (setExecutable executable file)
  | "seq", [n] =>
    (List.range ((n.toNat?).getD 0)).forM fun i => printText (toString (i + 1) ++ "\n")
  | "false", _ => setStatus 1
  | "echo", _ =>
    let (words, stop) := match arguments with
      | "-n" :: words => (words, "")
      | words => (words, "\n")
    printText (" ".intercalate words ++ stop)
  | "printf", _ | "test", _ | "[", _ | "pwd", _ | "kill", _ =>
    let _ ← runBuiltin name arguments
  | _, _ => return

end DocPress.Shell
