import DocPress.Program.Basic
import DocPress.Text.Blank

/-!
# DocPress.Tool.Locate

Where a tool is installed. A variable may say so, and then nothing else counts: a variable that
leads nowhere is an error, so that no other program runs in place of the one that was meant. Without
it, the directories of `PATH` are searched, and then those in which the tool is usually installed.
-/

namespace DocPress

open DocPress.FileSystem DocPress.Program DocPress.Text

/-- A program that may be installed. -/
structure Tool where
  name : String
  /-- The variable that may say where the program is. -/
  variableName : String
  /-- The directories that are searched behind `PATH`. -/
  fallbackDirs : List String
  deriving Repr, DecidableEq

namespace Tool

/-- Why a tool cannot be used. -/
inductive ToolError where
  | notFound (tool : String) (searched : Nat)
  | overrideInvalid (variableName path : String)
  /-- The tool does not tell its version. -/
  | version (path reason : String)
  deriving Repr, DecidableEq

/-- The text of an error. -/
def ToolError.message : ToolError → String
  | .notFound tool searched =>
    "'" ++ tool ++ "' not found on PATH or in " ++ toString searched ++ " fallback location(s)"
  | .overrideInvalid variableName path =>
    variableName ++ " is set to '" ++ path ++ "' but no executable exists there"
  | .version path reason => "Could not query version of '" ++ path ++ "': " ++ reason

/-! ## Searching -/

/-- The name of the file that holds a program: on the systems served here, its own name. -/
def executableName (name : String) : String :=
  name

/-- The first file of a name in a list of directories that may be executed. -/
def findIn (fs : Files) (name : String) (directories : List String) : Option String :=
  (directories.map (joinPath · name)).find? fs.isExecutable

/-- The directories of a search path; empty ones do not count. -/
def searchDirectories (searchPath : String) : List String :=
  (searchEntries searchPath).filter (!·.isEmpty)

/-- The first file of a name on a search path that may be executed. -/
def findInPath (fs : Files) (name searchPath : String) : Option String :=
  findIn fs name (searchDirectories searchPath)

/-- Where a tool is. -/
def locate (tool : Tool) (env : Environment) (fs : Files) : Except ToolError String :=
  match nonEmptyValue? env tool.variableName with
  | some path =>
    if fs.isExecutable path then .ok path else .error (.overrideInvalid tool.variableName path)
  | none =>
    let name := executableName tool.name
    let onPath := (env.lookup "PATH").bind (findInPath fs name)
    match onPath <|> findIn fs name tool.fallbackDirs with
    | some path => .ok path
    | none => .error (.notFound tool.name tool.fallbackDirs.length)

/-! ## Versions -/

/-- The first line that holds more than blanks, without the blanks around it. -/
def firstText? (lines : List String) : Option String :=
  (lines.map trim).find? (!·.isEmpty)

/-- The version that a program tells when it is asked for it. -/
def version (m : Machine) (path : String) : Action ToolError String := do
  let finished ← (m.spawn path ["--version"]).mapError fun e => .version path e.message
  if !finished.status.isSuccess then
    throw (.version path ("exited with " ++ finished.status.message))
  let lines := textLines (decodeLossy finished.stdout) ++ textLines (decodeLossy finished.stderr)
  match firstText? lines with
  | some text => return text
  | none => throw (.version path "no output")

end Tool

end DocPress
