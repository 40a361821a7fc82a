import DocPress.FileSystem.Update

/-!
# DocPress.Program.Basic

Programs as conversions see them: they are called with arguments, they do something to files, and
they end with a status and with what they have written to their two output streams.

1. A program whose name has a slash is the file at that path.
2. Any other program is looked up in the directories of `PATH`. Files that are not there are passed
   over, and so are files that may not be executed; but these decide the error if none follows.
-/

namespace DocPress.Program

open DocPress.FileSystem DocPress.Text

/-! ## Environments -/

/-- The variables of a process. -/
abbrev Environment := List (String × String)

/-- The value of a variable that is set and not empty. -/
def nonEmptyValue? (env : Environment) (variableName : String) : Option String :=
  (env.lookup variableName).filter (!·.isEmpty)

/-! ## The end of a process -/

/-- How a process ended. -/
inductive Status where
  | exited (code : Nat)
  | signaled (number : Nat)
  deriving Repr, DecidableEq

/-- The names of the signals from number 1 on. -/
def signalNames : List String :=
  ["SIGHUP", "SIGINT", "SIGQUIT", "SIGILL", "SIGTRAP", "SIGABRT", "SIGBUS", "SIGFPE", "SIGKILL",
   "SIGUSR1", "SIGSEGV", "SIGUSR2", "SIGPIPE", "SIGALRM", "SIGTERM", "SIGSTKFLT", "SIGCHLD",
   "SIGCONT", "SIGSTOP", "SIGTSTP", "SIGTTIN", "SIGTTOU", "SIGURG", "SIGXCPU", "SIGXFSZ",
   "SIGVTALRM", "SIGPROF", "SIGWINCH", "SIGIO", "SIGPWR", "SIGSYS"]

namespace Status

/-- The process has done what it was called for. -/
def isSuccess (s : Status) : Bool :=
  s == .exited 0

/-- The text of a status. -/
def message : Status → String
  | .exited code => "exit status: " ++ toString code
  | .signaled number =>
    "signal: " ++ toString number ++
      match signalNames[number - 1]? with
      | some name => " (" ++ name ++ ")"
      | none => ""

end Status

/-- What a process leaves behind, besides the files that it has changed. -/
structure Finished where
  status : Status
  stdout : Bytes
  stderr : Bytes
  deriving Repr, DecidableEq

/-! ## Machines -/

/-- A machine on which programs run. -/
structure Machine where
  environment : Environment
  /-- Runs the program in a file that may be executed: the path under which it was called, the
  content of the file, and the arguments. -/
  execute : String → Bytes → List String → Action IoError Finished

/-- The directories in which programs are searched where `PATH` is not set. -/
def defaultSearchPath : String :=
  "/bin:/usr/bin"

/-- The directories of a search path, in order; an empty one stands for the working directory. -/
def searchEntries (searchPath : String) : List String :=
  (searchPath.toList.splitOn ':').map String.ofList

/-- The content of a file that is to be executed. -/
def programAt (fs : Files) (path : String) : Except IoError Bytes := do
  match ← fs.stat path with
  | .file content true => .ok content
  | _ => .error .denied

/-- Searching goes on after this error. -/
def isPassedOver (e : IoError) : Bool :=
  e == .notFound || e == .notDirectory || e == .denied

/-- The path of a name in a directory of a search path. -/
def pathIn (directory name : String) : String :=
  if directory.isEmpty then name else directory ++ "/" ++ name

/-- The first program of a name in a list of directories, with its path. The error is the one to
give if there is none. -/
def searchProgram (fs : Files) (name : String) (error : IoError) :
    List String → Except IoError (String × Bytes)
  | [] => .error error
  | directory :: rest =>
    match programAt fs (pathIn directory name) with
    | .ok content => .ok (pathIn directory name, content)
    | .error e =>
      if !isPassedOver e then .error e
      else searchProgram fs name (if e == .denied then e else error) rest

/-- The program that a name stands for when it is started, with its path. -/
def resolveProgram (env : Environment) (fs : Files) (program : String) :
    Except IoError (String × Bytes) :=
  if program.isEmpty then .error .notFound
  else if program.contains '/' then (programAt fs program).map fun content => (program, content)
  else
    searchProgram fs program .notFound (searchEntries ((env.lookup "PATH").getD defaultSearchPath))

/-- Starts a program and waits for its end. -/
def Machine.spawn (m : Machine) (program : String) (arguments : List String) :
    Action IoError Finished := do
  if (program :: arguments).any (·.contains '\x00') then
    throw (.other "nul byte found in provided data")
  let (path, content) ← Action.ask (resolveProgram m.environment · program)
  m.execute path content arguments

end DocPress.Program
