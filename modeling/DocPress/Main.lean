import DocPress.CommandLine.Surroundings

/-!
# DocPress.Main

The command. It looks at the machine, does what it is told, and leaves on disk what has changed. A
renderer that is a script is run as one; other programs cannot be started.
-/

namespace DocPress.CommandLine

open DocPress.FileSystem DocPress.Program

/-- A location as a path. -/
def absolutePath (l : Location) : String :=
  "/" ++ "/".intercalate l

/-- What stands at a location on disk. -/
def entryOnDisk? (l : Location) : IO (Option Entry) := do
  match ← (IO.FS.readBinFile (absolutePath l)).toBaseIO with
  | .ok content =>
    let bytes := content.toList
    return some (.file bytes (isProgramFile bytes))
  | .error (.inappropriateType ..) => return some .directory
  | .error _ => return none

/-- What stands on disk at locations, as far as their parents are directories. -/
def entriesOnDisk (locations : List Location) : IO (List (Location × Entry)) :=
  locations.foldlM
    (fun (found : List (Location × Entry)) l => do
      if l.length ≤ 1 || found.lookup l.dropLast == some .directory then
        return ((← entryOnDisk? l).map fun entry => (l, entry)).toList ++ found
      else return found)
    []

/-- The variables of the process that count. -/
def readEnvironment : IO Environment :=
  relevantVariables.filterMapM fun name => do
    return (← IO.getEnv name).map fun value => (name, value)

/-- Puts an entry on disk. -/
def writeEntry (l : Location) : Entry → IO Unit
  | .file content _ => do
    IO.FS.createDirAll (absolutePath l.dropLast)
    IO.FS.writeBinFile (absolutePath l) ⟨content.toArray⟩
  | .directory => IO.FS.createDirAll (absolutePath l)
  | .link _ => return

/-- Makes the disk hold what has changed. -/
def writeDifferences (before after : Files) : IO Unit := do
  let (gone, changed) := differences before after
  for l in gone do
    let _ ← (IO.FS.removeFile (absolutePath l)).toBaseIO
  for (l, entry) in changed do
    writeEntry l entry

/-- Runs the command with arguments. -/
def runOnDisk (arguments : List String) : IO UInt32 := do
  let env ← readEnvironment
  let current := segments (← IO.currentDir).toString
  let locations := match Invocation.read env arguments with
    | .ok i => relevantLocations env current i
    | .error _ => []
  let before := surroundings current (← entriesOnDisk locations)
  let (outcome, after) := (runCommand (Shell.machine env) arguments).run before
  writeDifferences before after
  IO.print outcome.stdout
  return outcome.code.toUInt32

end DocPress.CommandLine

/-- The entry point of the command. -/
def main (arguments : List String) : IO UInt32 :=
  DocPress.CommandLine.runOnDisk arguments
