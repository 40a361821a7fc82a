import DocPress.FileSystem.Update
import DocPress.Text.Printable

/-!
# DocPress.FileSystem.Temporary

Files with a name of their own: one that no other entry of their directory has. Which one that is
says nothing to anybody; here it is the first free number.
-/

namespace DocPress.FileSystem

open DocPress.Text

/-- The name with a given number. -/
def numberedName (before after : String) (n : Nat) : String :=
  let digits := toString n
  before ++ String.ofList (List.replicate (6 - digits.length) '0') ++ digits ++ after

/-- The first name from a number on that is free; the first argument bounds the search. -/
def freeNameFrom (taken : String → Bool) (before after : String) : Nat → Nat → String
  | 0, n => numberedName before after n
  | more + 1, n =>
    if taken (numberedName before after n) then freeNameFrom taken before after more (n + 1)
    else numberedName before after n

namespace Files

/-- A name that is free in a directory. There are fewer entries than numbers to try. -/
def freeName (fs : Files) (directory : Location) (before after : String) : String :=
  freeNameFrom (fun name => (fs.get? (directory ++ [name])).isSome) before after
    fs.entries.length 0

/-- The absolute form of a path. -/
def absolute (fs : Files) (path : String) : String :=
  joinPath ("/" ++ "/".intercalate fs.current) path

end Files

/-- Makes an empty file with a free name in a directory, and gives its path, which is absolute. -/
def makeTemporary (directory before after : String) : Action IoError String := do
  let fs ← get
  let pathOf name := fs.absolute (joinPath directory name)
  match fs.resolve directory with
  | .ok l =>
    let path := pathOf (fs.freeName l before after)
    Action.update (Files.writeFile path [])
    return path
  | .error e =>
    throw (.other (e.message ++ " at path " ++ quoted (pathOf (numberedName before after 0))))

/-- Removes a temporary file; it may be gone already. -/
def discardTemporary (path : String) : Action ε Unit := do
  match (← get).removeFile path with
  | .ok fs => set fs
  | .error _ => return

end DocPress.FileSystem
