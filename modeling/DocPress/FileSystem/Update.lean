import DocPress.FileSystem.Basic

/-!
# DocPress.FileSystem.Update

Operations that change files. Each one names the single location that it changes, or fails and
changes nothing; an `Action` is made of several of them, and what it has done before it fails stays
done.
-/

namespace DocPress.FileSystem

open DocPress.Text

/-! ## Actions -/

/-- Something that is done to files, and that may fail on the way. -/
abbrev Action (ε α : Type) := ExceptT ε (StateM Files) α

namespace Action

/-- Does one update, or fails with its error. -/
def update (f : Files → Except ε Files) : Action ε Unit := do
  match f (← get) with
  | .ok fs => set fs
  | .error e => throw e

/-- Asks for something, or fails with the error of the answer. -/
def ask (f : Files → Except ε α) : Action ε α := do
  match f (← get) with
  | .ok answer => return answer
  | .error e => throw e

/-- The same action with its error in another form. -/
def mapError (f : ε → δ) (action : Action ε α) : Action δ α :=
  ExceptT.mk do
    match ← action.run with
    | .ok a => return .ok a
    | .error e => return .error (f e)

end Action

namespace Files

/-! ## Single updates -/

/-- The location at which a file that is written through a path comes to be: links at the end of the
path are followed, even if they lead nowhere yet. -/
def writeLocation (fs : Files) : Nat → Location → String → Except IoError Location
  | 0, _, _ => .error .linkLoop
  | links + 1, base, path => do
    let place ← fs.placeFrom links base path
    match place.name?, place.slash with
    | some name, false =>
      match fs.get? (place.directory ++ [name]) with
      | some (.link target) => fs.writeLocation links place.directory target
      | some .directory => .error .isDirectory
      | _ => .ok (place.directory ++ [name])
    | _, _ => .error .isDirectory

/-- Writes a file: its content is replaced if it is there, and it is made if not. -/
def writeFile (path : String) (content : Bytes) (fs : Files) : Except IoError Files := do
  let l ← fs.writeLocation (maxLinks + 1) fs.current path
  let executable := match fs.get? l with
    | some (.file _ executable) => executable
    | _ => false
  .ok (fs.set l (.file content executable))

/-- Makes a directory; its parent must be there. -/
def makeDirectory (path : String) (fs : Files) : Except IoError Files := do
  let place ← fs.place path
  match place.name? with
  | none => .error .alreadyExists
  | some name =>
    match fs.get? (place.directory ++ [name]) with
    | some _ => .error .alreadyExists
    | none => .ok (fs.set (place.directory ++ [name]) .directory)

/-- A directory cannot be made, because the one in which it would lie is missing. -/
def lacksParent (fs : Files) (path : String) : Bool :=
  match fs.makeDirectory path with
  | .error e => e == .notFound
  | .ok _ => false

/-- Removes a file or a link. -/
def removeFile (path : String) (fs : Files) : Except IoError Files := do
  let place ← fs.place path
  match place.name? with
  | none => .error .isDirectory
  | some name =>
    match fs.get? (place.directory ++ [name]) with
    | none => .error .notFound
    | some .directory => .error .isDirectory
    | some _ =>
      if place.slash then .error .notDirectory else .ok (fs.erase (place.directory ++ [name]))

/-- Renames a file to the end of a path, in place of a file or link that stands there. -/
def renameFile (source target : String) (fs : Files) : Except IoError Files := do
  let old ← fs.place source
  let new ← fs.place target
  match old.name?, new.name? with
  | some oldName, some newName =>
    match fs.get? (old.directory ++ [oldName]) with
    | none => .error .notFound
    | some entry =>
      if new.slash then .error .notDirectory
      else if fs.isDirectoryAt (new.directory ++ [newName]) then .error .isDirectory
      else
        .ok ((fs.erase (old.directory ++ [oldName])).set (new.directory ++ [newName]) entry)
  | _, _ => .error .busy

end Files

/-! ## Directories with their parents -/

/-- Makes a directory; one that is there already is fine. -/
def ensureDirectory (path : String) : Action IoError Unit := do
  match (← get).makeDirectory path with
  | .ok fs => set fs
  | .error e => if (← get).isDirectory path then return else throw e

/-- Makes a directory, and its parents as far as they are missing; the first argument bounds the
number of parents. -/
def ensureDirectoriesUpTo : Nat → String → Action IoError Unit
  | 0, path => ensureDirectory path
  | parents + 1, path => do
    if path.isEmpty then return
    if (← get).lacksParent path then
      if let some parent := parent? path then
        ensureDirectoriesUpTo parents parent
    ensureDirectory path

/-- Makes a directory, and its parents as far as they are missing; one that is there is fine. -/
def ensureDirectories (path : String) : Action IoError Unit :=
  ensureDirectoriesUpTo (path.length + 1) path

end DocPress.FileSystem
