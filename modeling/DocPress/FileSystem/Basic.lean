import DocPress.Text.Utf8
import DocPress.FileSystem.Error
import DocPress.FileSystem.Path

/-!
# DocPress.FileSystem.Basic

Files, directories and symbolic links as a value: a list of entries, each at its location. A path is
resolved to a location first; every operation is then an update at one location.

1. Walking a path follows links, forty of them at most.
2. Every segment but the last must be a directory, and one behind which a slash stands, too.
3. The root directory is always there.
4. Of all permissions there is the one to execute a file, and no other: whatever is there can be
   read and written. So `IoError.denied` comes of starting programs alone, and what is made of it
   where a file is read (`Conversion.Failure.permissionDenied`) is never met here.
-/

namespace DocPress.FileSystem

open DocPress.Text

/-! ## Entries -/

/-- Where an entry is: the names from the root down to it. -/
abbrev Location := List String

/-- What stands at a location. -/
inductive Entry where
  | file (content : Bytes) (executable : Bool)
  | directory
  | link (target : String)
  deriving Repr, DecidableEq

/-- All files, and the working directory, from which relative paths begin. -/
structure Files where
  entries : List (Location × Entry)
  current : Location
  deriving Repr

namespace Files

/-- What stands at a location. -/
def get? (fs : Files) (l : Location) : Option Entry :=
  if l.isEmpty then some .directory else fs.entries.lookup l

/-- Removes the entry at a location. -/
def erase (l : Location) (fs : Files) : Files :=
  { fs with entries := fs.entries.filter fun entry => entry.1 != l }

/-- Puts an entry at a location, in place of what is there. -/
def set (l : Location) (entry : Entry) (fs : Files) : Files :=
  { fs with entries := (l, entry) :: (fs.erase l).entries }

/-- Removes all entries at and below a location. -/
def eraseTree (l : Location) (fs : Files) : Files :=
  { fs with entries := fs.entries.filter fun entry => !(l.isPrefixOf entry.1) }

/-- There is a directory at a location. -/
def isDirectoryAt (fs : Files) (l : Location) : Bool :=
  fs.get? l == some .directory

/-! ## Walking paths -/

/-- The largest number of bytes in a name. -/
def maxNameBytes : Nat := 255

/-- The largest number of bytes in a path. -/
def maxPathBytes : Nat := 4095

/-- The largest number of links that are followed. -/
def maxLinks : Nat := 40

/-- Where a path begins. -/
def origin (fs : Files) (path : String) : Location :=
  if isAbsolute path then [] else fs.current

/-- Walks segments from a directory on, following links; the first argument is the number of links
that may still be followed. -/
def walk (fs : Files) : Nat → Location → List String → Except IoError Location
  | _, l, [] => .ok l
  | links, l, segment :: rest =>
    if !fs.isDirectoryAt l then .error .notDirectory
    else if segment == "." then fs.walk links l rest
    else if segment == ".." then fs.walk links l.dropLast rest
    else if maxNameBytes < segment.utf8ByteSize then .error .nameTooLong
    else
      match fs.get? (l ++ [segment]) with
      | none => .error .notFound
      | some (.link target) =>
        match links with
        | 0 => .error .linkLoop
        | links + 1 =>
          if target.isEmpty then .error .notFound
          else fs.walk links (if isAbsolute target then [] else l) (segments target ++ rest)
      | some _ => fs.walk links (l ++ [segment]) rest
termination_by links _ path => (links, path.length)

/-- Refuses what cannot be a path at all. -/
def checkPath (path : String) : Except IoError Unit :=
  if path.isEmpty then .error .notFound
  else if path.contains '\x00' then .error .nulInPath
  else if maxPathBytes < path.utf8ByteSize then .error .nameTooLong
  else .ok ()

/-- The location of what a path leads to, behind all links. -/
def resolve (fs : Files) (path : String) : Except IoError Location := do
  checkPath path
  fs.walk maxLinks (fs.origin path) (segments path)

/-- The entry that a path leads to, behind all links; it is no link. -/
def stat (fs : Files) (path : String) : Except IoError Entry := do
  let l ← fs.resolve path
  match fs.get? l with
  | some entry => .ok entry
  | none => .error .notFound

/-- The path leads somewhere. -/
def pathExists (fs : Files) (path : String) : Bool :=
  (fs.stat path).toBool

/-- The path leads to a directory. -/
def isDirectory (fs : Files) (path : String) : Bool :=
  match fs.stat path with
  | .ok .directory => true
  | _ => false

/-- The path leads to a file. -/
def isFile (fs : Files) (path : String) : Bool :=
  match fs.stat path with
  | .ok (.file ..) => true
  | _ => false

/-- The path leads to a file that may be executed. -/
def isExecutable (fs : Files) (path : String) : Bool :=
  match fs.stat path with
  | .ok (.file _ executable) => executable
  | _ => false

/-- The end of a path: the directory it lies in, its last segment, and whether a slash stands behind
that. A path that leads nowhere but to a directory itself has no last segment. -/
structure Place where
  directory : Location
  name? : Option String
  slash : Bool

/-- The place at the end of a path that begins in a directory. -/
def placeFrom (fs : Files) (links : Nat) (base : Location) (path : String) :
    Except IoError Place := do
  checkPath path
  let directory ←
    fs.walk links (if isAbsolute path then [] else base) (namedSegments path).dropLast
  if !fs.isDirectoryAt directory then .error .notDirectory
  match (namedSegments path).getLast? with
  | none => .ok ⟨directory, none, true⟩
  | some name =>
    if name == "." || name == ".." then .ok ⟨directory, none, true⟩
    else if maxNameBytes < name.utf8ByteSize then .error .nameTooLong
    else .ok ⟨directory, some name, path.endsWith "/"⟩

/-- The place at the end of a path; a link that stands there is not followed. -/
def place (fs : Files) (path : String) : Except IoError Place :=
  fs.placeFrom maxLinks fs.current path

/-! ## Reading -/

/-- The content of the file that a path leads to. -/
def readFile (fs : Files) (path : String) : Except IoError Bytes := do
  match ← fs.stat path with
  | .file content _ => .ok content
  | _ => .error .isDirectory

end Files

end DocPress.FileSystem
