/-!
# DocPress.FileSystem.Path

Paths as text. Paths are never made absolute or otherwise tidied: what is given is what is shown.

A path falls into segments between its slashes. For its parent, its file name and its extension,
empty segments do not count, and neither do segments `.` except a first one.
-/

namespace DocPress.FileSystem

/-! ## Parts of a path -/

/-- A part of a path as it counts for names and parents. -/
inductive PathPart where
  | root
  | here
  | up
  | name (text : List Char)
  deriving Repr, DecidableEq

/-- The part that a segment stands for. -/
def PathPart.ofSegment (segment : List Char) : PathPart :=
  if segment = ['.'] then .here else if segment = ['.', '.'] then .up else .name segment

/-- The parts of a path from a place on, each with the text of the path up to its end. `read` is the
text before that place, last character first; `segment` is the end of it that is not complete, last
character first, too. -/
def partsFrom (read segment : List Char) : List Char → List (PathPart × List Char)
  | [] => part
  | c :: rest =>
    if c = '/' then part ++ partsFrom (c :: read) [] rest
    else partsFrom (c :: read) (c :: segment) rest
where
  /-- The complete segment as a part. A segment `.` counts only at the start of the path. -/
  part : List (PathPart × List Char) :=
    if segment.isEmpty || (segment = ['.'] && 1 < read.length) then []
    else [(.ofSegment segment.reverse, read.reverse)]

/-- The parts of a path, each with the text of the path up to its end. -/
def pathParts (path : List Char) : List (PathPart × List Char) :=
  match path with
  | '/' :: rest => (.root, ['/']) :: partsFrom ['/'] [] rest
  | _ => partsFrom [] [] path

/-! ## Parents and names -/

/-- The path without its last part. The root and the empty path have no parent. -/
def parent? (path : String) : Option String :=
  match (pathParts path.toList).reverse with
  | [] => none
  | (.root, _) :: _ => none
  | _ :: (_, before) :: _ => some (String.ofList before)
  | [_] => some ""

/-- The file name at the end of a path, and the path up to its end. -/
def fileName? (path : List Char) : Option (List Char × List Char) :=
  match (pathParts path).reverse with
  | (.name name, upTo) :: _ => some (name, upTo)
  | _ => none

/-- The extension of a file name: what stands behind its last point, unless that is the first
character. -/
def extension? (name : List Char) : Option (List Char) :=
  let extension := (name.reverse.takeWhile (· != '.')).reverse
  if extension.length + 1 < name.length then some extension else none

/-- Takes so many bytes off the end of a text. A character that is cut leaves U+FFFD. -/
def dropEndBytes (count : Nat) (text : List Char) : List Char :=
  (go count text.reverse).reverse
where
  go : Nat → List Char → List Char
    | 0, text => text
    | _, [] => []
    | count + 1, c :: rest =>
      if c.utf8Size ≤ count + 1 then go (count + 1 - c.utf8Size) rest else '\uFFFD' :: rest
  termination_by _ text => text.length

/-- The path with the given extension in place of what stands behind the last point of its file
name. The old extension is first taken off the end of the whole path, by its length; a path that
has no file name then stays as it is. -/
def withExtension (extension : String) (path : String) : String :=
  let chars := path.toList
  let old := ((fileName? chars).bind fun (name, _) => extension? name).getD []
  let cut := dropEndBytes (String.ofList old).utf8ByteSize chars
  match fileName? cut with
  | none => String.ofList cut
  | some (name, upTo) =>
    let behind := match extension? name with
      | some extension => extension.length + 1
      | none => 0
    String.ofList (upTo.take (upTo.length - behind)) ++ "." ++ extension

/-- A path below a directory. An absolute path stands for itself. -/
def joinPath (directory path : String) : String :=
  if path.startsWith "/" then path
  else if directory.isEmpty || directory.endsWith "/" then directory ++ path
  else directory ++ "/" ++ path

/-! ## Segments -/

/-- The segments of a path that are not empty. -/
def namedSegments (path : String) : List String :=
  ((path.toList.splitOn '/').filter (!·.isEmpty)).map String.ofList

/-- The segments of a path as the file system walks it. A slash at the end asks for a directory,
just as a segment `.` does. -/
def segments (path : String) : List String :=
  if path.endsWith "/" then namedSegments path ++ ["."] else namedSegments path

/-- The path begins at the root. -/
def isAbsolute (path : String) : Bool :=
  path.startsWith "/"

end DocPress.FileSystem
