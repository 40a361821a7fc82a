import DocPress.Conversion.Failure
import DocPress.FileSystem.Temporary

/-!
# DocPress.Conversion.Files

The files of a conversion.

1. The document that is to be converted is read whole. A byte-order mark at its start is no part of
   it.
2. What a conversion makes does not come to its destination in pieces: it is written to a staging
   file in the same directory, and only a complete document takes the place of what was there. What
   stands at the destination is the old file or the new one, never a part of either.
-/

namespace DocPress.Conversion

open DocPress.Backend DocPress.FileSystem DocPress.Text

/-! ## Sources -/

/-- The text without one byte-order mark at its start. -/
def dropByteOrderMark (text : String) : String :=
  match text.toList with
  | '\uFEFF' :: rest => String.ofList rest
  | _ => text

/-- The text of a source. That it may not be read is told apart, but no file of `Files` is such. -/
def readSource (fs : Files) (path : String) : Except Failure String :=
  if !fs.pathExists path then .error (.sourceNotFound path)
  else
    match fs.readFile path with
    | .error e =>
      if e == .notFound then .error (.sourceNotFound path)
      else if e == .denied then .error (.permissionDenied path)
      else .error (.sourceReadFailed path e)
    | .ok content =>
      match decode? content with
      | some text => .ok (dropByteOrderMark text)
      | none => .error (.sourceNotUtf8 path)

/-! ## Staging -/

/-- A file that may become the one at its destination. -/
structure StagedOutput where
  /-- Where the file is written. -/
  path : String
  destination : String
  deriving Repr, DecidableEq

/-- The names of staging files begin so. -/
def stagingStart : String := ".md2pdf-"

/-- The names of staging files end so. -/
def stagingEnd : String := ".pdf"

/-- The directory of a path. -/
def directoryOf (path : String) : String :=
  match parent? path with
  | some parent => if parent.isEmpty then "." else parent
  | none => "."

/-- Makes a staging file for a destination, and the directory for both if it is missing. -/
def stage (destination : String) : Action Failure StagedOutput :=
  Action.mapError (.outputWriteFailed destination) do
    ensureDirectories (directoryOf destination)
    let path ← makeTemporary (directoryOf destination) stagingStart stagingEnd
    return ⟨path, destination⟩

namespace StagedOutput

/-- Gives up a staging file. -/
def discard (staged : StagedOutput) : Action ε Unit :=
  discardTemporary staged.path

/-- Puts the staging file in the place of what is at the destination. If that fails, the staging
file is given up. -/
def persist (staged : StagedOutput) : Action Failure Unit := do
  match (← get).renameFile staged.path staged.destination with
  | .ok fs => set fs
  | .error e =>
    staged.discard
    throw (.outputWriteFailed staged.destination e)

end StagedOutput

/-! ## Checking -/

/-- The first bytes of every PDF file. -/
def pdfMagic : Bytes :=
  encode "%PDF"

/-- The size of the PDF file at a path; the error says why it is none. -/
def pdfSize (fs : Files) (path : String) : Except String Nat :=
  match fs.stat path with
  | .error e => .error e.message
  | .ok (.file content _) =>
    let magic := content.take pdfMagic.length
    if content.isEmpty then .error "output file is empty"
    else if magic.length < pdfMagic.length then
      .error ("could not read header: " ++ IoError.endOfFile.message)
    else if magic = pdfMagic then .ok content.length
    else
      .error ("unexpected header [" ++ ", ".intercalate (magic.map (toString ·.toNat)) ++ "]")
  | .ok _ => .error ("could not read header: " ++ IoError.isDirectory.message)

/-- The size of the PDF file that a backend has written to a path. -/
def validatePdf (fs : Files) (path backend : String) : Except BackendError Nat :=
  (pdfSize fs path).mapError (.invalidOutput backend)

/-! ## HTML -/

/-- Writes an HTML document to a path, and makes the directory for it if it is missing. -/
def writeHtml (path html : String) : Action Failure Unit :=
  Action.mapError (.outputWriteFailed path) do
    ensureDirectories ((parent? path).getD "")
    Action.update (Files.writeFile path (encode html))

end DocPress.Conversion
