import DocPress.Backend.Error
import DocPress.FileSystem.Error
import DocPress.Text.Printable

/-!
# DocPress.Conversion.Failure

What ends a conversion without a document.
-/

namespace DocPress.Conversion

open DocPress.Backend DocPress.FileSystem DocPress.Text

/-- Why there is no document. -/
inductive Failure where
  /-- No backend is installed. -/
  | missingCapability (missing : List String) (guidance : String)
  | sourceNotFound (path : String)
  | permissionDenied (path : String)
  | sourceNotUtf8 (path : String)
  /-- The source is there but cannot be read. -/
  | sourceReadFailed (path : String) (error : IoError)
  /-- Every backend is missing or has failed. -/
  | allBackendsExhausted (errors : List BackendError)
  | outputWriteFailed (path : String) (error : IoError)
  | invalidConfig (text : String)
  | internal (text : String)
  deriving Repr, DecidableEq

namespace Failure

/-- The text of a failure. -/
def message : Failure → String
  | .missingCapability missing guidance =>
    "Missing dependencies: " ++ " or ".intercalate missing ++ "\n\n" ++ guidance
  | .sourceNotFound path => "File not found: '" ++ path ++ "'"
  | .permissionDenied path =>
    "Permission denied reading '" ++ path ++ "'\nTry: chmod +r " ++ quoted path
  | .sourceNotUtf8 path => "Source '" ++ path ++ "' is not valid UTF-8 text"
  | .sourceReadFailed path error => "Failed to read '" ++ path ++ "': " ++ error.message
  | .allBackendsExhausted errors =>
    "Could not generate the PDF: all " ++ toString errors.length ++ " backend(s) failed.\n" ++
      "\n".intercalate (errors.map fun e => "  • " ++ e.message)
  | .outputWriteFailed path error =>
    "Failed to write output file '" ++ path ++ "': " ++ error.message
  | .invalidConfig text => "Invalid configuration: " ++ text
  | .internal text => "Internal error: " ++ text

/-- The error of input or output behind a failure. -/
def cause? : Failure → Option IoError
  | .sourceReadFailed _ error => some error
  | .outputWriteFailed _ error => some error
  | _ => none

end Failure

end DocPress.Conversion
