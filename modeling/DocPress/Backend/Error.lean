/-!
# DocPress.Backend.Error

What can go wrong when one backend renders a document. Such an error ends the attempt, not the
conversion: the next backend has its turn.
-/

namespace DocPress.Backend

/-- Why a backend rendered nothing; each error names its backend. -/
inductive BackendError where
  /-- The program is not installed. -/
  | unavailable (backend detail : String)
  /-- The program could not be started. -/
  | spawn (backend detail : String)
  /-- The program ended with an error. -/
  | failed (backend status stderr : String)
  /-- The program ended well, but what it wrote is no PDF file. -/
  | invalidOutput (backend detail : String)
  /-- The input of the program could not be written. -/
  | io (backend detail : String)
  deriving Repr, DecidableEq

namespace BackendError

/-- The name of the backend. -/
def backend : BackendError → String
  | .unavailable backend _ => backend
  | .spawn backend _ => backend
  | .failed backend _ _ => backend
  | .invalidOutput backend _ => backend
  | .io backend _ => backend

/-- The text of an error. -/
def message : BackendError → String
  | .unavailable backend detail => backend ++ ": not available (" ++ detail ++ ")"
  | .spawn backend detail => backend ++ ": failed to start: " ++ detail
  | .failed backend status stderr => backend ++ ": exited with " ++ status ++ ": " ++ stderr
  | .invalidOutput backend detail => backend ++ ": produced no valid PDF: " ++ detail
  | .io backend detail => backend ++ ": I/O error: " ++ detail

end BackendError

end DocPress.Backend
