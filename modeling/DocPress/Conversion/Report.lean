import DocPress.Backend.Error

/-!
# DocPress.Conversion.Report

What a conversion that gave a document tells about it: the winner, the sizes, and what became of
each backend that was considered.
-/

namespace DocPress.Conversion

open DocPress.Backend

/-- What became of one backend. -/
inductive AttemptOutcome where
  /-- It is not installed, so it was never run. -/
  | skipped (reason : String)
  | failed (error : BackendError)
  | succeeded (durationMs : Nat)
  deriving Repr, DecidableEq

/-- One backend that was considered. -/
structure AttemptRecord where
  backend : String
  outcome : AttemptOutcome
  deriving Repr, DecidableEq

/-- A conversion that gave a document. -/
structure ConversionReport where
  /-- The backend that made the document. -/
  backend : String
  /-- Where the document is. -/
  output : String
  /-- The size of the body as HTML. -/
  htmlBytes : Nat
  /-- The size of the document. -/
  pdfBytes : Nat
  durationMs : Nat
  /-- The backends that were considered, in order; the winner is the last one. -/
  attempts : List AttemptRecord
  deriving Repr, DecidableEq

end DocPress.Conversion
