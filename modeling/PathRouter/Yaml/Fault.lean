/-!
# Faults of YAML documents

What stands in the way of reading a document.  Most faults are malformed documents; a scalar whose
tag demands what its text does not hold is a fault of its own kind.
-/

namespace PathRouter.Yaml

/-- What reading a document can fail with. -/
inductive Fault where
  /-- The text is no document, or the document has no value. -/
  | malformed
  /-- The bytes are no UTF-8 text. -/
  | notUtf8
  /-- A number, a date or an escaped character that does not exist. -/
  | badScalar
  /-- A text that is no truth value. -/
  | unknownTruth (text : String)
  /-- A number without digits. -/
  | emptyNumber
  /-- A number too large for its arithmetic. -/
  | tooLarge
  /-- A text that is no date. -/
  | notDate
  /-- A date that is no text. -/
  | dateNotText
  /-- A scalar that is defined by itself. -/
  | endless
  deriving DecidableEq, Repr

end PathRouter.Yaml
