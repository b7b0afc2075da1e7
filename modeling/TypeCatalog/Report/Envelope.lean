import TypeCatalog.Json.Printer
import TypeCatalog.Limits
import TypeCatalog.Report.Error

namespace TypeCatalog

/-!
# Envelopes

Every answer is one envelope: the kind of the operation, the version of the contract and the data,
or the kind `error`, the version and the fields of the error.
-/

/-- An answer. -/
inductive Envelope where
  | success (kind : String) (data : Value)
  | failure (error : ReportedError)
deriving Repr

namespace Envelope

/-- The kind that marks an error. -/
def errorKind : String := "error"

/-- The fields of an envelope with data. -/
def successFields (kind data : Value) : List (String × Value) :=
  [("kind", kind), ("version", .text Limits.contractVersion), ("data", data)]

/-- The fields of an envelope with the fields of an error. -/
def failureFields (fields : List (String × Value)) : List (String × Value) :=
  ("kind", .text errorKind) :: ("version", .text Limits.contractVersion) :: fields

/-- An envelope as a value. -/
def toValue : Envelope → Value
  | .success kind data => .record (successFields (.text kind) data)
  | .failure error => .record (failureFields error.toFields)

/-- The text of an envelope. -/
def render (envelope : Envelope) : String :=
  Json.compact envelope.toValue

/-- The number of characters of the text of an envelope. -/
def size (envelope : Envelope) : Nat :=
  Json.measure envelope.toValue

/-- Whether an envelope carries an error. -/
def isError : Envelope → Bool
  | .success .. => false
  | .failure _ => true

end Envelope

end TypeCatalog
