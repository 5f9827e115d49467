import Runbook.Json

namespace Runbook

inductive Severity where
  | warning | error
  deriving DecidableEq, Repr

structure Finding where
  severity : Severity
  category : String
  message : String
  location : String
  deriving DecidableEq, Repr

namespace Severity

def name : Severity → String
  | warning => "warning"
  | error => "error"

def label : Severity → String
  | warning => "WARN"
  | error => "ERROR"

end Severity

namespace Finding

def error (category message location : String) : Finding := ⟨.error, category, message, location⟩

def warning (category message location : String) : Finding :=
  ⟨.warning, category, message, location⟩

def isError (finding : Finding) : Bool := finding.severity = .error

def text (finding : Finding) : String :=
  "[" ++ finding.severity.label ++ "] " ++ finding.category ++ " (" ++ finding.location ++ "): " ++
    finding.message

def toJson (finding : Finding) : Json :=
  .object [("severity", .string finding.severity.name), ("category", .string finding.category),
    ("message", .string finding.message), ("location", .string finding.location)]

end Finding

/-- The members of a list that occur earlier in it, one entry for each repetition. -/
def repeated {α : Type} [DecidableEq α] (seen : List α) : List α → List α
  | [] => []
  | a :: rest => if a ∈ seen then a :: repeated seen rest else repeated (a :: seen) rest

end Runbook
