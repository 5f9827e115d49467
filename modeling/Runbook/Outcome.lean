import Runbook.Document

namespace Runbook

structure Outcome where
  status : String
  response : Option String
  errorMessage : Option String
  deriving DecidableEq, Repr

namespace Outcome

/-- The one word for success, whatever the case of its letters. -/
def isSuccessStatus (status : String) : Bool := Text.sameLetters status "success"

/-- Success is decided by the status alone. -/
def isSuccess (outcome : Outcome) : Bool := isSuccessStatus outcome.status

def success (response : String) : Outcome := ⟨"success", some response, none⟩

def error (message : String) : Outcome := ⟨"error", none, some message⟩

def members (outcome : Outcome) : List (String × Json) :=
  ("status", .string outcome.status) ::
    (Json.member? "response" (outcome.response.map .string) ++
      Json.member? "errorMessage" (outcome.errorMessage.map .string))

def toJson (outcome : Outcome) : Json := .object outcome.members

end Outcome

inductive Purpose where
  | direct | prepare | action
  deriving DecidableEq, Repr

def Purpose.idName : Purpose → String
  | direct => "runId"
  | prepare => "prepareRunId"
  | action => "actionRunId"

structure Report where
  runId : String
  outcome : Outcome
  deriving DecidableEq, Repr

namespace Report

def toJson (purpose : Purpose) (report : Report) : Json :=
  .object ((purpose.idName, .string report.runId) :: report.outcome.members)

def ofDocument? (purpose : Purpose) (document : Document) : Option Report := do
  let fields ← document.fields? [purpose.idName, "status", "response", "errorMessage"]
  let runId ← fields.required? purpose.idName Document.text?
  let status ← fields.required? "status" Document.text?
  let response ← fields.perhaps? "response" Document.text?
  let errorMessage ← fields.perhaps? "errorMessage" Document.text?
  return ⟨runId, ⟨status, response, errorMessage⟩⟩

end Report

end Runbook
