import Runbook.Instant
import Runbook.Outcome

namespace Runbook

inductive Occurrence where
  | appExecuted (appId runId status : String)
  | prepareExecuted (appId runId status : String)
  | actionExecuted (actionId appId runId status : String)
  | confirmationRequested (actionId appId : String)
  | actionConfirmed (actionId appId : String)
  | actionCancelled (actionId : String)
  | sessionReset
  deriving DecidableEq, Repr

/-- An event without its time, which is that at which it is recorded. -/
structure Event where
  userId : String
  sessionId : Option String
  occurrence : Occurrence
  deriving DecidableEq, Repr

namespace Occurrence

def name : Occurrence → String
  | appExecuted .. => "app_executed"
  | prepareExecuted .. => "prepare_executed"
  | actionExecuted .. => "action_executed"
  | confirmationRequested .. => "action_confirmation_requested"
  | actionConfirmed .. => "action_confirmed"
  | actionCancelled .. => "action_cancelled"
  | sessionReset => "session_reset"

def subjects : Occurrence → List (String × String)
  | appExecuted appId runId status => [("app_id", appId), ("run_id", runId), ("status", status)]
  | prepareExecuted appId runId status => [("app_id", appId), ("run_id", runId), ("status", status)]
  | actionExecuted actionId appId runId status =>
    [("app_id", appId), ("action_id", actionId), ("run_id", runId), ("status", status)]
  | confirmationRequested actionId appId => [("app_id", appId), ("action_id", actionId)]
  | actionConfirmed actionId appId => [("app_id", appId), ("action_id", actionId)]
  | actionCancelled actionId => [("action_id", actionId)]
  | sessionReset => []

end Occurrence

def Event.members (occurred : Instant) (event : Event) : List (String × Json) :=
  [("kind", .string event.occurrence.name), ("user_id", .string event.userId)] ++
    Json.member? "session_id" (event.sessionId.map .string) ++
    (event.occurrence.subjects.map fun (name, value) => (name, .string value)) ++
    [("occurred_at", .string occurred.text)]

end Runbook
