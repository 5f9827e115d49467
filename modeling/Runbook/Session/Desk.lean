import Runbook.Session

namespace Runbook.Session

/-- What the user is told. A run that is still in the air is no reply. -/
def Answer.result : Answer → Except RunError Reply
  | reply value => .ok value
  | refusal e => .error e
  | flight _ => .error .runInFlight

structure Desk (m : Type → Type) where
  get : m Session
  put : Session → m Unit
  runner : Collaborators m
  executor : Executor m
  freshRunId : m String
  freshConfirmationId : m String
  now : m Instant
  record : Event → m Unit

namespace Desk

variable {m : Type → Type} [Monad m]

def settle (desk : Desk m) (step : Step) : m Answer := do
  desk.put step.session
  step.events.forM desk.record
  return step.answer

/-- Waits for the result of a run; meanwhile the session may change. -/
def wait (desk : Desk m) (user : User) (flight : Flight) : m Answer := do
  let run :=
    desk.runner.execute desk.executor desk.freshRunId flight.appId flight.inputs user []
  let result ← run.run
  desk.settle ((← desk.get).arrive flight result)

/-- What comes of a step for a user, once its run, if it leads to one, is over. -/
def follow (desk : Desk m) (user : User) (step : Step) : m (Except RunError Reply) := do
  let answer ← match ← desk.settle step with
    | .flight flight => desk.wait user flight
    | answer => pure answer
  return answer.result

def operate (desk : Desk m) (request : Request) : m (Except RunError Reply) := do
  let session ← desk.get
  let now ← desk.now
  let later ← desk.now
  let id ← desk.freshConfirmationId
  desk.follow session.user (session.perform request ⟨now, later, id⟩)

end Desk

end Runbook.Session
