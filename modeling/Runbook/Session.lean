import Runbook.Confirmation
import Runbook.Event
import Runbook.Json.Reader
import Runbook.Runner

namespace Runbook

structure ActionResult where
  report : Report
  userMessage : Option String
  deriving DecidableEq, Repr

/-- What a reset starts anew. -/
structure Session.State where
  phase : Phase
  loadValues : Dict String
  actionValues : Dict String
  output : Option Json
  results : Dict ActionResult
  gate : Gate
  /-- The number of resets so far, by which late results are told. It is counted without bound,
  which a counter of 64 bits does for fewer than `2 ^ 64` resets. -/
  epoch : Nat

structure Session where
  id : String
  dashboardId : String
  board : Board
  user : User
  state : Session.State
  /-- A run has been handed over and its result has not arrived. -/
  running : Bool

/-- What a session waits for a run for. -/
inductive Session.Errand where
  | prepare
  | action (action : Action)
  deriving DecidableEq, Repr

/-- A run that a session hands over. -/
structure Session.Flight where
  appId : String
  inputs : Dict String
  epoch : Nat
  errand : Session.Errand

inductive Session.Reply where
  | done
  | loaded (report : Option Report)
  | completed (report : Report)
  | confirmation (confirmation : Confirmation)
  | cancelled (confirmation : Option Confirmation)
  deriving DecidableEq, Repr

inductive Session.Answer where
  | reply (reply : Reply)
  | refusal (e : RunError)
  /-- The answer is due when the result of the run arrives. -/
  | flight (flight : Flight)

/-- The session after an operation, what the operation records, and its answer. An operation
either answers at once, or hands a run over and answers when the result of the run arrives; other
operations may come between. -/
structure Session.Step where
  session : Session
  events : List Event
  answer : Answer

/-- The operations of a session, of which some need the time or a fresh id. -/
inductive Session.Request where
  | setLoadValue (fieldId value : String)
  | setActionValue (fieldId value : String)
  | load
  | runAction (actionId : String)
  | confirm (confirmationId : String)
  | cancelConfirmation
  | reset
  deriving DecidableEq, Repr

/-- What an operation gets from outside: the time, the time when it looks again, and an id. -/
structure Session.Moment where
  now : Instant
  later : Instant
  freshId : String
  deriving DecidableEq, Repr

namespace ActionResult

def ofExecution (action : Action) (execution : Execution) : ActionResult :=
  ⟨execution.report,
    if execution.outcome.isSuccess then action.successMessage else action.errorMessage⟩

def toJson (result : ActionResult) : Json :=
  .object (("actionRunId", .string result.report.runId) :: result.report.outcome.members ++
    Json.member? "userMessage" (result.userMessage.map .string))

def isSuccess (result : ActionResult) : Bool := result.report.outcome.isSuccess

end ActionResult

namespace Session.State

def defaults (fields : List Field) : Dict String :=
  .ofPairs (fields.map fun field => (field.id, field.initial))

def fresh (board : Board) (lifetime : Int) (epoch : Nat) : State :=
  { phase := .preLoad
    loadValues := defaults board.loadInputs
    actionValues := defaults board.actionInputs
    output := none
    results := ∅
    gate := .start lifetime
    epoch := epoch }

end Session.State

namespace Session

/-- The lifetime of confirmations in seconds: a year if the limit is beyond all durations. -/
def lifetime (limits : Limits) : Int :=
  let seconds : Int := min limits.confirmationSeconds.toNat (Nat.pow 2 63 - 1)
  if seconds ≤ (Nat.pow 2 63 - 1) / 1000 then seconds else 365 * 86400

def start (id : String) (dashboard : Dashboard) (user : User) (limits : Limits) : Session :=
  let board := dashboard.board.normalize
  { id := id
    dashboardId := dashboard.id
    board := board
    user := user
    state := .fresh board (lifetime limits) 0
    running := false }

def event (session : Session) (occurrence : Occurrence) : Event :=
  ⟨session.user.id, some session.id, occurrence⟩

def refuse (session : Session) (e : RunError) : Step := ⟨session, [], .refusal e⟩

def attempt (session : Session) : Except RunError Step → Step
  | .ok step => step
  | .error e => session.refuse e

def answer (session : Session) (state : State) (events : List Event) (reply : Reply) :
    Except RunError Step :=
  .ok ⟨{ session with state := state }, events, .reply reply⟩

def requirePhase (session : Session) (phase : Phase) : Except RunError Unit :=
  if session.state.phase = phase then .ok () else .error (.wrongPhase phase session.state.phase)

def requireIdle (session : Session) : Except RunError Unit :=
  if session.running then .error .runInFlight else .ok ()

def requireField (fields : List Field) (id : String) : Except RunError Unit :=
  if (Field.find? fields id).isSome then .ok () else .error (.unknownField id)

def requireAction (session : Session) (id : String) : Except RunError Action :=
  match session.board.action? id with
  | some action => .ok action
  | none => .error (.unknownAction id)

/-- Goes on with another state, if it is time to edit the field. -/
def edit (phase : Phase) (fields : List Field) (fieldId : String) (state : State)
    (session : Session) : Except RunError Step := do
  session.requirePhase phase
  requireField fields fieldId
  session.answer state [] .done

def setLoadValue (fieldId value : String) (session : Session) : Except RunError Step :=
  let state := session.state
  session.edit .preLoad session.board.loadInputs fieldId
    { state with loadValues := state.loadValues.insert fieldId value }

def setActionValue (fieldId value : String) (session : Session) : Except RunError Step :=
  let state := session.state
  session.edit .postLoad session.board.actionInputs fieldId
    { state with actionValues := state.actionValues.insert fieldId value }

def load (session : Session) : Except RunError Step := do
  session.requireIdle
  session.requirePhase .preLoad
  let state := session.state
  let validated ←
    (Field.validateById session.board.loadInputs state.loadValues).mapError .validation
  match session.board.prepareAppId with
  | none => session.answer { state with phase := .postLoad } [] (.loaded none)
  | some appId =>
    return ⟨{ session with running := true }, [],
      .flight ⟨appId, Validated.rendered validated, state.epoch, .prepare⟩⟩

/-- All values of the session, or the failures of load and action inputs together. -/
def scope (session : Session) : Except RunError Scope :=
  let state := session.state
  match Field.validateById session.board.loadInputs state.loadValues,
    Field.validateById session.board.actionInputs state.actionValues with
  | .ok load, .ok action => .ok ⟨load, action, state.output, session.user⟩
  | .error first, .error second => .error (.validation (Dict.override first second))
  | .error errors, .ok _ => .error (.validation errors)
  | .ok _, .error errors => .error (.validation errors)

def boundInputs (session : Session) (actionId : String) : Except RunError (Dict String) := do
  let scope ← session.scope
  (session.board.boundInputs actionId scope).mapError .binding

/-- The inputs that an action would be run with now. -/
def preview (session : Session) (actionId : String) : Except RunError (Dict String) := do
  session.requirePhase .postLoad
  let _ ← session.requireAction actionId
  session.boundInputs actionId

def dispatch (session : Session) (action : Action) (inputs : Dict String) (events : List Event) :
    Step :=
  ⟨{ session with running := true }, events,
    .flight ⟨action.appId, inputs, session.state.epoch, .action action⟩⟩

/-- Runs an action, or opens a confirmation if the action asks for one.

An operation is atomic up to its hand-over. The state may be locked twice for it, to check the phase
before the run is reserved, and to check the phase again and take inputs and epoch after; the two
are one step here, before which comes whatever would come between them. -/
def runAction (actionId : String) (moment : Moment) (session : Session) :
    Except RunError Step := do
  session.requirePhase .postLoad
  let action ← session.requireAction actionId
  if action.confirms then
    let (confirmation, gate) ← session.state.gate.request moment.freshId action moment.now
    session.answer { session.state with gate := gate }
      [session.event (.confirmationRequested action.id action.appId)] (.confirmation confirmation)
  else
    session.requireIdle
    let inputs ← session.boundInputs action.id
    return session.dispatch action inputs []

def withGate (session : Session) (gate : Gate) : Session :=
  { session with state := { session.state with gate := gate } }

/-- Runs the action of the pending confirmation. The confirmation is used up only when the action is
ready to be handed over, if it has not expired until then. -/
def confirm (confirmationId : String) (moment : Moment) (session : Session) :
    Except RunError Step := do
  session.requireIdle
  session.requirePhase .postLoad
  match session.state.gate.check confirmationId moment.now with
  | (.error e, gate) => return (session.withGate gate).refuse e
  | (.ok pending, _) =>
    let action ← session.requireAction pending.actionId
    let inputs ← session.boundInputs action.id
    match session.state.gate.take confirmationId moment.later with
    | (.error e, gate) => return (session.withGate gate).refuse e
    | (.ok _, gate) =>
      return (session.withGate gate).dispatch action inputs
        [session.event (.actionConfirmed action.id action.appId)]

def cancelConfirmation (session : Session) : Step :=
  let pending := session.state.gate.pending
  ⟨session.withGate session.state.gate.clear,
    pending.toList.map fun confirmation =>
      session.event (.actionCancelled confirmation.actionId),
    .reply (.cancelled pending)⟩

/-- Starts anew. A run that was handed over goes on, but its result will be dropped. -/
def reset (session : Session) : Step :=
  let state := session.state
  ⟨{ session with state := .fresh session.board state.gate.lifetime (state.epoch + 1) },
    [session.event .sessionReset], .reply .done⟩

/-- An operation at a moment, whose id is used if the operation opens a confirmation. -/
def perform (request : Request) (moment : Moment) (session : Session) : Step :=
  match request with
  | .setLoadValue fieldId value => session.attempt (session.setLoadValue fieldId value)
  | .setActionValue fieldId value => session.attempt (session.setActionValue fieldId value)
  | .load => session.attempt session.load
  | .runAction actionId => session.attempt (session.runAction actionId moment)
  | .confirm confirmationId => session.attempt (session.confirm confirmationId moment)
  | .cancelConfirmation => session.cancelConfirmation
  | .reset => session.reset

/-- A response as it is kept: the value that its text denotes as JSON, or else the text. -/
def capture (response : String) : Json :=
  match Json.parse? response with
  | some json => json.canonical
  | none => .string response

def executed (session : Session) (flight : Flight) (execution : Execution) : Event :=
  session.event <| match flight.errand with
    | .prepare => .prepareExecuted flight.appId execution.runId execution.outcome.status
    | .action action =>
      .actionExecuted action.id flight.appId execution.runId execution.outcome.status

/-- The state with the result of a run that was handed over in it. -/
def keep (state : State) (errand : Errand) (execution : Execution) : State :=
  match errand with
  | .prepare =>
    if execution.outcome.isSuccess then
      { state with phase := .postLoad, output := execution.outcome.response.map capture }
    else state
  | .action action =>
    { state with results := state.results.insert action.id (.ofExecution action execution) }

def replyTo (errand : Errand) (report : Report) : Reply :=
  match errand with
  | .prepare => .loaded (some report)
  | .action _ => .completed report

/-- The result of a run arrives. After a reset it is recorded, but dropped. -/
def arrive (flight : Flight) (result : Except RunError Execution) (session : Session) : Step :=
  let session := { session with running := false }
  match result with
  | .error e => session.refuse e
  | .ok execution =>
    let events := [session.executed flight execution]
    if session.state.epoch = flight.epoch then
      ⟨{ session with state := keep session.state flight.errand execution }, events,
        .reply (replyTo flight.errand execution.report)⟩
    else ⟨session, events, .refusal .sessionReset⟩

def members (session : Session) : List (String × Json) :=
  let state := session.state
  let texts (values : Dict String) : Json :=
    .object (values.toList.map fun (name, value) => (name, .string value))
  [("sessionId", .string session.id), ("dashboardId", .string session.dashboardId),
   ("phase", .string state.phase.name), ("loadValues", texts state.loadValues),
   ("actionValues", texts state.actionValues)] ++
  Json.member? "prepareOutput" state.output ++
  [("actionResults", .object (state.results.toList.map fun (id, result) => (id, result.toJson)))] ++
  Json.member? "pendingConfirmation"
    (state.gate.pending.map fun confirmation => .object confirmation.members) ++
  [("running", .bool session.running)]

def toJson (session : Session) : Json := .object session.members

end Session

end Runbook
