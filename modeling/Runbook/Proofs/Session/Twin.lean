import Mathlib.Logic.Function.Basic
import Runbook.Proofs.Session.Running

namespace Runbook

theorem Dict.map_insert {α β : Type} (dict : Dict α) (f : α → β) (key : String) (value : α) :
    (dict.insert key value).map (fun _ => f) = (dict.map fun _ => f).insert key (f value) := by
  refine Std.ExtTreeMap.ext_getElem? fun other => ?_
  simp only [Std.ExtTreeMap.getElem?_map, Std.ExtTreeMap.getElem?_insert]
  split <;> rfl

theorem Dict.map_empty {α β : Type} (f : α → β) :
    (∅ : Dict α).map (fun _ => f) = ∅ :=
  Std.ExtTreeMap.map_eq_empty_iff.mpr rfl

/-- How a twin names things, and in which epoch of the other session it was started. -/
structure Twin where
  sessionId : String
  confirmationId : String → String
  runId : String → String
  born : Nat
  distinct : Function.Injective confirmationId

namespace Twin

variable (twin : Twin)

def confirmation (confirmation : Confirmation) : Confirmation :=
  { confirmation with id := twin.confirmationId confirmation.id }

def gate (gate : Gate) : Gate := { gate with pending := gate.pending.map twin.confirmation }

def report (report : Report) : Report := { report with runId := twin.runId report.runId }

def result (result : ActionResult) : ActionResult :=
  { result with report := twin.report result.report }

def state (state : Session.State) : Session.State :=
  { state with
    results := state.results.map fun _ => twin.result
    gate := twin.gate state.gate
    epoch := state.epoch - twin.born }

def session (session : Session) : Session :=
  { session with id := twin.sessionId, state := twin.state session.state }

def request : Session.Request → Session.Request
  | .confirm id => .confirm (twin.confirmationId id)
  | request => request

def moment (moment : Session.Moment) : Session.Moment :=
  { moment with freshId := twin.confirmationId moment.freshId }

def flight (flight : Session.Flight) : Session.Flight :=
  { flight with epoch := flight.epoch - twin.born }

def execution (execution : Execution) : Execution :=
  { execution with runId := twin.runId execution.runId }

def error : RunError → RunError
  | .confirmationNotFound id => .confirmationNotFound (twin.confirmationId id)
  | .confirmationExpired id => .confirmationExpired (twin.confirmationId id)
  | e => e

def reply : Session.Reply → Session.Reply
  | .done => .done
  | .loaded report => .loaded (report.map twin.report)
  | .completed report => .completed (twin.report report)
  | .confirmation confirmation => .confirmation (twin.confirmation confirmation)
  | .cancelled confirmation => .cancelled (confirmation.map twin.confirmation)

def answer : Session.Answer → Session.Answer
  | .reply reply => .reply (twin.reply reply)
  | .refusal e => .refusal (twin.error e)
  | .flight flight => .flight (twin.flight flight)

def occurrence : Occurrence → Occurrence
  | .appExecuted appId runId status => .appExecuted appId (twin.runId runId) status
  | .prepareExecuted appId runId status => .prepareExecuted appId (twin.runId runId) status
  | .actionExecuted actionId appId runId status =>
    .actionExecuted actionId appId (twin.runId runId) status
  | occurrence => occurrence

def event (event : Event) : Event :=
  { event with
    sessionId := event.sessionId.map fun _ => twin.sessionId
    occurrence := twin.occurrence event.occurrence }

def step (step : Session.Step) : Session.Step :=
  ⟨twin.session step.session, step.events.map twin.event, twin.answer step.answer⟩

def happening : Session.Happening → Session.Happening
  | .asked request moment => .asked (twin.request request) (twin.moment moment)
  | .arrived flight result =>
    .arrived (twin.flight flight) ((result.map twin.execution).mapError twin.error)

def tried (step : Except RunError Session.Step) : Except RunError Session.Step :=
  (step.map twin.step).mapError twin.error

def checked (found : Except RunError Confirmation × Gate) : Except RunError Confirmation × Gate :=
  ((found.1.map twin.confirmation).mapError twin.error, twin.gate found.2)

theorem check_gate (gate : Gate) (id : String) (now : Instant) :
    (twin.gate gate).check (twin.confirmationId id) now = twin.checked (gate.check id now) := by
  obtain ⟨lifetime, pending⟩ := gate
  cases pending with
  | none => rfl
  | some confirmation =>
    have same : (twin.confirmation confirmation).id ≠ twin.confirmationId id ↔
        confirmation.id ≠ id := twin.distinct.ne_iff
    have late : (twin.confirmation confirmation).isExpired now = confirmation.isExpired now := rfl
    simp only [Gate.check, Twin.gate, Option.map_some, same, late]
    by_cases other : confirmation.id ≠ id
    · simp only [if_pos other]
      rfl
    · simp only [if_neg other]
      cases confirmation.isExpired now <;> rfl

theorem take_gate (gate : Gate) (id : String) (now : Instant) :
    (twin.gate gate).take (twin.confirmationId id) now = twin.checked (gate.take id now) := by
  unfold Gate.take
  rw [check_gate]
  obtain ⟨found, next⟩ := gate.check id now
  cases found <;> rfl

theorem open?_confirmationId (id : String) (action : Action) (now : Instant) (seconds : Int) :
    Confirmation.open? (twin.confirmationId id) action now seconds =
      (Confirmation.open? id action now seconds).map twin.confirmation := by
  unfold Confirmation.open?
  cases now.after? seconds <;> rfl

theorem attempt_tried (session : Session) (step : Except RunError Session.Step) :
    (twin.session session).attempt (twin.tried step) = twin.step (session.attempt step) := by
  cases step with
  | error e => rfl
  | ok step => rfl

/-- What the twin does first, it does like the other, and its errors name no confirmation. -/
theorem tried_bind {α : Type} {x : Except RunError α} {f g : α → Except RunError Session.Step}
    (plain : ∀ e, x = .error e → twin.error e = e)
    (next : ∀ a, x = .ok a → f a = twin.tried (g a)) : x.bind f = twin.tried (x.bind g) := by
  cases x with
  | error e => exact congrArg Except.error (plain e rfl).symm
  | ok a => exact next a rfl

section Guards

variable {session : Session} {e : RunError}

theorem error_requirePhase {phase : Phase} (h : session.requirePhase phase = .error e) :
    twin.error e = e := by
  obtain ⟨_, rfl⟩ := Session.requirePhase_eq_error_iff.mp h
  rfl

theorem error_requireIdle (h : session.requireIdle = .error e) : twin.error e = e := by
  obtain ⟨_, rfl⟩ := Session.requireIdle_eq_error_iff.mp h
  rfl

theorem error_requireField {fields : List Field} {id : String}
    (h : Session.requireField fields id = .error e) : twin.error e = e := by
  obtain ⟨_, rfl⟩ := Session.requireField_eq_error_iff.mp h
  rfl

theorem error_requireAction {id : String} (h : session.requireAction id = .error e) :
    twin.error e = e := by
  obtain ⟨_, rfl⟩ := Session.requireAction_eq_error_iff.mp h
  rfl

theorem error_boundInputs {id : String} (h : session.boundInputs id = .error e) :
    twin.error e = e := by
  cases Session.unbound_of_boundInputs h <;> rfl

theorem error_validation {result : Except FieldErrors (List Validated)}
    (h : result.mapError .validation = .error e) : twin.error e = e := by
  obtain ⟨_, _, rfl⟩ := Except.mapError_eq_error_iff.mp h
  rfl

end Guards

variable (session : Session)

theorem edit_session (phase : Phase) (fields : List Field) (fieldId : String)
    (state : Session.State) :
    (twin.session session).edit phase fields fieldId (twin.state state) =
      twin.tried (session.edit phase fields fieldId state) := by
  refine twin.tried_bind (fun _ => twin.error_requirePhase) fun _ _ => ?_
  exact twin.tried_bind (fun _ => twin.error_requireField) fun _ _ => rfl

theorem load_session : (twin.session session).load = twin.tried session.load := by
  refine twin.tried_bind (fun _ => twin.error_requireIdle) fun _ _ => ?_
  refine twin.tried_bind (fun _ => twin.error_requirePhase) fun _ _ => ?_
  refine twin.tried_bind (fun _ => twin.error_validation) fun _ _ => ?_
  dsimp only [Twin.session]
  cases session.board.prepareAppId <;> rfl

theorem runAction_session (actionId : String) (moment : Session.Moment) :
    (twin.session session).runAction actionId (twin.moment moment) =
      twin.tried (session.runAction actionId moment) := by
  refine twin.tried_bind (fun _ => twin.error_requirePhase) fun _ _ => ?_
  refine twin.tried_bind (fun _ => twin.error_requireAction) fun action _ => ?_
  split
  next =>
    unfold Gate.request
    rw [show (twin.moment moment).freshId = twin.confirmationId moment.freshId from rfl,
      open?_confirmationId]
    dsimp only [Twin.moment, Twin.session, Twin.state, Twin.gate]
    cases Confirmation.open? moment.freshId action moment.now session.state.gate.lifetime <;> rfl
  next =>
    refine twin.tried_bind (fun _ => twin.error_requireIdle) fun _ _ => ?_
    exact twin.tried_bind (fun _ => twin.error_boundInputs) fun _ _ => rfl

theorem confirm_session (id : String) (moment : Session.Moment) :
    (twin.session session).confirm (twin.confirmationId id) (twin.moment moment) =
      twin.tried (session.confirm id moment) := by
  refine twin.tried_bind (fun _ => twin.error_requireIdle) fun _ _ => ?_
  refine twin.tried_bind (fun _ => twin.error_requirePhase) fun _ _ => ?_
  have check := twin.check_gate session.state.gate id moment.now
  have take := twin.take_gate session.state.gate id moment.later
  dsimp only [Twin.session, Twin.state, Twin.moment]
  rw [check, take]
  obtain ⟨found, gate⟩ := session.state.gate.check id moment.now
  cases found with
  | error e => rfl
  | ok pending =>
    refine twin.tried_bind (fun _ => twin.error_requireAction) fun action _ => ?_
    refine twin.tried_bind (fun _ => twin.error_boundInputs) fun inputs _ => ?_
    obtain ⟨taken, gate⟩ := session.state.gate.take id moment.later
    cases taken <;> rfl

theorem cancelConfirmation_session :
    (twin.session session).cancelConfirmation = twin.step session.cancelConfirmation := by
  unfold Session.cancelConfirmation
  dsimp only [Twin.session, Twin.state, Twin.gate]
  cases pending : session.state.gate.pending with
  | none => rfl
  | some confirmation => rfl

theorem state_fresh (board : Board) (lifetime : Int) (epoch : Nat) :
    twin.state (.fresh board lifetime epoch) = .fresh board lifetime (epoch - twin.born) := by
  unfold Twin.state Session.State.fresh
  rw [Dict.map_empty]
  rfl

theorem reset_session (old : twin.born ≤ session.state.epoch) :
    (twin.session session).reset = twin.step session.reset := by
  have fresh := twin.state_fresh session.board session.state.gate.lifetime
    (session.state.epoch + 1)
  rw [show session.state.epoch + 1 - twin.born = session.state.epoch - twin.born + 1 by omega]
    at fresh
  simp only [Session.reset, Twin.step, Twin.session, fresh]
  rfl

theorem perform_session (old : twin.born ≤ session.state.epoch) (request : Session.Request)
    (moment : Session.Moment) :
    (twin.session session).perform (twin.request request) (twin.moment moment) =
      twin.step (session.perform request moment) := by
  cases request with
  | setLoadValue fieldId value =>
    have edit := twin.edit_session session .preLoad session.board.loadInputs fieldId
      { session.state with loadValues := session.state.loadValues.insert fieldId value }
    exact (congrArg _ edit).trans (twin.attempt_tried ..)
  | setActionValue fieldId value =>
    have edit := twin.edit_session session .postLoad session.board.actionInputs fieldId
      { session.state with actionValues := session.state.actionValues.insert fieldId value }
    exact (congrArg _ edit).trans (twin.attempt_tried ..)
  | load => exact (congrArg _ (twin.load_session ..)).trans (twin.attempt_tried ..)
  | runAction actionId =>
    exact (congrArg _ (twin.runAction_session ..)).trans (twin.attempt_tried ..)
  | confirm id => exact (congrArg _ (twin.confirm_session ..)).trans (twin.attempt_tried ..)
  | cancelConfirmation => exact twin.cancelConfirmation_session session
  | reset => exact twin.reset_session session old

theorem state_keep (state : Session.State) (errand : Session.Errand) (execution : Execution) :
    twin.state (Session.keep state errand execution) =
      Session.keep (twin.state state) errand (twin.execution execution) := by
  cases errand with
  | prepare =>
    simp only [Session.keep]
    rw [show (twin.execution execution).outcome = execution.outcome from rfl]
    split <;> rfl
  | action action =>
    simp only [Session.keep, Twin.state, Dict.map_insert]
    rfl

theorem executed_session (flight : Session.Flight) (execution : Execution) :
    (twin.session session).executed (twin.flight flight) (twin.execution execution) =
      twin.event (session.executed flight execution) := by
  unfold Session.executed
  dsimp only [Twin.flight]
  cases flight.errand <;> rfl

theorem replyTo_report (errand : Session.Errand) (report : Report) :
    Session.replyTo errand (twin.report report) = twin.reply (Session.replyTo errand report) := by
  cases errand <;> rfl

theorem arrive_session (old : twin.born ≤ session.state.epoch) {flight : Session.Flight}
    (known : twin.born ≤ flight.epoch) (result : Except RunError Execution) :
    (twin.session session).arrive (twin.flight flight)
        ((result.map twin.execution).mapError twin.error) =
      twin.step (session.arrive flight result) := by
  cases result with
  | error e => rfl
  | ok execution =>
    have executed := twin.executed_session session flight execution
    have reply := twin.replyTo_report flight.errand execution.report
    have kept := twin.state_keep session.state flight.errand execution
    by_cases epoch : session.state.epoch = flight.epoch
    · have same : (twin.state session.state).epoch = (twin.flight flight).epoch :=
        congrArg (· - twin.born) epoch
      refine (if_pos same).trans (Eq.trans ?_ (congrArg twin.step (if_pos epoch).symm))
      simp only [Twin.step, Twin.session, Twin.answer, ← reply, kept]
      exact congrArg (fun event => Session.Step.mk _ [event] _) executed
    · have other : (twin.state session.state).epoch ≠ (twin.flight flight).epoch := by
        change session.state.epoch - twin.born ≠ flight.epoch - twin.born
        omega
      refine (if_neg other).trans (Eq.trans ?_ (congrArg twin.step (if_neg epoch).symm))
      exact congrArg (fun event => Session.Step.mk _ [event] _) executed

end Twin

end Runbook
