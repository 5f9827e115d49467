import Runbook.Proofs.Results
import Runbook.Session

namespace Runbook

theorem Board.action?_id {board : Board} {id : String} {action : Action}
    (h : board.action? id = some action) : action.id = id := by
  simpa using List.find?_some h

namespace Gate

theorem request_eq_ok_iff {gate next : Gate} {id : String} {action : Action} {now : Instant}
    {confirmation : Confirmation} :
    gate.request id action now = .ok (confirmation, next) ↔
      Confirmation.open? id action now gate.lifetime = some confirmation ∧
        next = { gate with pending := some confirmation } := by
  unfold request
  cases Confirmation.open? id action now gate.lifetime with
  | none => simp
  | some c =>
    constructor
    · intro h
      cases h
      exact ⟨rfl, rfl⟩
    · rintro ⟨h, rfl⟩
      cases h
      rfl

/-- The confirmation of an id is pending, and it has not expired. -/
structure Valid (gate : Gate) (id : String) (now : Instant) (confirmation : Confirmation) :
    Prop where
  pending : gate.pending = some confirmation
  id : confirmation.id = id
  fresh : confirmation.isExpired now = false

theorem check_cases (gate : Gate) (id : String) (now : Instant) :
    (∃ confirmation, gate.Valid id now confirmation ∧
      gate.check id now = (.ok confirmation, gate)) ∨
    (∃ confirmation, gate.pending = some confirmation ∧ confirmation.id = id ∧
      confirmation.isExpired now = true ∧
      gate.check id now = (.error (.confirmationExpired id), gate.clear)) ∨
    gate.check id now = (.error (.confirmationNotFound id), gate) := by
  unfold check
  cases hp : gate.pending with
  | none => exact .inr (.inr rfl)
  | some confirmation =>
    by_cases same : confirmation.id = id
    · cases expired : confirmation.isExpired now with
      | true => exact .inr (.inl ⟨confirmation, rfl, same, expired, by simp [same, expired]⟩)
      | false =>
        exact .inl ⟨confirmation, ⟨hp, same, expired⟩, by simp [same, expired]⟩
    · exact .inr (.inr (by simp [same]))

theorem take_of_check {gate : Gate} {id : String} {now : Instant} {confirmation : Confirmation}
    (h : gate.check id now = (.ok confirmation, gate)) :
    gate.take id now = (.ok confirmation, gate.clear) := by
  simp [take, h]

theorem take_of_check_error {gate next : Gate} {id : String} {now : Instant} {e : RunError}
    (h : gate.check id now = (.error e, next)) : gate.take id now = (.error e, next) := by
  simp [take, h]

end Gate

namespace Session

theorem requirePhase_eq_ok_iff {session : Session} {phase : Phase} {u : Unit} :
    session.requirePhase phase = .ok u ↔ session.state.phase = phase := by
  unfold requirePhase
  split
  next h => simp [h]
  next h => simp [h]

theorem requireIdle_eq_ok_iff {session : Session} {u : Unit} :
    session.requireIdle = .ok u ↔ session.running = false := by
  unfold requireIdle
  split
  next h => simp [h]
  next h => simpa using h

theorem requireField_eq_ok_iff {fields : List Field} {id : String} {u : Unit} :
    requireField fields id = .ok u ↔ (Field.find? fields id).isSome = true := by
  unfold requireField
  split
  next h => simp [h]
  next h => simp [h]

theorem requireAction_eq_ok_iff {session : Session} {id : String} {action : Action} :
    session.requireAction id = .ok action ↔ session.board.action? id = some action := by
  unfold requireAction
  split
  next h => simp [h]
  next h => simp [h]

def Request.mayFail : Request → Bool
  | .cancelConfirmation => false
  | .reset => false
  | _ => true

/-- What an operation can come to, and on what conditions. -/
inductive Performed (session : Session) (moment : Moment) : Request → Step → Prop where
  | refused {request : Request} (e : RunError) (mayFail : request.mayFail = true) :
    Performed session moment request (session.refuse e)
  | expired {confirmation : Confirmation} (idle : session.running = false)
      (phase : session.state.phase = .postLoad)
      (pending : session.state.gate.pending = some confirmation)
      (late : confirmation.isExpired moment.now = true ∨
        confirmation.isExpired moment.later = true) :
    Performed session moment (.confirm confirmation.id)
      ((session.withGate session.state.gate.clear).refuse (.confirmationExpired confirmation.id))
  | loadValueSet {fieldId value : String} (phase : session.state.phase = .preLoad)
      (field : (Field.find? session.board.loadInputs fieldId).isSome = true) :
    Performed session moment (.setLoadValue fieldId value)
      ⟨{ session with state := { session.state with
          loadValues := session.state.loadValues.insert fieldId value } }, [], .reply .done⟩
  | actionValueSet {fieldId value : String} (phase : session.state.phase = .postLoad)
      (field : (Field.find? session.board.actionInputs fieldId).isSome = true) :
    Performed session moment (.setActionValue fieldId value)
      ⟨{ session with state := { session.state with
          actionValues := session.state.actionValues.insert fieldId value } }, [], .reply .done⟩
  | loaded {validated : List Validated} (idle : session.running = false)
      (phase : session.state.phase = .preLoad)
      (valid : Field.validateById session.board.loadInputs session.state.loadValues =
        .ok validated)
      (unprepared : session.board.prepareAppId = none) :
    Performed session moment .load
      ⟨{ session with state := { session.state with phase := .postLoad } }, [],
        .reply (.loaded none)⟩
  | preparing {validated : List Validated} {appId : String} (idle : session.running = false)
      (phase : session.state.phase = .preLoad)
      (valid : Field.validateById session.board.loadInputs session.state.loadValues =
        .ok validated)
      (prepared : session.board.prepareAppId = some appId) :
    Performed session moment .load
      ⟨{ session with running := true }, [],
        .flight ⟨appId, Validated.rendered validated, session.state.epoch, .prepare⟩⟩
  | opened {action : Action} {confirmation : Confirmation}
      (phase : session.state.phase = .postLoad)
      (found : session.board.action? action.id = some action) (confirms : action.confirms = true)
      (opens : Confirmation.open? moment.freshId action moment.now session.state.gate.lifetime =
        some confirmation) :
    Performed session moment (.runAction action.id)
      ⟨session.withGate { session.state.gate with pending := some confirmation },
        [session.event (.confirmationRequested action.id action.appId)],
        .reply (.confirmation confirmation)⟩
  | started {action : Action} {inputs : Dict String} (idle : session.running = false)
      (phase : session.state.phase = .postLoad)
      (found : session.board.action? action.id = some action)
      (direct : action.confirms = false) (bound : session.boundInputs action.id = .ok inputs) :
    Performed session moment (.runAction action.id) (session.dispatch action inputs [])
  | confirmed {confirmation : Confirmation} {action : Action} {inputs : Dict String}
      (idle : session.running = false) (phase : session.state.phase = .postLoad)
      (pending : session.state.gate.pending = some confirmation)
      (now : confirmation.isExpired moment.now = false)
      (later : confirmation.isExpired moment.later = false)
      (found : session.board.action? confirmation.actionId = some action)
      (bound : session.boundInputs action.id = .ok inputs) :
    Performed session moment (.confirm confirmation.id)
      ((session.withGate session.state.gate.clear).dispatch action inputs
        [session.event (.actionConfirmed action.id action.appId)])
  | cancelled : Performed session moment .cancelConfirmation session.cancelConfirmation
  | reset : Performed session moment .reset session.reset

theorem performed_attempt {session : Session} {moment : Moment} {request : Request}
    {step : Except RunError Step} (mayFail : request.mayFail = true)
    (h : ∀ s, step = .ok s → Performed session moment request s) :
    Performed session moment request (session.attempt step) := by
  cases step with
  | error e => exact .refused e mayFail
  | ok s => exact h s rfl

theorem edit_eq_ok {session : Session} {phase : Phase} {fields : List Field} {fieldId : String}
    {state : State} {step : Step} (h : session.edit phase fields fieldId state = .ok step) :
    session.state.phase = phase ∧ (Field.find? fields fieldId).isSome = true ∧
      step = ⟨{ session with state := state }, [], .reply .done⟩ := by
  obtain ⟨_, reached, h⟩ := Except.bind_eq_ok_iff.mp h
  obtain ⟨_, known, h⟩ := Except.bind_eq_ok_iff.mp h
  exact ⟨requirePhase_eq_ok_iff.mp reached, requireField_eq_ok_iff.mp known,
    (Except.ok.inj h).symm⟩

theorem performed_load (session : Session) (moment : Moment) :
    Performed session moment .load (session.attempt session.load) := by
  refine performed_attempt rfl fun s h => ?_
  obtain ⟨_, idle, h⟩ := Except.bind_eq_ok_iff.mp h
  obtain ⟨_, phase, h⟩ := Except.bind_eq_ok_iff.mp h
  obtain ⟨validated, valid, h⟩ := Except.bind_eq_ok_iff.mp h
  have hi := requireIdle_eq_ok_iff.mp idle
  have hp := requirePhase_eq_ok_iff.mp phase
  have hv := Except.mapError_eq_ok_iff.mp valid
  cases prepared : session.board.prepareAppId with
  | none =>
    rw [prepared] at h
    cases h
    exact .loaded hi hp hv prepared
  | some appId =>
    rw [prepared] at h
    cases h
    exact .preparing hi hp hv prepared

theorem performed_runAction (session : Session) (moment : Moment) (actionId : String) :
    Performed session moment (.runAction actionId)
      (session.attempt (session.runAction actionId moment)) := by
  refine performed_attempt rfl fun s h => ?_
  obtain ⟨_, phase, h⟩ := Except.bind_eq_ok_iff.mp h
  obtain ⟨action, required, h⟩ := Except.bind_eq_ok_iff.mp h
  have hp := requirePhase_eq_ok_iff.mp phase
  have found := requireAction_eq_ok_iff.mp required
  have same := Board.action?_id found
  split at h
  next confirms =>
    obtain ⟨⟨confirmation, gate⟩, request, h⟩ := Except.bind_eq_ok_iff.mp h
    obtain ⟨opens, rfl⟩ := Gate.request_eq_ok_iff.mp request
    cases h
    subst same
    exact .opened hp found confirms opens
  next direct =>
    obtain ⟨_, idle, h⟩ := Except.bind_eq_ok_iff.mp h
    obtain ⟨inputs, bound, h⟩ := Except.bind_eq_ok_iff.mp h
    cases h
    subst same
    exact .started (requireIdle_eq_ok_iff.mp idle) hp found (by simpa using direct) bound

theorem performed_confirm (session : Session) (moment : Moment) (id : String) :
    Performed session moment (.confirm id) (session.attempt (session.confirm id moment)) := by
  refine performed_attempt rfl fun s h => ?_
  obtain ⟨_, idle, h⟩ := Except.bind_eq_ok_iff.mp h
  obtain ⟨_, phase, h⟩ := Except.bind_eq_ok_iff.mp h
  have hi := requireIdle_eq_ok_iff.mp idle
  have hp := requirePhase_eq_ok_iff.mp phase
  rcases session.state.gate.check_cases id moment.now with
    ⟨confirmation, valid, check⟩ | ⟨confirmation, pending, rfl, late, check⟩ | check
  · rw [check] at h
    obtain ⟨action, required, h⟩ := Except.bind_eq_ok_iff.mp h
    obtain ⟨inputs, bound, h⟩ := Except.bind_eq_ok_iff.mp h
    have found := requireAction_eq_ok_iff.mp required
    obtain rfl := valid.id
    rcases session.state.gate.check_cases confirmation.id moment.later with
      ⟨again, valid', check⟩ | ⟨again, pending, _, late, check⟩ | check
    · rw [Gate.take_of_check check] at h
      cases h
      cases Option.some.inj (valid.pending.symm.trans valid'.pending)
      exact .confirmed hi hp valid.pending valid.fresh valid'.fresh found bound
    · rw [Gate.take_of_check_error check] at h
      cases h
      cases Option.some.inj (valid.pending.symm.trans pending)
      exact .expired hi hp pending (.inr late)
    · rw [Gate.take_of_check_error check] at h
      cases h
      exact .refused _ rfl
  · rw [check] at h
    cases h
    exact .expired hi hp pending (.inl late)
  · rw [check] at h
    cases h
    exact .refused _ rfl

theorem performed (session : Session) (request : Request) (moment : Moment) :
    Performed session moment request (session.perform request moment) := by
  cases request with
  | setLoadValue fieldId value =>
    refine performed_attempt rfl fun s h => ?_
    obtain ⟨phase, field, rfl⟩ := edit_eq_ok h
    exact .loadValueSet phase field
  | setActionValue fieldId value =>
    refine performed_attempt rfl fun s h => ?_
    obtain ⟨phase, field, rfl⟩ := edit_eq_ok h
    exact .actionValueSet phase field
  | load => exact performed_load session moment
  | runAction actionId => exact performed_runAction session moment actionId
  | confirm id => exact performed_confirm session moment id
  | cancelConfirmation => exact .cancelled
  | reset => exact .reset

/-- A result that is kept changes neither what was entered nor what waits to be confirmed. -/
theorem keep_frame (state : State) (errand : Errand) (execution : Execution) :
    (keep state errand execution).gate = state.gate ∧
      (keep state errand execution).epoch = state.epoch ∧
      (keep state errand execution).loadValues = state.loadValues ∧
      (keep state errand execution).actionValues = state.actionValues := by
  cases errand with
  | prepare =>
    unfold keep
    dsimp only
    split
    next => exact ⟨rfl, rfl, rfl, rfl⟩
    next => exact ⟨rfl, rfl, rfl, rfl⟩
  | action action => exact ⟨rfl, rfl, rfl, rfl⟩

/-- What the arrival of a result can come to. -/
inductive Arrived (session : Session) (flight : Flight) :
    Except RunError Execution → Step → Prop where
  | failed (e : RunError) :
    Arrived session flight (.error e) ({ session with running := false }.refuse e)
  | late (execution : Execution) (epoch : session.state.epoch ≠ flight.epoch) :
    Arrived session flight (.ok execution)
      ⟨{ session with running := false }, [session.executed flight execution],
        .refusal .sessionReset⟩
  | kept (execution : Execution) (epoch : session.state.epoch = flight.epoch) :
    Arrived session flight (.ok execution)
      ⟨{ session with running := false, state := keep session.state flight.errand execution },
        [session.executed flight execution], .reply (replyTo flight.errand execution.report)⟩

theorem arrived (session : Session) (flight : Flight) (result : Except RunError Execution) :
    Arrived session flight result (session.arrive flight result) := by
  unfold arrive
  cases result with
  | error e => exact .failed e
  | ok execution =>
    dsimp only
    split
    next epoch => exact .kept execution epoch
    next epoch => exact .late execution epoch

end Session

end Runbook
