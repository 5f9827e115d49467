import Runbook.Proofs.Session.Steps

namespace Runbook

namespace Gate

theorem request_eq_error_iff {gate : Gate} {id : String} {action : Action} {now : Instant}
    {e : RunError} :
    gate.request id action now = .error e ↔
      Confirmation.open? id action now gate.lifetime = none ∧ e = .expiryOutOfRange := by
  unfold request
  cases Confirmation.open? id action now gate.lifetime with
  | none => simp [eq_comm]
  | some c => simp

theorem ne_of_check_notFound {gate next : Gate} {id other : String} {now : Instant}
    (h : gate.check id now = (.error (.confirmationNotFound other), next)) :
    ∀ confirmation, gate.pending = some confirmation → confirmation.id ≠ id := by
  intro confirmation pending same
  unfold check at h
  simp only [pending, same, ne_eq, not_true_eq_false, if_false] at h
  split at h <;> cases h

end Gate

namespace Session

theorem requirePhase_eq_error_iff {session : Session} {phase : Phase} {e : RunError} :
    session.requirePhase phase = .error e ↔
      session.state.phase ≠ phase ∧ e = .wrongPhase phase session.state.phase := by
  unfold requirePhase
  split
  next h => simp [h]
  next h => simp [h, eq_comm]

theorem requireIdle_eq_error_iff {session : Session} {e : RunError} :
    session.requireIdle = .error e ↔ session.running = true ∧ e = .runInFlight := by
  unfold requireIdle
  split
  next h => simp [h, eq_comm]
  next h => simp [h]

theorem requireField_eq_error_iff {fields : List Field} {id : String} {e : RunError} :
    requireField fields id = .error e ↔ Field.find? fields id = none ∧ e = .unknownField id := by
  unfold requireField
  split
  next h => simp [Option.isSome_iff_ne_none.mp h]
  next h => simp [Option.not_isSome_iff_eq_none.mp h, eq_comm]

theorem requireAction_eq_error_iff {session : Session} {id : String} {e : RunError} :
    session.requireAction id = .error e ↔
      session.board.action? id = none ∧ e = .unknownAction id := by
  unfold requireAction
  split
  next h => simp [h]
  next h => simp [h, eq_comm]

/-- Inputs that cannot be bound are invalid, or a binding of theirs fails. -/
inductive Unbound : RunError → Prop where
  | validation (errors : FieldErrors) : Unbound (.validation errors)
  | binding (e : BindingError) : Unbound (.binding e)

theorem validation_of_scope {session : Session} {e : RunError}
    (h : session.scope = .error e) : ∃ errors, e = .validation errors := by
  unfold scope at h
  dsimp only at h
  split at h <;> cases h <;> exact ⟨_, rfl⟩

theorem unbound_of_boundInputs {session : Session} {actionId : String} {e : RunError}
    (h : session.boundInputs actionId = .error e) : Unbound e := by
  rcases Except.bind_eq_error_iff.mp h with h | ⟨scope, _, h⟩
  · obtain ⟨errors, rfl⟩ := validation_of_scope h
    exact .validation errors
  · obtain ⟨failure, _, rfl⟩ := Except.mapError_eq_error_iff.mp h
    exact .binding failure

def Request.phase? : Request → Option Phase
  | .setLoadValue _ _ => some .preLoad
  | .load => some .preLoad
  | .setActionValue _ _ => some .postLoad
  | .runAction _ => some .postLoad
  | .confirm _ => some .postLoad
  | .cancelConfirmation => none
  | .reset => none

/-- The refusals of an operation, with what it misses. -/
inductive Refused (session : Session) (moment : Moment) : Request → Step → Prop where
  | phase {request : Request} {phase : Phase} (needs : request.phase? = some phase)
      (other : session.state.phase ≠ phase) :
    Refused session moment request (session.refuse (.wrongPhase phase session.state.phase))
  | busy {request : Request} (busy : session.running = true) :
    Refused session moment request (session.refuse .runInFlight)
  | loadField {fieldId value : String}
      (unknown : Field.find? session.board.loadInputs fieldId = none) :
    Refused session moment (.setLoadValue fieldId value) (session.refuse (.unknownField fieldId))
  | actionField {fieldId value : String}
      (unknown : Field.find? session.board.actionInputs fieldId = none) :
    Refused session moment (.setActionValue fieldId value) (session.refuse (.unknownField fieldId))
  | invalid {errors : FieldErrors}
      (invalid : Field.validateById session.board.loadInputs session.state.loadValues =
        .error errors) :
    Refused session moment .load (session.refuse (.validation errors))
  | unknown {actionId : String} (unknown : session.board.action? actionId = none) :
    Refused session moment (.runAction actionId) (session.refuse (.unknownAction actionId))
  | outOfRange {action : Action} (found : session.board.action? action.id = some action)
      (never : Confirmation.open? moment.freshId action moment.now session.state.gate.lifetime =
        none) :
    Refused session moment (.runAction action.id) (session.refuse .expiryOutOfRange)
  | unbound {action : Action} {e : RunError} (unbound : Unbound e)
      (found : session.board.action? action.id = some action)
      (bound : session.boundInputs action.id = .error e) :
    Refused session moment (.runAction action.id) (session.refuse e)
  | notFound {id : String}
      (absent : ∀ confirmation, session.state.gate.pending = some confirmation →
        confirmation.id ≠ id) :
    Refused session moment (.confirm id) (session.refuse (.confirmationNotFound id))
  | expired {confirmation : Confirmation}
      (pending : session.state.gate.pending = some confirmation)
      (late : confirmation.isExpired moment.now = true ∨
        confirmation.isExpired moment.later = true) :
    Refused session moment (.confirm confirmation.id)
      ((session.withGate session.state.gate.clear).refuse (.confirmationExpired confirmation.id))
  | withdrawn {confirmation : Confirmation}
      (pending : session.state.gate.pending = some confirmation)
      (unknown : session.board.action? confirmation.actionId = none) :
    Refused session moment (.confirm confirmation.id)
      (session.refuse (.unknownAction confirmation.actionId))
  | unready {confirmation : Confirmation} {action : Action} {e : RunError} (unbound : Unbound e)
      (pending : session.state.gate.pending = some confirmation)
      (found : session.board.action? confirmation.actionId = some action)
      (bound : session.boundInputs action.id = .error e) :
    Refused session moment (.confirm confirmation.id) (session.refuse e)

variable {session : Session} {moment : Moment} {e : RunError}

theorem refused_attempt {request : Request} {step : Except RunError Step}
    (failed : ∀ e, step = .error e → Refused session moment request (session.refuse e))
    (done : ∀ s, step = .ok s → s.answer = .refusal e → Refused session moment request s)
    (h : (session.attempt step).answer = .refusal e) :
    Refused session moment request (session.attempt step) := by
  cases step with
  | error e => exact failed e rfl
  | ok s => exact done s rfl h

theorem refused_edit {request : Request} {phase : Phase} {fields : List Field} {fieldId : String}
    {state : State} (needs : request.phase? = some phase)
    (unknown : Field.find? fields fieldId = none →
      Refused session moment request (session.refuse (.unknownField fieldId)))
    (h : (session.attempt (session.edit phase fields fieldId state)).answer = .refusal e) :
    Refused session moment request
      (session.attempt (session.edit phase fields fieldId state)) := by
  refine refused_attempt (fun e h => ?_) (fun s h answer => ?_) h
  · rcases Except.bind_eq_error_iff.mp h with h | ⟨_, _, h⟩
    · obtain ⟨other, rfl⟩ := requirePhase_eq_error_iff.mp h
      exact .phase needs other
    rcases Except.bind_eq_error_iff.mp h with h | ⟨_, _, h⟩
    · obtain ⟨missing, rfl⟩ := requireField_eq_error_iff.mp h
      exact unknown missing
    · cases h
  · obtain ⟨_, _, rfl⟩ := edit_eq_ok h
    cases answer

theorem refused_load (h : (session.attempt session.load).answer = .refusal e) :
    Refused session moment .load (session.attempt session.load) := by
  refine refused_attempt (fun e h => ?_) (fun s h answer => ?_) h
  · rcases Except.bind_eq_error_iff.mp h with h | ⟨_, _, h⟩
    · obtain ⟨busy, rfl⟩ := requireIdle_eq_error_iff.mp h
      exact .busy busy
    rcases Except.bind_eq_error_iff.mp h with h | ⟨_, _, h⟩
    · obtain ⟨other, rfl⟩ := requirePhase_eq_error_iff.mp h
      exact .phase rfl other
    rcases Except.bind_eq_error_iff.mp h with h | ⟨_, _, h⟩
    · obtain ⟨errors, invalid, rfl⟩ := Except.mapError_eq_error_iff.mp h
      exact .invalid invalid
    · split at h <;> cases h
  · obtain ⟨_, _, h⟩ := Except.bind_eq_ok_iff.mp h
    obtain ⟨_, _, h⟩ := Except.bind_eq_ok_iff.mp h
    obtain ⟨_, _, h⟩ := Except.bind_eq_ok_iff.mp h
    split at h <;> cases h <;> cases answer

theorem refused_runAction {actionId : String}
    (h : (session.attempt (session.runAction actionId moment)).answer = .refusal e) :
    Refused session moment (.runAction actionId)
      (session.attempt (session.runAction actionId moment)) := by
  refine refused_attempt (fun e h => ?_) (fun s h answer => ?_) h
  · rcases Except.bind_eq_error_iff.mp h with h | ⟨_, _, h⟩
    · obtain ⟨other, rfl⟩ := requirePhase_eq_error_iff.mp h
      exact .phase rfl other
    rcases Except.bind_eq_error_iff.mp h with h | ⟨action, required, h⟩
    · obtain ⟨unknown, rfl⟩ := requireAction_eq_error_iff.mp h
      exact .unknown unknown
    have found := requireAction_eq_ok_iff.mp required
    have same := Board.action?_id found
    split at h
    next =>
      rcases Except.bind_eq_error_iff.mp h with h | ⟨_, _, h⟩
      · obtain ⟨never, rfl⟩ := Gate.request_eq_error_iff.mp h
        subst same
        exact .outOfRange found never
      · cases h
    next =>
      rcases Except.bind_eq_error_iff.mp h with h | ⟨_, _, h⟩
      · obtain ⟨busy, rfl⟩ := requireIdle_eq_error_iff.mp h
        exact .busy busy
      rcases Except.bind_eq_error_iff.mp h with bound | ⟨_, _, h⟩
      · subst same
        exact .unbound (unbound_of_boundInputs bound) found bound
      · cases h
  · obtain ⟨_, _, h⟩ := Except.bind_eq_ok_iff.mp h
    obtain ⟨_, _, h⟩ := Except.bind_eq_ok_iff.mp h
    split at h
    next =>
      obtain ⟨_, _, h⟩ := Except.bind_eq_ok_iff.mp h
      cases h
      cases answer
    next =>
      obtain ⟨_, _, h⟩ := Except.bind_eq_ok_iff.mp h
      obtain ⟨_, _, h⟩ := Except.bind_eq_ok_iff.mp h
      cases h
      cases answer

theorem refused_confirm {id : String}
    (h : (session.attempt (session.confirm id moment)).answer = .refusal e) :
    Refused session moment (.confirm id) (session.attempt (session.confirm id moment)) := by
  refine refused_attempt (fun e h => ?_) (fun s h answer => ?_) h
  · rcases Except.bind_eq_error_iff.mp h with h | ⟨_, _, h⟩
    · obtain ⟨busy, rfl⟩ := requireIdle_eq_error_iff.mp h
      exact .busy busy
    rcases Except.bind_eq_error_iff.mp h with h | ⟨_, _, h⟩
    · obtain ⟨other, rfl⟩ := requirePhase_eq_error_iff.mp h
      exact .phase rfl other
    -- Once the confirmation is found, its action is the reason.
    rcases session.state.gate.check_cases id moment.now with
      ⟨confirmation, valid, check⟩ | ⟨confirmation, _, _, _, check⟩ | check
    · rw [check] at h
      have same := valid.id
      rcases Except.bind_eq_error_iff.mp h with h | ⟨action, required, h⟩
      · obtain ⟨unknown, rfl⟩ := requireAction_eq_error_iff.mp h
        subst same
        exact .withdrawn valid.pending unknown
      rcases Except.bind_eq_error_iff.mp h with bound | ⟨_, _, h⟩
      · subst same
        exact .unready (unbound_of_boundInputs bound) valid.pending
          (requireAction_eq_ok_iff.mp required) bound
      · split at h <;> cases h
    · rw [check] at h
      cases h
    · rw [check] at h
      cases h
  · obtain ⟨_, _, h⟩ := Except.bind_eq_ok_iff.mp h
    obtain ⟨_, _, h⟩ := Except.bind_eq_ok_iff.mp h
    -- Else the gate refuses it, at the first look or at the second.
    rcases session.state.gate.check_cases id moment.now with
      ⟨confirmation, valid, check⟩ | ⟨confirmation, pending, rfl, late, check⟩ | check
    · rw [check] at h
      obtain ⟨_, _, h⟩ := Except.bind_eq_ok_iff.mp h
      obtain ⟨_, _, h⟩ := Except.bind_eq_ok_iff.mp h
      obtain rfl := valid.id
      rcases session.state.gate.check_cases confirmation.id moment.later with
        ⟨again, _, check⟩ | ⟨again, pending, _, late, check⟩ | check
      · rw [Gate.take_of_check check] at h
        cases h
        cases answer
      · rw [Gate.take_of_check_error check] at h
        cases h
        cases Option.some.inj (valid.pending.symm.trans pending)
        exact .expired pending (.inr late)
      · exact absurd rfl (Gate.ne_of_check_notFound check _ valid.pending)
    · rw [check] at h
      cases h
      exact .expired pending (.inl late)
    · rw [check] at h
      cases h
      exact .notFound (Gate.ne_of_check_notFound check)

theorem refused (session : Session) (request : Request) (moment : Moment) {e : RunError}
    (h : (session.perform request moment).answer = .refusal e) :
    Refused session moment request (session.perform request moment) := by
  cases request with
  | setLoadValue fieldId value => exact refused_edit rfl .loadField h
  | setActionValue fieldId value => exact refused_edit rfl .actionField h
  | load => exact refused_load h
  | runAction actionId => exact refused_runAction h
  | confirm id => exact refused_confirm h
  | cancelConfirmation => cases h
  | reset => cases h

end Session

end Runbook
