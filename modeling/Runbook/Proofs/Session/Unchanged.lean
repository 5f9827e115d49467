import Runbook.Proofs.Session.Confirming
import Runbook.Proofs.Session.Running

namespace Runbook.Session

/-- What an operation leaves behind that is refused at once. -/
structure LeftAlone (session : Session) (request : Request) (e : RunError) (step : Step) :
    Prop where
  grounded : step.flight? = none
  silent : step.events = []
  unchanged : (∀ id, e ≠ .confirmationExpired id) → step.session = session
  expired : ∀ id, e = .confirmationExpired id → request = .confirm id ∧
    (∃ confirmation, session.state.gate.pending = some confirmation ∧ confirmation.id = id) ∧
    step.session = session.withGate session.state.gate.clear

/-- What an operation changes by handing a run over: it raises the flag, and the confirmation that
it is given, if it is given one, is used up. -/
inductive Turn.TakesOff (turn : Turn) : Prop where
  | plain {request : Request} {moment : Moment} (asked : turn.happening = .asked request moment)
      (plain : ∀ id, request ≠ .confirm id) (idle : turn.before.running = false)
      (after : turn.after = { turn.before with running := true })
  | confirming {moment : Moment} {confirmation : Confirmation}
      (asked : turn.happening = .asked (.confirm confirmation.id) moment)
      (idle : turn.before.running = false)
      (pending : turn.before.state.gate.pending = some confirmation)
      (after : turn.after =
        { turn.before.withGate turn.before.state.gate.clear with running := true })

theorem leftAlone_refuse {session : Session} {request : Request} {e : RunError}
    (other : ∀ id, e ≠ .confirmationExpired id) :
    LeftAlone session request e (session.refuse e) :=
  ⟨rfl, rfl, fun _ => rfl, fun id same => absurd same (other id)⟩

theorem Unbound.ne_confirmationExpired {e : RunError} (h : Unbound e) (id : String) :
    e ≠ .confirmationExpired id := by
  cases h <;> simp

theorem leftAlone {session : Session} {request : Request} {moment : Moment} {e : RunError}
    (h : (session.perform request moment).answer = .refusal e) :
    LeftAlone session request e (session.perform request moment) := by
  have refused := session.refused request moment h
  generalize session.perform request moment = step at refused h
  cases refused with
  | @expired confirmation pending late =>
    cases h
    exact ⟨rfl, rfl, fun other => absurd rfl (other _), fun id same => by
      cases same
      exact ⟨rfl, ⟨confirmation, pending, rfl⟩, rfl⟩⟩
  | unbound unbound =>
    cases h
    exact leftAlone_refuse unbound.ne_confirmationExpired
  | unready unbound =>
    cases h
    exact leftAlone_refuse unbound.ne_confirmationExpired
  | _ =>
    cases h
    exact leftAlone_refuse (by simp)

theorem Turn.takesOff {turn : Turn} {flight : Flight} (h : turn.flight? = some flight) :
    turn.TakesOff := by
  obtain ⟨before, happening⟩ := turn
  cases happening with
  | arrived landed result =>
    rw [show Turn.flight? ⟨before, .arrived landed result⟩ = none from
      (before.arrived landed result).flight?] at h
    cases h
  | asked request moment =>
    have performed := before.performed request moment
    generalize eq : before.perform request moment = step at performed
    have launched : step.flight? = some flight := (congrArg Step.flight? eq).symm.trans h
    have after : Turn.after ⟨before, .asked request moment⟩ = step.session :=
      congrArg Step.session eq
    cases performed with
    | preparing idle => exact .plain rfl (by simp) idle after
    | started idle => exact .plain rfl (by simp) idle after
    | confirmed idle _ pending => exact .confirming rfl idle pending after
    | _ => cases launched

theorem Turn.TakesOff.idle {turn : Turn} (h : turn.TakesOff) : turn.before.running = false := by
  cases h with
  | plain _ _ idle => exact idle
  | confirming _ idle => exact idle

theorem state_of_unsuccessful {session : Session} {flight : Flight} {execution : Execution}
    {step : Step} (h : Arrived session flight (.ok execution) step)
    (errand : flight.errand = .prepare) (unsuccessful : execution.outcome.isSuccess = false) :
    step.session.state = session.state := by
  cases h with
  | late => rfl
  | kept => simp [keep, errand, unsuccessful]

variable {session : Session} {earlier later : List Turn} {turn : Turn} {air : List Flight}

/-- What is refused changes nothing, except that an expired confirmation is dropped and that one
whose run was handed over is used up. Preparing without success changes nothing either. -/
theorem refused_unchanged {id : String} {dashboard : Dashboard} {user : User} {limits : Limits}
    (course : Course (.start id dashboard user limits) (earlier ++ turn :: later) session air) :
    (∀ request moment e, turn.happening = .asked request moment →
      turn.step.answer = .refusal e → LeftAlone turn.before request e turn.step) ∧
    ∀ flight result, turn.happening = .arrived flight result →
      (∃ before departure meanwhile, earlier = before ++ departure :: meanwhile ∧
        departure.flight? = some flight ∧ departure.TakesOff ∧
        (∀ other ∈ meanwhile, other.flight? = none ∧ other.landed? = none) ∧
        turn.after.running = departure.before.running ∧
        ∀ e, turn.step.answer = .refusal e → turn.after.state = turn.before.state ∧
          (result = .error e ∨ e = .sessionReset ∧ ∃ other ∈ meanwhile, other.Resets)) ∧
      (flight.EndsIn turn.before.user fun result =>
        ∀ e, (turn.before.arrive flight result).answer = .refusal e →
          Runner.Hindrance e ∨ e = .sessionReset) ∧
      ∀ execution, result = .ok execution → flight.errand = .prepare →
        execution.outcome.isSuccess = false → turn.after.state = turn.before.state := by
  obtain ⟨inAir, course, arrives⟩ := course.before
  obtain ⟨before, happening⟩ := turn
  refine ⟨fun request moment e asked answer => ?atOnce, fun flight result arrival => ?late⟩
  case atOnce =>
    cases asked
    exact leftAlone answer
  case late =>
    cases arrival
    have arrived := before.arrived flight result
    refine ⟨?taken, before.hindrance_of_arrive flight before.user,
      fun execution ok errand unsuccessful => ?_⟩
    case taken =>
      obtain ⟨eq, launched, alone, epoch⟩ := course.aloft rfl (arrives flight result rfl)
      have takesOff := Turn.takesOff launched
      refine ⟨_, _, _, eq, launched, takesOff, alone, arrived.running.trans takesOff.idle.symm,
        fun e answer => ?_⟩
      -- A result comes late only if the session was reset while the run was in the air.
      obtain ⟨same, error | ⟨reset, late⟩⟩ := refusal_of_arrived arrived answer
      · exact ⟨same, .inl error⟩
      · exact ⟨same, .inr ⟨reset, epoch.resolve_left late⟩⟩
    · subst ok
      exact state_of_unsuccessful arrived errand unsuccessful

def refundFlight : Flight := ⟨"pay", ∅, 0, .action refund⟩

/-- A confirmation is used up by a run that a reset overtakes, and the result changes nothing. -/
theorem refused_unchanged_refund :
    ∃ session earlier turn, Course newcomer (earlier ++ [turn]) session [] ∧
      turn.step.answer = .refusal .sessionReset ∧ turn.after.state = turn.before.state ∧
      ∃ before departure meanwhile, earlier = before ++ departure :: meanwhile ∧
        departure.flight? = some refundFlight ∧ departure.TakesOff ∧
        turn.after.running = departure.before.running ∧ ∃ other ∈ meanwhile, other.Resets := by
  have waiting : Course newcomer _ _ ([] ++ refundFlight :: []) :=
    .asked .reset ⟨3, 3, "d"⟩ (.asked (.confirm "b") ⟨2, 2, "c"⟩
      (.asked (.runAction "refund") ⟨1, 1, "b"⟩ (.asked .load ⟨0, 0, "a"⟩ .start)))
  have course := Course.arrived (.ok ⟨"run-1", "pay", .success "done"⟩) waiting
  obtain ⟨_, late⟩ := refused_unchanged course
  obtain ⟨⟨before, departure, meanwhile, eq, launched, takesOff, _, flag, still⟩, _⟩ :=
    late refundFlight _ rfl
  obtain ⟨same, error | ⟨_, resets⟩⟩ := still .sessionReset rfl
  · cases error
  · exact ⟨_, _, _, course, rfl, same, before, departure, meanwhile, eq, launched, takesOff, flag,
      resets⟩

end Runbook.Session
