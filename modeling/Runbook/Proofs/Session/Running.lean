import Runbook.Proofs.Runs
import Runbook.Proofs.Session.Loading
import Runbook.Proofs.Session.Refusals

namespace Runbook.Session

def Turn.landed? (turn : Turn) : Option Flight :=
  match turn.happening with
  | .arrived flight _ => some flight
  | .asked _ _ => none

def launched (turns : List Turn) : List Flight := turns.filterMap Turn.flight?

def landed (turns : List Turn) : List Flight := turns.filterMap Turn.landed?

theorem launched_concat (turns : List Turn) (turn : Turn) :
    launched (turns ++ [turn]) = launched turns ++ turn.flight?.toList := by
  rw [launched, List.filterMap_append, List.filterMap_cons, List.filterMap_nil]
  cases turn.flight? <;> rfl

theorem landed_concat (turns : List Turn) (turn : Turn) :
    landed (turns ++ [turn]) = landed turns ++ turn.landed?.toList := by
  rw [landed, List.filterMap_append, List.filterMap_cons, List.filterMap_nil]
  cases turn.landed? <;> rfl

variable {first session : Session} {turns : List Turn} {air : List Flight}

/-- The flag stays as it is, unless the operation hands a run over; then it goes up. -/
theorem Performed.running {request : Request} {moment : Moment} {step : Step}
    (h : Performed session moment request step) :
    (step.flight? = none ∧ step.session.running = session.running) ∨
      (∃ flight, step.flight? = some flight ∧ flight.epoch = step.session.state.epoch) ∧
        session.running = false ∧ step.session.running = true := by
  cases h with
  | preparing idle => exact .inr ⟨⟨_, rfl, rfl⟩, idle, rfl⟩
  | started idle => exact .inr ⟨⟨_, rfl, rfl⟩, idle, rfl⟩
  | confirmed idle => exact .inr ⟨⟨_, rfl, rfl⟩, idle, rfl⟩
  | _ => exact .inl ⟨rfl, rfl⟩

theorem Performed.epoch_of_launched {request : Request} {moment : Moment} {step : Step}
    {flight : Flight} (h : Performed session moment request step)
    (launched : step.flight? = some flight) : flight.epoch = step.session.state.epoch := by
  rcases h.running with ⟨grounded, _⟩ | ⟨⟨other, same, epoch⟩, _⟩
  · cases grounded.symm.trans launched
  · cases same.symm.trans launched
    exact epoch

theorem Performed.grounded_of_running {request : Request} {moment : Moment} {step : Step}
    (h : Performed session moment request step) (busy : session.running = true) :
    step.flight? = none ∧ step.session.running = true := by
  rcases h.running with ⟨grounded, same⟩ | ⟨_, idle, _⟩
  · exact ⟨grounded, same.trans busy⟩
  · cases idle.symm.trans busy

theorem Arrived.flight? {flight : Flight} {result : Except RunError Execution} {step : Step}
    (h : Arrived session flight result step) : step.flight? = none := by
  cases h <;> rfl

/-- Every run that was handed over has come back or is in the air. -/
theorem Course.launched (course : Course first turns session air) (idle : first.running = false) :
    launched turns = landed turns ++ air := by
  induction course with
  | start => rfl
  | @asked turns session air request moment _ ih =>
    rw [launched_concat, landed_concat, ih, Turn.landed?, Option.toList_none, List.append_nil,
      List.append_assoc]
    rfl
  | @arrived turns session before after flight result course ih =>
    obtain ⟨rfl, rfl⟩ := (course.airborne idle).eq_one
    have grounded : Turn.flight? ⟨session, .arrived flight result⟩ = none :=
      (session.arrived flight result).flight?
    rw [launched_concat, landed_concat, ih, grounded, Turn.landed?, Option.toList_none,
      Option.toList_some, List.append_nil, List.append_nil, List.append_nil]
    rfl

theorem Airborne.running_iff (h : Airborne session air) :
    session.running = true ↔ ∃ flight, air = [flight] := by
  cases h with
  | grounded idle => simp [idle]
  | one busy => simp [busy]

theorem Airborne.length_le (h : Airborne session air) : air.length ≤ 1 := by
  cases h with
  | grounded => exact Nat.zero_le 1
  | one => exact Nat.le_refl 1

theorem Airborne.ne_nil_of_running (h : Airborne session air) (busy : session.running = true) :
    air ≠ [] := by
  obtain ⟨flight, rfl⟩ := h.running_iff.mp busy
  exact List.cons_ne_nil _ _

theorem running_of_runInFlight {request : Request} {moment : Moment}
    (h : (session.perform request moment).answer = .refusal .runInFlight) :
    session.running = true := by
  have refused := session.refused request moment h
  generalize session.perform request moment = step at refused h
  cases refused with
  | busy busy => exact busy
  | unbound unbound | unready unbound =>
    -- Inputs that cannot be bound are told as such.
    cases h
    cases unbound
  | _ => cases h

theorem load_of_running (busy : session.running = true) (moment : Moment) :
    (session.perform .load moment).answer = .refusal .runInFlight := by
  have failed : session.load = .error .runInFlight :=
    Except.bind_eq_error_iff.mpr (.inl (requireIdle_eq_error_iff.mpr ⟨busy, rfl⟩))
  rw [perform, failed]
  rfl

theorem confirm_of_running (busy : session.running = true) (id : String) (moment : Moment) :
    (session.perform (.confirm id) moment).answer = .refusal .runInFlight := by
  have failed : session.confirm id moment = .error .runInFlight :=
    Except.bind_eq_error_iff.mpr (.inl (requireIdle_eq_error_iff.mpr ⟨busy, rfl⟩))
  rw [perform, failed]
  rfl

theorem refusal_of_arrived {flight : Flight} {result : Except RunError Execution} {step : Step}
    {e : RunError} (h : Arrived session flight result step) (answer : step.answer = .refusal e) :
    step.session.state = session.state ∧
      (result = .error e ∨ e = .sessionReset ∧ session.state.epoch ≠ flight.epoch) := by
  cases h with
  | failed =>
    cases answer
    exact ⟨rfl, .inl rfl⟩
  | late execution epoch =>
    cases answer
    exact ⟨rfl, .inr ⟨rfl, epoch⟩⟩
  | kept => cases answer

/-- Whatever the run can come to has the property, for all collaborators and executors. -/
def Flight.EndsIn (flight : Flight) (user : User) (P : Except RunError Execution → Prop) : Prop :=
  ∀ (m : Type → Type) [Monad m] [LawfulMonad m] (executor : Executor m) (freshId : m String)
    (collaborators : Collaborators m),
    Always P (collaborators.execute executor freshId flight.appId flight.inputs user []).run

theorem hindrance_of_arrive (session : Session) (flight : Flight) (user : User) :
    flight.EndsIn user fun result => ∀ e, (session.arrive flight result).answer = .refusal e →
      Runner.Hindrance e ∨ e = .sessionReset := by
  intro m _ _ executor freshId collaborators
  refine (Runner.always_hindrance executor freshId collaborators flight.appId flight.inputs user
    []).imp fun result hindrance e answer => ?_
  obtain ⟨_, failed | ⟨reset, _⟩⟩ := refusal_of_arrived (session.arrived flight result) answer
  · exact .inl (hindrance e failed)
  · exact .inr reset

theorem Flight.EndsIn.imp {flight : Flight} {user : User}
    {P Q : Except RunError Execution → Prop} (h : flight.EndsIn user P)
    (weaker : ∀ result, P result → Q result) : flight.EndsIn user Q :=
  fun m _ _ executor freshId collaborators => (h m executor freshId collaborators).imp weaker

def Turn.Resets (turn : Turn) : Prop := ∃ moment, turn.happening = .asked .reset moment

/-- The run was handed over in one of the turns, and since then none was and none came back. The
epoch can only have changed with a reset. -/
inductive Aloft (turns : List Turn) (session : Session) (flight : Flight) : Prop where
  | since {earlier meanwhile : List Turn} {departure : Turn}
      (eq : turns = earlier ++ departure :: meanwhile)
      (launched : departure.flight? = some flight)
      (alone : ∀ turn ∈ meanwhile, turn.flight? = none ∧ turn.landed? = none)
      (epoch : session.state.epoch = flight.epoch ∨ ∃ turn ∈ meanwhile, turn.Resets)

theorem Performed.epoch_eq {request : Request} {moment : Moment} {step : Step}
    (h : Performed session moment request step) (lasting : request ≠ .reset) :
    step.session.state.epoch = session.state.epoch := by
  cases h with
  | reset => exact absurd rfl lasting
  | _ => rfl

theorem Aloft.asked {flight : Flight} (h : Aloft turns session flight)
    (busy : session.running = true) (request : Request) (moment : Moment) :
    Aloft (turns ++ [⟨session, .asked request moment⟩]) (session.perform request moment).session
      flight := by
  obtain ⟨rfl, launched, alone, epoch⟩ := h
  have performed := session.performed request moment
  have grounded : Turn.flight? ⟨session, .asked request moment⟩ = none :=
    (performed.grounded_of_running busy).1
  refine .since (List.append_assoc _ _ _) launched (fun turn ht => ?alone) ?epoch
  case alone =>
    rcases List.mem_append.mp ht with ht | ht
    · exact alone turn ht
    · rw [List.mem_singleton.mp ht]
      exact ⟨grounded, rfl⟩
  case epoch =>
    by_cases resets : request = .reset
    · exact .inr ⟨_, List.mem_append_right _ (List.mem_singleton_self _), moment, by rw [resets]⟩
    rw [performed.epoch_eq resets]
    rcases epoch with same | ⟨turn, ht, resets⟩
    · exact .inl same
    · exact .inr ⟨turn, List.mem_append_left _ ht, resets⟩

theorem Course.aloft (course : Course first turns session air) (idle : first.running = false)
    {flight : Flight} (hf : flight ∈ air) : Aloft turns session flight := by
  induction course with
  | start => cases hf
  | @asked turns session air request moment course ih =>
    -- The run was in the air before, and so the session is running, or it is handed over now.
    rcases List.mem_append.mp hf with hf | hf
    · obtain ⟨_, eq⟩ : ∃ flight, air = [flight] := by
        cases course.airborne idle with
        | grounded => cases hf
        | one => exact ⟨_, rfl⟩
      exact (ih hf).asked ((course.airborne idle).running_iff.mpr ⟨_, eq⟩) request moment
    · have launched := Option.mem_toList.mp hf
      have epoch := (session.performed request moment).epoch_of_launched launched
      exact .since rfl launched (by simp) (.inl epoch.symm)
  | arrived result course ih =>
    obtain ⟨rfl, rfl⟩ := (course.airborne idle).eq_one
    cases hf

/-- Runs of a session never overlap, the flag tells the one in the air, and it is taken down however
the run ends. -/
theorem one_run_at_a_time {id : String} {dashboard : Dashboard} {user : User} {limits : Limits}
    (course : Course (.start id dashboard user limits) turns session air) :
    launched turns = landed turns ++ air ∧ air.length ≤ 1 ∧
    (session.running = true ↔ ∃ flight, air = [flight]) ∧
    (∀ request moment, (session.perform request moment).flight? = none →
      (session.perform request moment).session.running = session.running) ∧
    (∀ flight result, (session.arrive flight result).session.running = false) ∧
    (∀ request moment, (session.perform request moment).answer = .refusal .runInFlight →
      air ≠ []) ∧
    (∀ flight, Flight.EndsIn flight session.user fun result =>
      (session.arrive flight result).answer ≠ .refusal .runInFlight) ∧
    (air ≠ [] → ∀ moment, (session.perform .load moment).answer = .refusal .runInFlight ∧
      ∀ id, (session.perform (.confirm id) moment).answer = .refusal .runInFlight) := by
  have airborne := course.airborne rfl
  refine ⟨course.launched rfl, airborne.length_le, airborne.running_iff, ?still, ?down, ?blocked,
    ?answered, ?busy⟩
  case still =>
    intro request moment grounded
    rcases (session.performed request moment).running with ⟨_, same⟩ | ⟨⟨flight, launched, _⟩, _⟩
    · exact same
    · rw [grounded] at launched
      cases launched
  case down => exact fun flight result => (session.arrived flight result).running
  case blocked =>
    exact fun request moment h => airborne.ne_nil_of_running (running_of_runInFlight h)
  case answered =>
    intro flight
    refine (session.hindrance_of_arrive flight session.user).imp fun result told answer => ?_
    rcases told _ answer with hindered | reset
    · cases hindered
    · cases reset
  case busy =>
    intro nonempty moment
    have busy : session.running = true := by
      cases airborne with
      | grounded => exact absurd rfl nonempty
      | one busy => exact busy
    exact ⟨load_of_running busy moment, fun id => confirm_of_running busy id moment⟩

def callerReset : Session := (callerLooking.perform .reset ⟨2, 2, "c"⟩).session

def callerResetTurns : List Turn :=
  [⟨caller, .asked (.setLoadValue "l-email" "a@b.com") ⟨0, 0, "a"⟩⟩,
   ⟨callerTyped, .asked .load ⟨1, 1, "b"⟩⟩,
   ⟨callerLooking, .asked .reset ⟨2, 2, "c"⟩⟩]

theorem course_callerReset : Course caller callerResetTurns callerReset [lookupFlight] :=
  .asked .reset ⟨2, 2, "c"⟩ (.asked .load ⟨1, 1, "b"⟩
    (.asked (.setLoadValue "l-email" "a@b.com") ⟨0, 0, "a"⟩ .start))

/-- A run from before a reset keeps the session from loading until it comes back. -/
theorem one_run_at_a_time_callerReset :
    Course caller callerResetTurns callerReset [lookupFlight] ∧
    launched callerResetTurns = [lookupFlight] ∧ callerReset.running = true ∧
    (callerReset.perform .load ⟨3, 3, "d"⟩).answer = .refusal .runInFlight ∧
    (callerReset.arrive lookupFlight lookupResult).session.running = false := by
  obtain ⟨handed, _, flag, _, down, _, _, busy⟩ := one_run_at_a_time course_callerReset
  have nonempty : [lookupFlight] ≠ [] := List.cons_ne_nil _ _
  exact ⟨course_callerReset, handed, flag.mpr ⟨_, rfl⟩, (busy nonempty _).1, down _ _⟩

end Runbook.Session
