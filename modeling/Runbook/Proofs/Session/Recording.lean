import Runbook.Proofs.Session.Running

namespace Runbook.Session

/-- The turn brings back the run of an action that an earlier turn handed over, with no reset in
between, and the run was executed. -/
inductive Completes (turns : List Turn) (turn : Turn) (action : Action) (execution : Execution) :
    Prop where
  | since {earlier meanwhile : List Turn} {departure : Turn} {flight : Flight}
      (eq : turns = earlier ++ departure :: meanwhile)
      (launched : departure.flight? = some flight) (errand : flight.errand = .action action)
      (alone : ∀ other ∈ meanwhile, other.flight? = none ∧ other.landed? = none)
      (lasting : ∀ other ∈ meanwhile, ¬ other.Resets)
      (landed : turn.happening = .arrived flight (.ok execution))

/-- A run of the action was handed over since the last reset and executed; the later turns are those
since it came back. -/
def Executed (turns : List Turn) (action : Action) (execution : Execution) (later : List Turn) :
    Prop :=
  ∃ earlier turn, turns = earlier ++ turn :: later ∧ Completes earlier turn action execution ∧
    ∀ other ∈ later, ¬ other.Resets

def shown (action : Action) (execution : Execution) : ActionResult :=
  ⟨⟨execution.runId, execution.outcome⟩,
    if Text.sameLetters execution.outcome.status "success" then action.successMessage
    else action.errorMessage⟩

/-- The result is what the run of the action came to that came back last. -/
def LastRun (turns : List Turn) (actionId : String) (result : ActionResult) : Prop :=
  ∃ action execution later, Executed turns action execution later ∧ action.id = actionId ∧
    result = shown action execution ∧
    ∀ other otherExecution otherLater, Executed turns other otherExecution otherLater →
      other.id = actionId → later.length ≤ otherLater.length

/-- What becomes of the results in a turn: none is left, that of a run is recorded, or all stay as
they are. -/
inductive Turn.Records (turn : Turn) : Prop where
  | cleared (resets : turn.Resets) (results : turn.after.state.results = ∅)
  | recorded {flight : Flight} {action : Action} {execution : Execution}
      (landed : turn.happening = .arrived flight (.ok execution))
      (errand : flight.errand = .action action) (epoch : turn.before.state.epoch = flight.epoch)
      (results : turn.after.state.results =
        turn.before.state.results.insert action.id (shown action execution))
  | same (lasting : ¬ turn.Resets)
      (results : turn.after.state.results = turn.before.state.results)
      (unrecorded : ∀ flight action execution, turn.happening = .arrived flight (.ok execution) →
        flight.errand = .action action → turn.before.state.epoch ≠ flight.epoch)

theorem Performed.results {session : Session} {request : Request} {moment : Moment} {step : Step}
    (h : Performed session moment request step) (lasting : request ≠ .reset) :
    step.session.state.results = session.state.results := by
  cases h with
  | reset => exact absurd rfl lasting
  | _ => rfl

theorem not_resets_asked {session : Session} {request : Request} {moment : Moment}
    (lasting : request ≠ .reset) : ¬ Turn.Resets ⟨session, .asked request moment⟩ := by
  rintro ⟨_, asked⟩
  cases asked
  exact lasting rfl

theorem not_resets_arrived {session : Session} {flight : Flight}
    {result : Except RunError Execution} : ¬ Turn.Resets ⟨session, .arrived flight result⟩ := by
  rintro ⟨_, asked⟩
  cases asked

theorem records_asked (session : Session) (request : Request) (moment : Moment) :
    Turn.Records ⟨session, .asked request moment⟩ := by
  by_cases resets : request = .reset
  · subst resets
    exact .cleared ⟨moment, rfl⟩ rfl
  · refine .same (not_resets_asked resets) ((session.performed request moment).results resets) ?_
    intro _ _ _ landed
    cases landed

theorem records_arrived (session : Session) (flight : Flight)
    (result : Except RunError Execution) : Turn.Records ⟨session, .arrived flight result⟩ := by
  have arrived := session.arrived flight result
  generalize eq : session.arrive flight result = step at arrived
  have results {map : Dict ActionResult} : step.session.state.results = map →
      (Turn.after ⟨session, .arrived flight result⟩).state.results = map :=
    (congrArg (fun step => step.session.state.results) eq).trans
  cases arrived with
  | failed e =>
    refine .same not_resets_arrived (results rfl) fun _ _ _ landed => ?_
    cases landed
  | late execution epoch =>
    refine .same not_resets_arrived (results rfl) fun _ _ _ landed _ => ?_
    cases landed
    exact epoch
  | kept execution epoch =>
    cases errand : flight.errand with
    | action action => exact .recorded rfl errand epoch (results (by rw [errand]; rfl))
    | prepare =>
      refine .same not_resets_arrived (results ?_) fun _ _ _ landed recorded => ?_
      · simp only [errand, keep]
        split <;> rfl
      · cases landed
        cases errand.symm.trans recorded

theorem Turn.records (turn : Turn) : turn.Records := by
  obtain ⟨before, happening⟩ := turn
  cases happening with
  | asked request moment => exact records_asked before request moment
  | arrived flight result => exact records_arrived before flight result

variable {first session : Session} {turns : List Turn} {turn : Turn} {air : List Flight}

theorem Turn.epoch_of_flight {flight : Flight} (h : turn.flight? = some flight) :
    flight.epoch = turn.after.state.epoch := by
  obtain ⟨before, happening⟩ := turn
  cases happening with
  | asked request moment => exact (before.performed request moment).epoch_of_launched h
  | arrived landed result =>
    cases (before.arrived landed result).flight?.symm.trans h

theorem Course.epoch_iff {earlier meanwhile : List Turn} {departure : Turn} {flight : Flight}
    (course : Course first (earlier ++ departure :: meanwhile) session air)
    (launched : departure.flight? = some flight) :
    flight.epoch ≤ session.state.epoch ∧
      (session.state.epoch = flight.epoch ↔ ∀ turn ∈ meanwhile, ¬ turn.Resets) := by
  refine course.since (P := fun later session _ => flight.epoch ≤ session.state.epoch ∧
    (session.state.epoch = flight.epoch ↔ ∀ turn ∈ later, ¬ turn.Resets)) ?now ?asked ?arrived
  case now =>
    intro _ _
    have same := Turn.epoch_of_flight launched
    exact ⟨Nat.le_of_eq same, by simp [same]⟩
  case asked =>
    rintro later session air request moment _ ⟨low, unchanged⟩
    have performed := session.performed request moment
    by_cases resets : request = .reset
    · subst resets
      have next : (session.perform .reset moment).session.state.epoch = session.state.epoch + 1 :=
        rfl
      refine ⟨by omega, ⟨fun same => by omega, fun lasting => ?_⟩⟩
      exact absurd ⟨moment, rfl⟩ (lasting _ (List.mem_append_right _ (List.mem_singleton_self _)))
    · have lasting : ¬ Turn.Resets ⟨session, .asked request moment⟩ := not_resets_asked resets
      rw [performed.epoch_eq resets, List.forall_mem_append, List.forall_mem_singleton]
      exact ⟨low, unchanged.trans (and_iff_left lasting).symm⟩
  case arrived =>
    rintro later session before after landed result _ ⟨low, unchanged⟩
    rw [(session.arrived landed result).epoch, List.forall_mem_append, List.forall_mem_singleton]
    exact ⟨low, unchanged.trans (and_iff_left not_resets_arrived).symm⟩

theorem Course.completes_iff (course : Course first turns turn.before air)
    (idle : first.running = false) {flight : Flight} (inAir : flight ∈ air) {action : Action}
    {execution : Execution} (landed : turn.happening = .arrived flight (.ok execution)) :
    Completes turns turn action execution ↔
      flight.errand = .action action ∧ turn.before.state.epoch = flight.epoch := by
  constructor
  · rintro ⟨rfl, launched, errand, _, lasting, again⟩
    cases landed.symm.trans again
    exact ⟨errand, (course.epoch_iff launched).2.mpr lasting⟩
  · rintro ⟨errand, epoch⟩
    obtain ⟨rfl, launched, alone, _⟩ := course.aloft idle inAir
    exact .since rfl launched errand alone ((course.epoch_iff launched).2.mp epoch) landed

theorem Completes.unique {action other : Action} {execution otherExecution : Execution}
    (h : Completes turns turn action execution) (h' : Completes turns turn other otherExecution) :
    action = other ∧ execution = otherExecution := by
  obtain ⟨_, _, errand, _, _, landed⟩ := h
  obtain ⟨_, _, errand', _, _, landed'⟩ := h'
  cases landed.symm.trans landed'
  cases errand.symm.trans errand'
  exact ⟨rfl, rfl⟩

theorem Completes.lasting {action : Action} {execution : Execution}
    (h : Completes turns turn action execution) : ¬ turn.Resets := by
  rintro ⟨moment, asked⟩
  obtain ⟨_, _, _, _, _, landed⟩ := h
  cases landed.symm.trans asked

theorem executed_concat {action : Action} {execution : Execution} {later : List Turn} :
    Executed (turns ++ [turn]) action execution later ↔
      (later = [] ∧ Completes turns turn action execution) ∨
      ∃ rest, later = rest ++ [turn] ∧ Executed turns action execution rest ∧ ¬ turn.Resets := by
  constructor
  · rintro ⟨earlier, landing, eq, completes, lasting⟩
    rcases List.eq_nil_or_concat later with rfl | ⟨rest, last, rfl⟩
    · obtain ⟨rfl, same⟩ := List.append_inj' eq rfl
      cases same
      exact .inl ⟨rfl, completes⟩
    · rw [List.concat_eq_append] at eq lasting ⊢
      rw [← List.cons_append, ← List.append_assoc] at eq
      obtain ⟨rfl, same⟩ := List.append_inj' eq rfl
      cases same
      rw [List.forall_mem_append, List.forall_mem_singleton] at lasting
      exact .inr ⟨rest, rfl, ⟨earlier, landing, rfl, completes, lasting.1⟩, lasting.2⟩
  · rintro (⟨rfl, completes⟩ | ⟨rest, rfl, ⟨earlier, landing, rfl, completes, lasting⟩, kept⟩)
    · exact ⟨turns, turn, rfl, completes, List.forall_mem_nil _⟩
    · refine ⟨earlier, landing, by simp, completes, ?_⟩
      rw [List.forall_mem_append, List.forall_mem_singleton]
      exact ⟨lasting, kept⟩

theorem lastRun_of_completes {action : Action} {execution : Execution}
    (h : Completes turns turn action execution) {result : ActionResult} :
    LastRun (turns ++ [turn]) action.id result ↔ result = shown action execution := by
  constructor
  · rintro ⟨other, otherExecution, later, executed, _, rfl, least⟩
    have now := least action execution [] (executed_concat.mpr (.inl ⟨rfl, h⟩)) rfl
    obtain rfl := List.length_eq_zero_iff.mp (Nat.le_zero.mp now)
    rcases executed_concat.mp executed with ⟨_, again⟩ | ⟨rest, eq, _⟩
    · obtain ⟨rfl, rfl⟩ := h.unique again
      rfl
    · simp at eq
  · rintro rfl
    exact ⟨action, execution, [], executed_concat.mpr (.inl ⟨rfl, h⟩), rfl, rfl,
      fun _ _ _ _ _ => Nat.zero_le _⟩

theorem lastRun_concat {actionId : String} (lasting : ¬ turn.Resets)
    (other : ∀ action execution, Completes turns turn action execution → action.id ≠ actionId)
    {result : ActionResult} :
    LastRun (turns ++ [turn]) actionId result ↔ LastRun turns actionId result := by
  have earlier {action : Action} {execution : Execution} {later : List Turn}
      (same : action.id = actionId) : Executed (turns ++ [turn]) action execution later ↔
        ∃ rest, later = rest ++ [turn] ∧ Executed turns action execution rest := by
    rw [executed_concat, or_iff_right fun now => other _ _ now.2 same]
    simp only [lasting, not_false_eq_true, and_true]
  constructor
  · rintro ⟨action, execution, later, executed, same, eq, least⟩
    obtain ⟨rest, rfl, before⟩ := (earlier same).mp executed
    refine ⟨action, execution, rest, before, same, eq, fun _ _ rest' executed' same' => ?_⟩
    have := least _ _ _ ((earlier same').mpr ⟨rest', rfl, executed'⟩) same'
    simpa using this
  · rintro ⟨action, execution, rest, executed, same, eq, least⟩
    refine ⟨action, execution, _, (earlier same).mpr ⟨rest, rfl, executed⟩, same, eq,
      fun _ _ later' executed' same' => ?_⟩
    obtain ⟨rest', rfl, before⟩ := (earlier same').mp executed'
    simpa using least _ _ rest' before same'

theorem not_lastRun_of_resets (resets : turn.Resets) {actionId : String} {result : ActionResult} :
    ¬ LastRun (turns ++ [turn]) actionId result := by
  rintro ⟨action, execution, later, executed, _⟩
  rcases executed_concat.mp executed with ⟨_, completes⟩ | ⟨_, _, _, lasting⟩
  · exact completes.lasting resets
  · exact lasting resets

def Recorded (turns : List Turn) (session : Session) : Prop :=
  ∀ actionId result, session.state.results[actionId]? = some result ↔
    LastRun turns actionId result

theorem recorded_after (h : Recorded turns turn.before)
    (completes : ∀ flight action execution, turn.happening = .arrived flight (.ok execution) →
      (Completes turns turn action execution ↔
        flight.errand = .action action ∧ turn.before.state.epoch = flight.epoch)) :
    Recorded (turns ++ [turn]) turn.after := by
  intro actionId result
  cases turn.records with
  | cleared resets results =>
    rw [results, Std.ExtTreeMap.getElem?_empty]
    refine ⟨fun found => ?_, fun last => absurd last (not_lastRun_of_resets resets)⟩
    cases found
  | @recorded flight action execution landed errand epoch results =>
    have completed := (completes flight action execution landed).mpr ⟨errand, epoch⟩
    rw [results, Std.ExtTreeMap.getElem?_insert]
    by_cases same : action.id = actionId
    · subst same
      rw [if_pos Std.compare_self, lastRun_of_completes completed, Option.some.injEq, eq_comm]
    · rw [if_neg (by simpa using same), h, lastRun_concat completed.lasting]
      intro other otherExecution again
      rw [← (completed.unique again).1]
      exact same
  | same lasting results unrecorded =>
    rw [results, h, lastRun_concat lasting]
    intro action execution completed
    have ⟨_, _, errand, _, _, landed⟩ := completed
    exact absurd ((completes _ _ _ landed).mp completed).2 (unrecorded _ _ _ landed errand)

theorem Course.recorded (course : Course first turns session air) (idle : first.running = false)
    (bare : first.state.results = ∅) : Recorded turns session := by
  induction course with
  | start =>
    intro actionId result
    rw [bare, Std.ExtTreeMap.getElem?_empty]
    constructor
    · intro found
      cases found
    · rintro ⟨_, _, _, ⟨_, _, eq, _⟩, _⟩
      simp at eq
  | @asked turns session air request moment course ih =>
    refine recorded_after ih fun _ _ _ landed => ?_
    cases landed
  | @arrived turns session before after flight result course ih =>
    refine recorded_after ih fun other action execution landed => ?_
    cases landed
    exact course.completes_iff idle (List.mem_append_right _ (List.mem_cons_self ..)) rfl

theorem exists_lastRun {action : Action} {execution : Execution} {later : List Turn}
    (h : Executed turns action execution later) : ∃ result, LastRun turns action.id result := by
  induction steps : later.length using Nat.strongRecOn generalizing action execution later with
  | _ n ih =>
    by_cases sooner : ∃ other otherExecution otherLater,
        Executed turns other otherExecution otherLater ∧ other.id = action.id ∧
          otherLater.length < later.length
    · obtain ⟨other, otherExecution, otherLater, executed, same, less⟩ := sooner
      rw [← same]
      exact ih _ (steps ▸ less) executed rfl
    · refine ⟨_, action, execution, later, h, rfl, rfl, fun _ _ otherLater executed same => ?_⟩
      exact Nat.le_of_not_lt fun less => sooner ⟨_, _, otherLater, executed, same, less⟩

theorem Turn.results_of_asked {request : Request} {moment : Moment}
    (asked : turn.happening = .asked request moment) (lasting : request ≠ .reset) :
    turn.after.state.results = turn.before.state.results := by
  obtain ⟨before, happening⟩ := turn
  cases asked
  exact (before.performed request moment).results lasting

theorem Turn.results_of_arrived {flight : Flight} {result : Except RunError Execution}
    (landed : turn.happening = .arrived flight result) :
    (∀ e, result = .error e → turn.after.state.results = turn.before.state.results) ∧
      ∀ actionId, (∀ action, flight.errand = .action action → action.id ≠ actionId) →
        turn.after.state.results[actionId]? = turn.before.state.results[actionId]? := by
  cases turn.records with
  | cleared resets =>
    obtain ⟨_, asked⟩ := resets
    cases landed.symm.trans asked
  | recorded recorded errand epoch results =>
    cases landed.symm.trans recorded
    constructor
    · intro e failed
      cases failed
    · intro actionId other
      rw [results, Std.ExtTreeMap.getElem?_insert, if_neg (by simpa using other _ errand)]
  | same _ results =>
    exact ⟨fun _ _ => results, fun actionId _ => by rw [results]⟩

/-- The results of a session are those of the last executed run of each action since the last reset,
and no others. Only the end of a run or a reset changes them: the end of an executed run the entry
of its own action, and the end of a failed run none. -/
theorem results_of_last_runs {id : String} {dashboard : Dashboard} {user : User} {limits : Limits}
    (course : Course (.start id dashboard user limits) turns session air) :
    (∀ actionId result, session.state.results[actionId]? = some result ↔
      LastRun turns actionId result) ∧
    (∀ actionId, session.state.results[actionId]? = none ↔
      ∀ action execution later, Executed turns action execution later → action.id ≠ actionId) ∧
    ∀ turn ∈ turns,
      (∀ request moment, turn.happening = .asked request moment → request ≠ .reset →
        turn.after.state.results = turn.before.state.results) ∧
      ∀ flight result, turn.happening = .arrived flight result →
        (∀ e, result = .error e → turn.after.state.results = turn.before.state.results) ∧
        ∀ actionId, (∀ action, flight.errand = .action action → action.id ≠ actionId) →
          turn.after.state.results[actionId]? = turn.before.state.results[actionId]? := by
  have recorded := course.recorded rfl rfl
  refine ⟨recorded, fun actionId => ?absent, fun turn _ =>
    ⟨fun _ _ => Turn.results_of_asked, fun _ _ => Turn.results_of_arrived⟩⟩
  case absent =>
    constructor
    · rintro nothing action execution later executed rfl
      obtain ⟨result, last⟩ := exists_lastRun executed
      cases nothing.symm.trans ((recorded action.id result).mpr last)
    · intro never
      refine Option.eq_none_iff_forall_ne_some.mpr fun result found => ?_
      obtain ⟨action, execution, later, executed, same, _⟩ := (recorded actionId result).mp found
      exact never action execution later executed same

def charge : Action :=
  ⟨"charge", "pay", "", none, false, none, none, some "charged", some "declined"⟩

def void : Action := { charge with id := "void" }

def cashier : Session :=
  .start "s" ⟨"support", "", ⟨none, [], [], [charge, void], [], ⟨[]⟩⟩⟩ .anonymous .standard

def chargeFlight : Flight := ⟨"pay", ∅, 0, .action charge⟩

def voidFlight : Flight := ⟨"pay", ∅, 0, .action void⟩

/-- One action succeeds, another one fails when it is executed, and then the first fails before it
is executed, which leaves both results. -/
theorem results_of_last_runs_cashier :
    ∃ turns session, Course cashier turns session [] ∧
      session.state.results["charge"]? =
        some ⟨⟨"run-1", ⟨"SUCCESS", some "42", none⟩⟩, some "charged"⟩ ∧
      LastRun turns "charge" ⟨⟨"run-1", ⟨"SUCCESS", some "42", none⟩⟩, some "charged"⟩ ∧
      LastRun turns "void" ⟨⟨"run-2", ⟨"error", none, some "late"⟩⟩, some "declined"⟩ ∧
      ∀ action execution later, Executed turns action execution later → action.id ≠ "refund" := by
  have charging : Course cashier _ _ ([] ++ chargeFlight :: []) :=
    .asked (.runAction "charge") ⟨1, 1, "b"⟩ (.asked .load ⟨0, 0, "a"⟩ .start)
  have voiding : Course cashier _ _ ([] ++ voidFlight :: []) :=
    .asked (.runAction "void") ⟨2, 2, "c"⟩
      (.arrived (.ok ⟨"run-1", "pay", ⟨"SUCCESS", some "42", none⟩⟩) charging)
  have again : Course cashier _ _ ([] ++ chargeFlight :: []) :=
    .asked (.runAction "charge") ⟨3, 3, "d"⟩
      (.arrived (.ok ⟨"run-2", "pay", ⟨"error", none, some "late"⟩⟩) voiding)
  have course := Course.arrived (.error (.appNotFound "pay")) again
  obtain ⟨last, never, _⟩ := results_of_last_runs course
  exact ⟨_, _, course, rfl, (last _ _).mp rfl, (last _ _).mp rfl, (never _).mp rfl⟩

end Runbook.Session
