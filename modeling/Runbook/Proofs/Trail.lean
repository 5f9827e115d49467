import Runbook.Proofs.Guarded
import Runbook.Proofs.Session.Unchanged

namespace Runbook

structure DirectRun where
  appId : String
  inputs : List RunInput
  user : User
  body : List Pair

namespace DirectRun

variable {m : Type → Type} [Monad m]

def carryOut (run : DirectRun) (executor : Executor m) (freshId : m String)
    (collaborators : Collaborators m) : ExceptT RunError m Execution := do
  let values ← liftExcept (collaborators.collect run.inputs)
  collaborators.execute executor freshId run.appId values run.user run.body

def events (run : DirectRun) : Except RunError Execution → List Event
  | .ok execution => [Runner.event run.user execution]
  | .error _ => []

def Goes (limits : Limits) (run : DirectRun) : List Deed → Except RunError Execution → Prop :=
  Then (fun deeds result => deeds = [] ∧
      (RunInput.collect limits run.inputs).mapError .invalidRunInput = result)
    fun values => Collaborators.Executing limits run.appId values run.user run.body

variable [LawfulMonad m]

end DirectRun

def Deed.answers (deeds : List Deed) : List (Except Failure Outcome) :=
  deeds.filterMap fun
    | .execution _ _ answer => some answer
    | _ => none

namespace Session

def Step.cancelled? (step : Step) : Option Confirmation :=
  match step.answer with
  | .reply (.cancelled confirmation) => confirmation
  | _ => none

def Turn.cancelled? (turn : Turn) : Option Confirmation := turn.step.cancelled?

def Turn.consumed? (turn : Turn) : Option Confirmation :=
  turn.taken?.bind fun _ => turn.before.state.gate.pending

end Session

open Session

/-- Something that is to be told by the trail. -/
inductive Occasion where
  | answered (session : Session) (flight : Flight) (result : Except RunError Execution)
      (answer : Except Failure Outcome)
  | answeredDirectly (run : DirectRun) (deeds : List Deed) (result : Except RunError Execution)
      (answer : Except Failure Outcome)
  | reset (session : Session)
  | cancelled (session : Session) (confirmation : Confirmation)
  | opened (session : Session) (confirmation : Confirmation)
  | consumed (session : Session) (confirmation : Confirmation)

/-- The event tells of the occasion. -/
inductive Occasion.ToldBy : Occasion → Event → Prop where
  | prepared {session : Session} {flight : Flight} {execution : Execution}
      {answer : Except Failure Outcome} (errand : flight.errand = .prepare)
      (reported : execution.outcome = Runner.outcome answer) :
    ToldBy (.answered session flight (.ok execution) answer)
      ⟨session.user.id, some session.id,
        .prepareExecuted flight.appId execution.runId (Runner.outcome answer).status⟩
  | acted {session : Session} {flight : Flight} {execution : Execution} {action : Action}
      {answer : Except Failure Outcome} (errand : flight.errand = .action action)
      (reported : execution.outcome = Runner.outcome answer) :
    ToldBy (.answered session flight (.ok execution) answer)
      ⟨session.user.id, some session.id,
        .actionExecuted action.id flight.appId execution.runId (Runner.outcome answer).status⟩
  | direct {run : DirectRun} {deeds : List Deed} {app : App} {execution : Execution}
      {answer : Except Failure Outcome} (found : .app run.appId (.ok (some app)) ∈ deeds)
      (reported : execution.outcome = Runner.outcome answer) :
    ToldBy (.answeredDirectly run deeds (.ok execution) answer)
      ⟨run.user.id, none,
        .appExecuted app.id execution.runId (Runner.outcome answer).status⟩
  | reset {session : Session} :
    ToldBy (.reset session) ⟨session.user.id, some session.id, .sessionReset⟩
  | cancelled {session : Session} {confirmation : Confirmation} :
    ToldBy (.cancelled session confirmation)
      ⟨session.user.id, some session.id, .actionCancelled confirmation.actionId⟩
  | opened {session : Session} {confirmation : Confirmation} {action : Action}
      (found : session.board.action? confirmation.actionId = some action) :
    ToldBy (.opened session confirmation)
      ⟨session.user.id, some session.id,
        .confirmationRequested confirmation.actionId action.appId⟩
  | consumed {session : Session} {confirmation : Confirmation} {action : Action}
      (found : session.board.action? confirmation.actionId = some action) :
    ToldBy (.consumed session confirmation)
      ⟨session.user.id, some session.id, .actionConfirmed confirmation.actionId action.appId⟩

def Session.Turn.occasions (turn : Turn) (deeds : List Deed) : List Occasion :=
  match turn.happening with
  | .asked request _ =>
    (if request = .reset then [.reset turn.before] else []) ++
      (turn.cancelled?.toList.map (.cancelled turn.before) ++
        (turn.opened?.toList.map (.opened turn.before) ++
          turn.consumed?.toList.map (.consumed turn.before)))
  | .arrived flight result => (Deed.answers deeds).map (.answered turn.before flight result)

/-- Something that happens in a system of sessions: a turn of one of them, or a run outside of all;
with what was asked of collaborators and executors in it. -/
inductive Entry (ι : Type) where
  | turn (name : ι) (turn : Turn) (deeds : List Deed)
  | direct (run : DirectRun) (deeds : List Deed) (result : Except RunError Execution)

namespace Entry

variable {ι : Type}

def events : Entry ι → List Event
  | .turn _ one _ => one.step.events
  | .direct run _ result => run.events result

def occasions : Entry ι → List Occasion
  | .turn _ one deeds => one.occasions deeds
  | .direct run deeds result => (Deed.answers deeds).map (.answeredDirectly run deeds result)

/-- The deeds are those of the run that ends in the entry, and none if no run does. -/
inductive Sound (limits : Limits) : Entry ι → Prop where
  | asked {name : ι} {before : Session} {request : Request} {moment : Moment} :
    Sound limits (.turn name ⟨before, .asked request moment⟩ [])
  | arrived {name : ι} {before : Session} {flight : Flight} {deeds : List Deed}
      {result : Except RunError Execution}
      (run : Collaborators.Executing limits flight.appId flight.inputs before.user [] deeds
        result) :
    Sound limits (.turn name ⟨before, .arrived flight result⟩ deeds)
  | direct {run : DirectRun} {deeds : List Deed} {result : Except RunError Execution}
      (goes : run.Goes limits deeds result) : Sound limits (.direct run deeds result)

end Entry

theorem answers_append (first second : List Deed) :
    Deed.answers (first ++ second) = Deed.answers first ++ Deed.answers second :=
  List.filterMap_append ..

theorem answers_of_idle {deeds : List Deed} (idle : ∀ deed ∈ deeds, deed.isExecution = false) :
    Deed.answers deeds = [] := by
  refine List.filterMap_eq_nil_iff.mpr fun deed member => ?_
  have quiet := idle deed member
  cases deed with
  | execution => cases quiet
  | _ => rfl

section

variable {limits : Limits} {appId : String} {values : Dict String} {user : User}
  {body : List Pair} {deeds : List Deed}

theorem app_of_calling {call : Call}
    (h : Collaborators.Calling limits appId values user body deeds (.ok call)) :
    ∃ app, .app appId (.ok (some app)) ∈ deeds ∧ call.appId = app.id := by
  rcases h with _ | ⟨found, rest⟩
  cases found with | found app resource => ?_
  rcases rest with _ | ⟨-, rest⟩
  rcases rest with _ | ⟨-, -, made⟩
  cases made
  exact ⟨app, by simp, rfl⟩

theorem answers_of_executing {result : Except RunError Execution}
    (h : Collaborators.Executing limits appId values user body deeds result) :
    (Deed.answers deeds = [] ∧ ∃ e, result = .error e) ∨
      ∃ answer runId app, Deed.answers deeds = [answer] ∧ .app appId (.ok (some app)) ∈ deeds ∧
        result = .ok ⟨runId, app.id, Runner.outcome answer⟩ := by
  rcases h with calling | ⟨calling, runId, answer, rfl, rfl⟩
  · exact .inl ⟨answers_of_idle (Collaborators.idle_of_calling calling), _, rfl⟩
  · obtain ⟨app, found, same⟩ := app_of_calling calling
    refine .inr ⟨answer, runId, app, ?_, List.mem_append_left _ found, by rw [same]⟩
    rw [answers_append, answers_of_idle (Collaborators.idle_of_calling calling)]
    rfl

end

theorem occasions_asked (session : Session) (request : Request) (moment : Moment)
    (deeds : List Deed) :
    Turn.occasions ⟨session, .asked request moment⟩ deeds =
      (if request = .reset then [.reset session] else []) ++
        ((session.perform request moment).cancelled?.toList.map (.cancelled session) ++
          ((session.perform request moment).opened?.toList.map (.opened session) ++
            (Turn.consumed? ⟨session, .asked request moment⟩).toList.map (.consumed session))) :=
  rfl

theorem occasions_asked_eq_nil {session : Session} {request : Request} {moment : Moment}
    {deeds : List Deed} (lasting : request ≠ .reset)
    (uncancelled : (session.perform request moment).cancelled? = none)
    (unopened : (session.perform request moment).opened? = none)
    (untaken : Turn.taken? ⟨session, .asked request moment⟩ = none) :
    Turn.occasions ⟨session, .asked request moment⟩ deeds = [] := by
  simp [occasions_asked, Turn.consumed?, lasting, uncancelled, unopened, untaken]

theorem told_asked (session : Session) (request : Request) (moment : Moment) (deeds : List Deed) :
    List.Forall₂ Occasion.ToldBy (Turn.occasions ⟨session, .asked request moment⟩ deeds)
      (session.perform request moment).events := by
  have performed := session.performed request moment
  have quiet (lasting : request ≠ .reset)
      (uncancelled : (session.perform request moment).cancelled? = none)
      (unopened : (session.perform request moment).opened? = none)
      (untaken : Turn.taken? ⟨session, .asked request moment⟩ = none)
      (silent : (session.perform request moment).events = []) :
      List.Forall₂ Occasion.ToldBy (Turn.occasions ⟨session, .asked request moment⟩ deeds)
        (session.perform request moment).events := by
    rw [occasions_asked_eq_nil lasting uncancelled unopened untaken, silent]
    exact .nil
  generalize eq : session.perform request moment = step at performed quiet
  have grounded (h : step.flight? = none) : Turn.taken? ⟨session, .asked request moment⟩ = none :=
    Turn.taken?_of_grounded ((congrArg Step.flight? eq).trans h)
  cases performed with
  | refused e mayFail =>
    refine quiet ?_ rfl rfl (grounded rfl) rfl
    rintro rfl
    cases mayFail
  | expired => exact quiet (by simp) rfl rfl (grounded rfl) rfl
  | loadValueSet => exact quiet (by simp) rfl rfl (grounded rfl) rfl
  | actionValueSet => exact quiet (by simp) rfl rfl (grounded rfl) rfl
  | loaded => exact quiet (by simp) rfl rfl (grounded rfl) rfl
  | preparing => exact quiet (by simp) rfl rfl rfl rfl
  | started => exact quiet (by simp) rfl rfl rfl rfl
  | @opened action confirmation phase found confirms opens =>
    have told : Turn.occasions ⟨session, .asked (.runAction action.id) moment⟩ deeds =
        [.opened session confirmation] := by
      rw [occasions_asked, eq]
      rfl
    have same := open?_actionId opens
    rw [told]
    refine .cons ?_ .nil
    rw [← same] at found ⊢
    exact .opened found
  | @confirmed confirmation action inputs idle phase pending now later found bound =>
    have consumed : Turn.consumed? ⟨session, .asked (.confirm confirmation.id) moment⟩ =
        some confirmation := by
      have flight := congrArg Step.flight? eq
      rw [Turn.consumed?, Turn.taken?, Turn.flight?]
      exact (congrArg (fun flight? => (Option.map _ flight?).bind _) flight).trans pending
    have told : Turn.occasions ⟨session, .asked (.confirm confirmation.id) moment⟩ deeds =
        [.consumed session confirmation] := by
      rw [occasions_asked, eq, consumed]
      rfl
    rw [told]
    refine .cons ?_ .nil
    rw [Board.action?_id found]
    exact .consumed found
  | cancelled =>
    have told : Turn.occasions ⟨session, .asked .cancelConfirmation moment⟩ deeds =
        session.state.gate.pending.toList.map (.cancelled session) := by
      rw [occasions_asked, eq]
      simp [Step.cancelled?, Step.opened?, Turn.consumed?, Turn.taken?, cancelConfirmation]
    rw [told]
    have each : ∀ confirmation ∈ session.state.gate.pending.toList,
        Occasion.ToldBy (.cancelled session confirmation)
          (session.event (.actionCancelled confirmation.actionId)) := fun _ _ => .cancelled
    exact List.forall₂_map_left_iff.mpr (forall₂_map_of_forall each)
  | reset =>
    have told : Turn.occasions ⟨session, .asked .reset moment⟩ deeds = [.reset session] := by
      rw [occasions_asked, eq]
      rfl
    rw [told]
    exact .cons .reset .nil

theorem events_arrived (session : Session) (flight : Flight) (execution : Execution) :
    (session.arrive flight (.ok execution)).events = [session.executed flight execution] := by
  have arrived := session.arrived flight (.ok execution)
  generalize session.arrive flight (.ok execution) = step at arrived ⊢
  cases arrived <;> rfl

theorem told_arrived {limits : Limits} {session : Session} {flight : Flight} {deeds : List Deed}
    {result : Except RunError Execution}
    (h : Collaborators.Executing limits flight.appId flight.inputs session.user [] deeds result) :
    List.Forall₂ Occasion.ToldBy (Turn.occasions ⟨session, .arrived flight result⟩ deeds)
      (session.arrive flight result).events := by
  have occasions : Turn.occasions ⟨session, .arrived flight result⟩ deeds =
      (Deed.answers deeds).map (.answered session flight result) := rfl
  rw [occasions]
  rcases answers_of_executing h with ⟨nothing, e, rfl⟩ | ⟨answer, runId, app, one, found, rfl⟩
  · rw [nothing]
    exact .nil
  · rw [one, events_arrived]
    refine .cons ?_ .nil
    cases errand : flight.errand with
    | prepare =>
      have event : session.executed flight ⟨runId, app.id, Runner.outcome answer⟩ =
          ⟨session.user.id, some session.id,
            .prepareExecuted flight.appId runId (Runner.outcome answer).status⟩ := by
        simp [executed, errand, event]
      rw [event]
      exact .prepared errand rfl
    | action action =>
      have event : session.executed flight ⟨runId, app.id, Runner.outcome answer⟩ =
          ⟨session.user.id, some session.id,
            .actionExecuted action.id flight.appId runId (Runner.outcome answer).status⟩ := by
        simp [executed, errand, event]
      rw [event]
      exact .acted errand rfl

theorem told_direct {limits : Limits} {run : DirectRun} {deeds : List Deed}
    {result : Except RunError Execution} (h : run.Goes limits deeds result) :
    List.Forall₂ Occasion.ToldBy
      ((Deed.answers deeds).map (.answeredDirectly run deeds result)) (run.events result) := by
  rcases h with ⟨rfl, -⟩ | ⟨⟨rfl, -⟩, executing⟩
  · exact .nil
  rw [List.nil_append]
  rcases answers_of_executing executing with
    ⟨nothing, e, rfl⟩ | ⟨answer, runId, app, one, found, rfl⟩
  · rw [nothing]
    exact .nil
  · rw [one]
    exact .cons (.direct found rfl) .nil

theorem Entry.told {ι : Type} {limits : Limits} {entry : Entry ι} (h : entry.Sound limits) :
    List.Forall₂ Occasion.ToldBy entry.occasions entry.events := by
  cases h with
  | asked => exact told_asked _ _ _ []
  | arrived run => exact told_arrived run
  | direct goes => exact told_direct goes

namespace Entry

variable {ι : Type} [DecidableEq ι]

end Entry

namespace Entry

variable {ι : Type} [DecidableEq ι] {name : ι} {entries : List (Entry ι)}

end Entry

namespace Session.Turn

end Session.Turn

end Runbook
