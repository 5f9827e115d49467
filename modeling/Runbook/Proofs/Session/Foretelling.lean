import Runbook.Proofs.Previews
import Runbook.Proofs.Session.Unchanged

namespace Runbook

theorem Gate.check_of_valid {gate : Gate} {id : String} {now : Instant}
    {confirmation : Confirmation} (h : gate.Valid id now confirmation) :
    gate.check id now = (.ok confirmation, gate) := by
  simp [check, h.pending, h.id, h.fresh]

namespace Session

/-- The step hands over the app of the action with the inputs of the preview, or is refused as the
preview is, and nothing has changed. -/
def Foretold (session : Session) (actionId : String) (step : Step) : Prop :=
  match session.preview actionId with
  | .ok inputs => ∃ action, session.board.action? actionId = some action ∧
      step.answer = .flight ⟨action.appId, inputs, session.state.epoch, .action action⟩
  | .error e => step = session.refuse e

variable {session : Session} {action : Action} {moment : Moment}

theorem requireIdle_of_idle (idle : session.running = false) : session.requireIdle = .ok () :=
  requireIdle_eq_ok_iff.mpr idle

theorem runAction_eq_preview {actionId : String} (idle : session.running = false)
    (found : session.board.action? actionId = some action) (direct : action.confirms = false) :
    session.runAction actionId moment =
      (session.preview actionId).map fun inputs => session.dispatch action inputs [] := by
  have required : session.requireAction actionId = .ok action := requireAction_eq_ok_iff.mpr found
  have same := Board.action?_id found
  unfold runAction preview
  rw [required, requireIdle_of_idle idle]
  cases session.requirePhase .postLoad with
  | error e => rfl
  | ok _ =>
    dsimp only [bind, Except.bind]
    rw [direct, same]
    cases session.boundInputs actionId <;> rfl

theorem confirm_eq_preview {confirmation : Confirmation} (idle : session.running = false)
    (valid : session.state.gate.Valid confirmation.id moment.now confirmation)
    (later : confirmation.isExpired moment.later = false) :
    session.confirm confirmation.id moment = do
      let inputs ← session.preview confirmation.actionId
      let action ← session.requireAction confirmation.actionId
      return (session.withGate session.state.gate.clear).dispatch action inputs
        [session.event (.actionConfirmed action.id action.appId)] := by
  have check := Gate.check_of_valid valid
  have take := Gate.take_of_check (Gate.check_of_valid ⟨valid.pending, valid.id, later⟩)
  unfold confirm preview
  rw [check, requireIdle_of_idle idle]
  cases session.requirePhase .postLoad with
  | error e => rfl
  | ok _ =>
    dsimp only [bind, Except.bind]
    cases required : session.requireAction confirmation.actionId with
    | error e => rfl
    | ok action =>
      have same := Board.action?_id (requireAction_eq_ok_iff.mp required)
      dsimp only
      rw [same]
      cases session.boundInputs confirmation.actionId with
      | error e => rfl
      | ok inputs =>
        dsimp only
        rw [take]

theorem foretold_runAction {actionId : String} (idle : session.running = false)
    (found : session.board.action? actionId = some action) (direct : action.confirms = false) :
    session.Foretold actionId (session.perform (.runAction actionId) moment) := by
  unfold Foretold
  rw [perform, runAction_eq_preview idle found direct]
  cases session.preview actionId with
  | error e => rfl
  | ok inputs => exact ⟨action, found, rfl⟩

theorem foretold_confirm {confirmation : Confirmation} (idle : session.running = false)
    (valid : session.state.gate.Valid confirmation.id moment.now confirmation)
    (later : confirmation.isExpired moment.later = false) :
    session.Foretold confirmation.actionId (session.perform (.confirm confirmation.id) moment) := by
  unfold Foretold
  rw [perform, confirm_eq_preview idle valid later]
  cases previewed : session.preview confirmation.actionId with
  | error e => rfl
  | ok inputs =>
    obtain ⟨_, -, rest⟩ := Except.bind_eq_ok_iff.mp previewed
    obtain ⟨action, required, -⟩ := Except.bind_eq_ok_iff.mp rest
    rw [required]
    exact ⟨action, requireAction_eq_ok_iff.mp required, rfl⟩

namespace Desk

variable {m : Type → Type} [Monad m] [LawfulMonad m]

def conclude (desk : Desk m) (flight : Flight) (result : Except RunError Execution) :
    m (Except RunError Reply) := do
  return (← desk.settle ((← desk.get).arrive flight result)).result

theorem follow_flight (desk : Desk m) (user : User) {step : Step} {flight : Flight}
    (h : step.answer = .flight flight) :
    desk.follow user step = (do
      desk.put step.session
      step.events.forM desk.record
      let run :=
        desk.runner.execute desk.executor desk.freshRunId flight.appId flight.inputs user []
      desk.conclude flight (← run.run)) := by
  have settled : desk.settle step = (do
      desk.put step.session
      step.events.forM desk.record
      return .flight flight) := by rw [settle, h]
  rw [follow, settled, bind_assoc]
  refine bind_congr fun _ => ?_
  rw [bind_assoc]
  refine bind_congr fun _ => ?_
  rw [pure_bind]
  dsimp only
  rw [wait, bind_assoc]
  exact bind_congr fun result => bind_assoc ..

theorem follow_refuse (desk : Desk m) (user : User) (session : Session) (e : RunError) :
    desk.follow user (session.refuse e) = do
      desk.put session
      return .error e := by
  simp [follow, settle, refuse, Answer.result]

end Desk

/-- What the step comes to at a desk: the app of the action is run with the inputs of the preview
and nothing else, or nothing is run and the error of the preview is told. -/
def Foretold.Followed (session : Session) (actionId : String) (step : Step) {m : Type → Type}
    [Monad m] (desk : Desk m) : Prop :=
  match session.preview actionId with
  | .ok inputs => ∃ action, session.board.action? actionId = some action ∧
      desk.follow session.user step = (do
        desk.put step.session
        step.events.forM desk.record
        let run := desk.runner.execute desk.executor desk.freshRunId action.appId inputs
          session.user []
        desk.conclude ⟨action.appId, inputs, session.state.epoch, .action action⟩ (← run.run))
  | .error e => desk.follow session.user step = (do
      desk.put session
      return .error e)

theorem Foretold.followed {actionId : String} {step : Step} (h : session.Foretold actionId step)
    {m : Type → Type} [Monad m] [LawfulMonad m] (desk : Desk m) :
    Foretold.Followed session actionId step desk := by
  unfold Foretold at h
  unfold Foretold.Followed
  cases previewed : session.preview actionId with
  | error e =>
    rw [previewed] at h
    rw [h]
    exact desk.follow_refuse session.user session e
  | ok inputs =>
    rw [previewed] at h
    obtain ⟨action, found, answer⟩ := h
    have followed := desk.follow_flight session.user answer
    exact ⟨action, found, followed⟩

end Session

open Session Collaborators

/-- What is previewed is done. In every state that a session can be in without a run in the air, an
action that is run at once, or for its confirmation, gets the inputs of the preview, or fails with
its error. If the policy permits an app and its definitions stay the same, then a run of it hands
over what its compilation gives, or fails with its error. -/
theorem previews_foretell :
    (∀ (id : String) (dashboard : Dashboard) (user : User) (limits : Limits) (turns : List Turn)
        (session : Session), Course (.start id dashboard user limits) turns session [] →
      (∀ actionId action moment, session.board.action? actionId = some action →
        action.confirms = false →
          session.Foretold actionId (session.perform (.runAction actionId) moment)) ∧
      ∀ (confirmation : Confirmation) (moment : Moment),
        session.state.gate.Valid confirmation.id moment.now confirmation →
        confirmation.isExpired moment.later = false →
          session.Foretold confirmation.actionId
            (session.perform (.confirm confirmation.id) moment)) ∧
    (∀ (m : Type → Type) [Monad m] [LawfulMonad m] (desk : Desk m) (session : Session)
        (actionId : String) (step : Step), session.Foretold actionId step →
      Foretold.Followed session actionId step desk) ∧
    ∀ (m : Type → Type) [Monad m] [LawfulMonad m] (executor : Executor m) (freshId : m String)
        (record : Event → m Unit) (collaborators : Collaborators m) (appId : String)
        (inputs : List RunInput) (user : User) (body : List Pair),
      Watches (collaborators.Previewing appId inputs user body)
        (collaborators.watched.compile appId inputs user body).run
        (collaborators.compile appId inputs user body).run ∧
      Watches (collaborators.Undertaking appId inputs user body)
        (collaborators.watched.run (Executor.watched executor) (liftM freshId)
          (fun event => liftM (record event)) appId inputs user body).run
        (collaborators.run executor freshId record appId inputs user body).run ∧
      ∀ first compiled second ran, collaborators.Previewing appId inputs user body first compiled →
        collaborators.Undertaking appId inputs user body second ran →
        Deed.Consistent (first ++ second) → Deed.Permitted second →
          Foretells compiled second ran := by
  refine ⟨fun id dashboard user limits turns session course => ?_,
    fun m _ _ desk session actionId step h => h.followed desk,
    fun m _ _ executor freshId record collaborators appId inputs user body => ?_⟩
  · have idle : session.running = false := by
      cases course.airborne rfl with
      | grounded idle => exact idle
    exact ⟨fun actionId action moment => foretold_runAction idle,
      fun confirmation moment => foretold_confirm idle⟩
  · exact ⟨watches_previewing collaborators appId inputs user body,
      watches_undertaking executor freshId record collaborators appId inputs user body,
      fun first compiled second ran => foretells_of_undertaking⟩

theorem previewing_onlyOnce : onlyOnce.Previewing "ledger" [] .anonymous []
    [.app "ledger" (.ok (some ledger)), .resource "books" (.ok (some books))]
    (.ok (.sql ⟨"select 1", []⟩)) :=
  .went_of_eq ⟨rfl, rfl⟩ (.went_of_eq (.found ledger books) compiling_ledger rfl) rfl

theorem undertaking_onlyOnce (failure : Failure) : onlyOnce.Undertaking "ledger" [] .anonymous []
    [.app "ledger" (.ok (some ledger)), .resource "books" (.ok (some books)),
      .permit .anonymous ledger (.ok true),
      .execution books (.sql ⟨"select 1", []⟩) (.error failure)]
    (.ok ⟨"run", .error failure.line⟩) :=
  .went_of_eq ⟨rfl, rfl⟩
    (.went_of_eq (executing_ledger "ledger" (.error failure)) ⟨rfl, rfl⟩ rfl) rfl

/-- A refund that waits to be confirmed is previewed with no inputs, and gets none; the ledger is
compiled to a statement, and its run hands this statement over. -/
theorem previews_foretell_refund :
    ∃ turns session, Course newcomer turns session [] ∧ session.preview "refund" = .ok ∅ ∧
      session.Foretold "refund" (session.perform (.confirm "b") ⟨2, 2, "c"⟩) ∧
      ∃ first second compiled ran, onlyOnce.Previewing "ledger" [] .anonymous [] first compiled ∧
        onlyOnce.Undertaking "ledger" [] .anonymous [] second ran ∧
        Foretells compiled second ran ∧ compiled = .ok (.sql ⟨"select 1", []⟩) := by
  obtain ⟨sessions, _, runs⟩ := previews_foretell
  have course : Course newcomer _ _ [] :=
    .asked (.runAction "refund") ⟨1, 1, "b"⟩ (.asked .load ⟨0, 0, "a"⟩ .start)
  obtain ⟨_, confirmed⟩ := sessions _ _ _ _ _ _ course
  have run := undertaking_onlyOnce (.ofMessage "no connection")
  obtain ⟨_, _, foretold⟩ :=
    runs _ (fun _ _ => pure (.ok (.success ""))) (pure "run") (fun _ => pure ()) onlyOnce "ledger"
      [] .anonymous []
  have told := foretold _ _ _ _ previewing_onlyOnce run
    ⟨by grind, by grind, by grind⟩ (by simp [Deed.Permitted])
  refine ⟨_, _, course, rfl, confirmed _ ⟨2, 2, "c"⟩ ⟨rfl, rfl, rfl⟩ rfl, _, _, _, _,
    previewing_onlyOnce, run, told, rfl⟩

end Runbook
