import Runbook.Proofs.Session.Course

namespace Runbook.Session

def Step.opened? (step : Step) : Option Confirmation :=
  match step.answer with
  | .reply (.confirmation confirmation) => some confirmation
  | _ => none

namespace Turn

def opened? (turn : Turn) : Option Confirmation := turn.step.opened?

def taken? (turn : Turn) : Option String :=
  match turn.happening with
  | .asked (.confirm id) _ => turn.flight?.map fun _ => id
  | _ => none

/-- The turn leaves a pending confirmation alone. -/
structure Spares (turn : Turn) : Prop where
  reset : ∀ moment, turn.happening ≠ .asked .reset moment
  cancel : ∀ moment, turn.happening ≠ .asked .cancelConfirmation moment
  opened : turn.opened? = none
  taken : turn.taken? = none

structure Opens (turn : Turn) (confirmation : Confirmation) : Prop where
  asked : ∃ moment, turn.happening = .asked (.runAction confirmation.actionId) moment
  opened : turn.opened? = some confirmation

/-- What becomes of the pending confirmation in a turn: none is left, a new one is opened, or all
stays as it is. -/
inductive Leaves (turn : Turn) : Prop where
  | nothing (unopened : turn.opened? = none) (cleared : turn.after.state.gate.pending = none)
      (taken : ∀ id, turn.taken? = some id → ∃ confirmation,
        turn.before.state.gate.pending = some confirmation ∧ confirmation.id = id)
  | new {confirmation : Confirmation} (opens : turn.Opens confirmation)
      (pending : turn.after.state.gate.pending = some confirmation)
      (epoch : turn.after.state.epoch = turn.before.state.epoch)
  | same (spares : turn.Spares)
      (pending : turn.after.state.gate.pending = turn.before.state.gate.pending)
      (epoch : turn.after.state.epoch = turn.before.state.epoch)

theorem Opens.taken {turn : Turn} {confirmation : Confirmation} (h : turn.Opens confirmation) :
    turn.taken? = none := by
  obtain ⟨moment, asked⟩ := h.asked
  rw [taken?, asked]

theorem taken?_of_grounded {turn : Turn} (h : turn.flight? = none) : turn.taken? = none := by
  unfold taken?
  split
  next => rw [h]; rfl
  next => rfl

theorem spares_asked {session : Session} {request : Request} {moment : Moment} {step : Step}
    (eq : session.perform request moment = step) (mayFail : request.mayFail = true)
    (opened : step.opened? = none) (grounded : step.flight? = none) :
    Spares ⟨session, .asked request moment⟩ where
  reset later h := by
    cases h
    cases mayFail
  cancel later h := by
    cases h
    cases mayFail
  opened := (congrArg Step.opened? eq).trans opened
  taken := taken?_of_grounded ((congrArg Step.flight? eq).trans grounded)

end Turn

theorem open?_actionId {id : String} {action : Action} {now : Instant} {seconds : Int}
    {confirmation : Confirmation}
    (h : Confirmation.open? id action now seconds = some confirmation) :
    confirmation.actionId = action.id := by
  obtain ⟨expires, _, rfl⟩ := Option.map_eq_some_iff.mp h
  rfl

theorem leaves_asked (session : Session) (request : Request) (moment : Moment) :
    Turn.Leaves ⟨session, .asked request moment⟩ := by
  have h := session.performed request moment
  generalize eq : session.perform request moment = step at h
  have after : Turn.after ⟨session, .asked request moment⟩ = step.session := congrArg _ eq
  have opened : Turn.opened? ⟨session, .asked request moment⟩ = step.opened? := congrArg _ eq
  have flight : Turn.flight? ⟨session, .asked request moment⟩ = step.flight? := congrArg _ eq
  have same (spares : Turn.Spares ⟨session, .asked request moment⟩)
      (state : step.session.state.gate = session.state.gate ∧
        step.session.state.epoch = session.state.epoch) :
      Turn.Leaves ⟨session, .asked request moment⟩ :=
    .same spares (by rw [after, state.1]) (by rw [after, state.2])
  cases h with
  | refused e mayFail => exact same (Turn.spares_asked eq mayFail rfl rfl) ⟨rfl, rfl⟩
  | loadValueSet => exact same (Turn.spares_asked eq rfl rfl rfl) ⟨rfl, rfl⟩
  | actionValueSet => exact same (Turn.spares_asked eq rfl rfl rfl) ⟨rfl, rfl⟩
  | loaded => exact same (Turn.spares_asked eq rfl rfl rfl) ⟨rfl, rfl⟩
  | started => exact same ⟨by simp, by simp, opened, rfl⟩ ⟨rfl, rfl⟩
  | preparing => exact same ⟨by simp, by simp, opened, rfl⟩ ⟨rfl, rfl⟩
  | @opened action confirmation phase found confirms opens =>
    refine .new ⟨⟨moment, ?_⟩, opened⟩ (by rw [after]; rfl)
      (by rw [after]; rfl)
    rw [open?_actionId opens]
  | expired idle phase pending late =>
    refine .nothing opened (by rw [after]; rfl) fun id taken => ?_
    rw [Turn.taken?_of_grounded flight] at taken
    cases taken
  | @confirmed confirmation action inputs idle phase pending now later found bound =>
    refine .nothing opened (by rw [after]; rfl) fun id taken => ⟨confirmation, pending, ?_⟩
    rw [Turn.taken?, flight] at taken
    exact Option.some.inj taken
  | cancelled => exact .nothing opened (by rw [after]; rfl) fun id taken => by cases taken
  | reset => exact .nothing opened (by rw [after]; rfl) fun id taken => by cases taken

theorem leaves_arrived (session : Session) (flight : Flight)
    (result : Except RunError Execution) : Turn.Leaves ⟨session, .arrived flight result⟩ := by
  have h := session.arrived flight result
  generalize eq : session.arrive flight result = step at h
  have after : Turn.after ⟨session, .arrived flight result⟩ = step.session := congrArg _ eq
  have opened : Turn.opened? ⟨session, .arrived flight result⟩ = step.opened? := congrArg _ eq
  have same (unopened : step.opened? = none) (gate : step.session.state.gate = session.state.gate)
      (epoch : step.session.state.epoch = session.state.epoch) :
      Turn.Leaves ⟨session, .arrived flight result⟩ :=
    .same ⟨by simp, by simp, opened.trans unopened, rfl⟩ (by rw [after, gate])
      (by rw [after, epoch])
  cases h with
  | failed => exact same rfl rfl rfl
  | late => exact same rfl rfl rfl
  | kept execution =>
    obtain ⟨gate, epoch, _, _⟩ := keep_frame session.state flight.errand execution
    refine same ?_ gate epoch
    cases flight.errand <;> rfl

theorem Turn.leaves (turn : Turn) : turn.Leaves := by
  obtain ⟨before, happening⟩ := turn
  cases happening with
  | asked request moment => exact leaves_asked before request moment
  | arrived flight result => exact leaves_arrived before flight result

/-- The confirmation was opened in the epoch of the session and has been left alone since. -/
def Issued (turns : List Turn) (session : Session) (confirmation : Confirmation) : Prop :=
  ∃ earlier opening since, turns = earlier ++ opening :: since ∧ opening.Opens confirmation ∧
    opening.before.state.epoch = session.state.epoch ∧ ∀ turn ∈ since, turn.Spares

theorem issued_after {turns : List Turn} (turn : Turn)
    (h : ∀ confirmation, turn.before.state.gate.pending = some confirmation →
      Issued turns turn.before confirmation)
    {confirmation : Confirmation} (pending : turn.after.state.gate.pending = some confirmation) :
    Issued (turns ++ [turn]) turn.after confirmation := by
  cases turn.leaves with
  | nothing _ cleared =>
    rw [cleared] at pending
    cases pending
  | new opens now epoch =>
    cases Option.some.inj (now.symm.trans pending)
    exact ⟨turns, turn, [], rfl, opens, epoch.symm, by simp⟩
  | same spares kept epoch =>
    obtain ⟨earlier, opening, since, rfl, opens, same, spared⟩ := h _ (kept.symm.trans pending)
    refine ⟨earlier, opening, since ++ [turn], by simp, opens, same.trans epoch.symm, ?_⟩
    intro other ho
    rcases List.mem_append.mp ho with ho | ho
    · exact spared other ho
    · rw [List.mem_singleton.mp ho]
      exact spares

variable {first session : Session} {turns : List Turn} {air : List Flight}

theorem Course.issued (course : Course first turns session air)
    (empty : first.state.gate.pending = none) {confirmation : Confirmation}
    (pending : session.state.gate.pending = some confirmation) :
    Issued turns session confirmation := by
  induction course generalizing confirmation with
  | start =>
    rw [empty] at pending
    cases pending
  | asked request moment _ ih =>
    exact issued_after ⟨_, .asked request moment⟩ (fun _ h => ih h) pending
  | arrived result _ ih =>
    exact issued_after ⟨_, .arrived _ result⟩ (fun _ h => ih h) pending

theorem pending_of_flight {turn : Turn} {flight : Flight} {action : Action}
    (h : turn.flight? = some flight) (errand : flight.errand = .action action)
    (confirms : action.confirms = true) :
    ∃ confirmation moment, turn.happening = .asked (.confirm confirmation.id) moment ∧
      turn.before.state.gate.pending = some confirmation ∧
      confirmation.isExpired moment.now = false ∧
      turn.before.board.action? confirmation.actionId = some action := by
  cases turn.launches h with
  | load => cases errand
  | direct _ _ _ direct =>
    cases errand
    rw [direct] at confirms
    cases confirms
  | confirmed asked _ pending fresh found =>
    cases errand
    exact ⟨_, _, asked, pending, fresh, found⟩

def openedIds (turns : List Turn) : List String :=
  turns.filterMap fun turn => turn.opened?.map Confirmation.id

def takenIds (turns : List Turn) : List String := turns.filterMap Turn.taken?

/-- Ids were used up once each, and only opened ones; that of the pending confirmation was not. -/
structure Spent (turns : List Turn) (session : Session) : Prop where
  once : (takenIds turns).Nodup
  opened : takenIds turns ⊆ openedIds turns
  pending : ∀ confirmation, session.state.gate.pending = some confirmation →
    confirmation.id ∈ openedIds turns ∧ confirmation.id ∉ takenIds turns

theorem openedIds_concat (turns : List Turn) (turn : Turn) :
    openedIds (turns ++ [turn]) = openedIds turns ++ (turn.opened?.map Confirmation.id).toList := by
  rw [openedIds, List.filterMap_append, List.filterMap_cons, List.filterMap_nil]
  cases turn.opened? <;> rfl

theorem takenIds_concat (turns : List Turn) (turn : Turn) :
    takenIds (turns ++ [turn]) = takenIds turns ++ turn.taken?.toList := by
  rw [takenIds, List.filterMap_append, List.filterMap_cons, List.filterMap_nil]
  cases turn.taken? <;> rfl

theorem spent_after {turns : List Turn} (turn : Turn) (h : Spent turns turn.before)
    (distinct : (openedIds (turns ++ [turn])).Nodup) : Spent (turns ++ [turn]) turn.after := by
  have taken := takenIds_concat turns turn
  have opened := openedIds_concat turns turn
  cases turn.leaves with
  | nothing unopened cleared used =>
    rw [unopened, Option.map_none, Option.toList_none, List.append_nil] at opened
    have done : ∀ confirmation, turn.after.state.gate.pending = some confirmation → False := by
      simp [cleared]
    cases id : turn.taken? with
    | none =>
      rw [id, Option.toList_none, List.append_nil] at taken
      exact ⟨taken ▸ h.once, by rw [taken, opened]; exact h.opened, fun c hc => (done c hc).elim⟩
    | some id =>
      obtain ⟨confirmation, pending, rfl⟩ := used _ id
      obtain ⟨known, unused⟩ := h.pending _ pending
      rw [id, Option.toList_some] at taken
      refine ⟨?_, ?_, fun c hc => (done c hc).elim⟩
      · rw [taken]
        refine List.nodup_append.mpr ⟨h.once, by simp, fun a ha b hb eq => ?_⟩
        rw [eq, List.mem_singleton.mp hb] at ha
        exact unused ha
      · rw [taken, opened]
        exact List.append_subset.mpr ⟨h.opened, by simpa using known⟩
  | new opens now epoch =>
    rw [opens.taken, Option.toList_none, List.append_nil] at taken
    rw [opens.opened, Option.map_some, Option.toList_some] at opened
    rw [opened] at distinct
    refine ⟨taken ▸ h.once, ?_, fun c hc => ?_⟩
    · rw [taken, opened]
      exact List.Subset.trans h.opened (List.subset_append_left _ _)
    · cases Option.some.inj (now.symm.trans hc)
      rw [taken, opened]
      have new := (List.nodup_append.mp distinct).2.2
      refine ⟨by simp, fun old => new _ (h.opened old) _ (by simp) rfl⟩
  | same spares kept epoch =>
    rw [spares.taken, Option.toList_none, List.append_nil] at taken
    rw [spares.opened, Option.map_none, Option.toList_none, List.append_nil] at opened
    refine ⟨taken ▸ h.once, by rw [taken, opened]; exact h.opened, fun c hc => ?_⟩
    rw [taken, opened]
    exact h.pending c (kept.symm.trans hc)

theorem Course.spent (course : Course first turns session air)
    (empty : first.state.gate.pending = none) (distinct : (openedIds turns).Nodup) :
    Spent turns session := by
  induction course with
  | start => exact ⟨List.nodup_nil, List.nil_subset _, by simp [empty]⟩
  | asked request moment _ ih =>
    refine spent_after ⟨_, .asked request moment⟩ (ih ?_) distinct
    rw [openedIds_concat] at distinct
    exact (List.nodup_append.mp distinct).1
  | arrived result _ ih =>
    refine spent_after ⟨_, .arrived _ result⟩ (ih ?_) distinct
    rw [openedIds_concat] at distinct
    exact (List.nodup_append.mp distinct).1

/-- An action that asks for confirmation is run in answer to a valid confirmation of its own only,
and no confirmation leads to two runs. -/
theorem run_only_confirmed {id : String} {dashboard : Dashboard} {user : User} {limits : Limits}
    (course : Course (.start id dashboard user limits) turns session air) :
    (∀ earlier turn later flight action, turns = earlier ++ turn :: later →
      turn.flight? = some flight → flight.errand = .action action → action.confirms = true →
        ∃ confirmation moment, turn.happening = .asked (.confirm confirmation.id) moment ∧
          confirmation.isExpired moment.now = false ∧ confirmation.actionId = action.id ∧
          Issued earlier turn.before confirmation) ∧
    ((openedIds turns).Nodup → (takenIds turns).Nodup) := by
  refine ⟨fun earlier turn later flight action eq launched errand confirms => ?_,
    fun distinct => ?_⟩
  · obtain ⟨confirmation, moment, asked, pending, fresh, found⟩ :=
      pending_of_flight launched errand confirms
    obtain ⟨_, before⟩ := course.until eq
    exact ⟨confirmation, moment, asked, fresh, (Board.action?_id found).symm,
      before.issued rfl pending⟩
  · exact (course.spent rfl distinct).once

def refund : Action := ⟨"refund", "pay", "", none, true, none, none, none, none⟩

def newcomer : Session :=
  .start "s" ⟨"support", "", ⟨none, [], [], [refund], [], ⟨[]⟩⟩⟩ .anonymous .standard

/-- A confirmation that was replaced is refused, and the one that replaced it leads to the run. -/
theorem run_only_confirmed_refund :
    ∃ turns session air earlier turn flight confirmation moment,
      Course newcomer turns session air ∧ turns = earlier ++ [turn] ∧
      turn.flight? = some flight ∧ flight.errand = .action refund ∧ refund.confirms = true ∧
      turn.happening = .asked (.confirm confirmation.id) moment ∧
      confirmation.isExpired moment.now = false ∧ confirmation.actionId = refund.id ∧
      Issued earlier turn.before confirmation ∧ (openedIds turns).Nodup ∧
      (takenIds turns).Nodup := by
  have course := Course.asked (.confirm "c") ⟨4, 4, "e"⟩ (.asked (.confirm "b") ⟨3, 3, "d"⟩
    (.asked (.runAction "refund") ⟨2, 2, "c"⟩ (.asked (.runAction "refund") ⟨1, 1, "b"⟩
      (.asked .load ⟨0, 0, "a"⟩ (.start : Course newcomer [] newcomer [])))))
  obtain ⟨confirmed, once⟩ := run_only_confirmed course
  obtain ⟨confirmation, moment, asked, fresh, same, issued⟩ :=
    confirmed _ _ [] _ refund rfl rfl rfl rfl
  refine ⟨_, _, _, _, _, _, confirmation, moment, course, rfl, rfl, rfl, rfl, asked, fresh, same,
    issued, ?distinct, once ?distinct⟩
  exact by decide

end Runbook.Session
