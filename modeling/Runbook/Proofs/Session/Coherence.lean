import Runbook.Proofs.Dict
import Runbook.Proofs.Session.Confirming
import Runbook.Proofs.Session.Running

namespace Runbook

namespace Session

def Keyed (fields : List Field) (values : Dict String) : Prop :=
  ∀ id, id ∈ values ↔ ∃ field ∈ fields, field.id = id

theorem keyed_defaults (fields : List Field) : Keyed fields (State.defaults fields) := by
  intro id
  simp [State.defaults, Dict.mem_ofPairs]

theorem Keyed.insert {fields : List Field} {values : Dict String} {fieldId value : String}
    (h : Keyed fields values) (known : (Field.find? fields fieldId).isSome = true) :
    Keyed fields (values.insert fieldId value) := by
  intro id
  rw [Std.ExtTreeMap.mem_insert, h id, Std.compare_eq_iff_eq]
  refine or_iff_right_of_imp fun same => ?_
  obtain ⟨field, hf, eq⟩ := List.find?_isSome.mp known
  exact ⟨field, hf, by simpa [same] using eq⟩

structure Coherent (session : Session) : Prop where
  loadKeys : Keyed session.board.loadInputs session.state.loadValues
  actionKeys : Keyed session.board.actionInputs session.state.actionValues
  bare : session.state.phase = .preLoad → session.state.results = ∅ ∧ session.state.output = none ∧
    session.state.gate.pending = none ∧
    session.state.actionValues = State.defaults session.board.actionInputs
  pending : ∀ confirmation, session.state.gate.pending = some confirmation →
    ∃ action, session.board.action? confirmation.actionId = some action ∧ action.confirms = true
  results : ∀ id ∈ session.state.results, ∃ action, session.board.action? id = some action
  output : session.state.output.isSome = true → session.board.prepareAppId.isSome = true

/-- A run in the air is one that the dashboard asks for, and unless the session was reset since, it
is still in the phase in which such runs are handed over. -/
inductive Fits (session : Session) (flight : Flight) : Prop where
  | prepare (errand : flight.errand = .prepare)
      (prepared : session.board.prepareAppId = some flight.appId)
      (phase : session.state.epoch = flight.epoch → session.state.phase = .preLoad)
  | action {action : Action} (errand : flight.errand = .action action)
      (found : session.board.action? action.id = some action)
      (phase : session.state.epoch = flight.epoch → session.state.phase = .postLoad)

theorem coherent_fresh {session : Session} {lifetime : Int} {epoch : Nat}
    (h : session.state = .fresh session.board lifetime epoch) : Coherent session where
  loadKeys := by rw [h]; exact keyed_defaults _
  actionKeys := by rw [h]; exact keyed_defaults _
  bare _ := by rw [h]; exact ⟨rfl, rfl, rfl, rfl⟩
  pending confirmation pending := by
    rw [h] at pending
    cases pending
  results id hid := by
    rw [h] at hid
    exact absurd hid Std.ExtTreeMap.not_mem_empty
  output hasOutput := by
    rw [h] at hasOutput
    cases hasOutput

variable {session : Session}

theorem Coherent.withGate {gate : Gate} (h : Coherent session)
    (pending : ∀ confirmation, gate.pending = some confirmation →
      session.state.phase = .postLoad ∧ ∃ action,
        session.board.action? confirmation.actionId = some action ∧ action.confirms = true) :
    Coherent (session.withGate gate) :=
  { h with
    bare := fun phase => by
      obtain ⟨results, output, _, values⟩ := h.bare phase
      refine ⟨results, output, ?_, values⟩
      cases waiting : gate.pending with
      | none => exact waiting
      | some confirmation =>
        have loaded := (pending confirmation waiting).1
        rw [show session.state.phase = .preLoad from phase] at loaded
        cases loaded
    pending := fun confirmation waiting => (pending confirmation waiting).2 }

theorem Coherent.cleared (h : Coherent session) :
    Coherent (session.withGate session.state.gate.clear) :=
  h.withGate fun confirmation pending => by cases pending

theorem Performed.coherent {request : Request} {moment : Moment} {step : Step}
    (h : Performed session moment request step) (hc : Coherent session) :
    Coherent step.session := by
  cases h with
  | refused => exact hc
  | expired => exact hc.cleared
  | loadValueSet _ field => exact { hc with loadKeys := hc.loadKeys.insert field }
  | actionValueSet phase field =>
    refine { hc with actionKeys := hc.actionKeys.insert field, bare := fun fresh => ?_ }
    rw [show session.state.phase = .preLoad from fresh] at phase
    cases phase
  | loaded => exact { hc with bare := fun fresh => by cases fresh }
  | preparing => exact { hc with }
  | @opened action confirmation phase found confirms opens =>
    refine hc.withGate fun other pending => ⟨phase, action, ?_, confirms⟩
    cases pending
    obtain ⟨expires, _, rfl⟩ := Option.map_eq_some_iff.mp opens
    exact found
  | started => exact { hc with }
  | confirmed => exact { hc.cleared with }
  | cancelled => exact hc.cleared
  | reset => exact coherent_fresh rfl

theorem Arrived.coherent {flight : Flight} {result : Except RunError Execution} {step : Step}
    (h : Arrived session flight result step) (hc : Coherent session) (hf : Fits session flight) :
    Coherent step.session := by
  cases h with
  | failed => exact { hc with }
  | late => exact { hc with }
  | kept execution epoch =>
    cases hf with
    | prepare errand prepared =>
      simp only [keep, errand]
      split
      next =>
        exact { hc with
          bare := fun fresh => by cases fresh
          output := fun _ => by rw [prepared]; rfl }
      next => exact { hc with }
    | @action action errand found phase =>
      simp only [keep, errand]
      refine { hc with bare := fun fresh => ?bare, results := fun id hid => ?results }
      case bare =>
        -- A result is kept in the epoch of its run only, and in that the session is loaded.
        rw [show session.state.phase = .preLoad from fresh] at phase
        cases phase epoch
      case results =>
        rcases Std.ExtTreeMap.mem_insert.mp hid with same | old
        · rw [Std.compare_eq_iff_eq.mp same] at found
          exact ⟨action, found⟩
        · exact hc.results id old

theorem Fits.mono {next : Session} {flight : Flight} (hf : Fits session flight)
    (board : next.board = session.board)
    (h : next.state.epoch = flight.epoch →
      session.state.epoch = flight.epoch ∧ next.state.phase = session.state.phase) :
    Fits next flight := by
  cases hf with
  | prepare errand prepared phase =>
    refine .prepare errand (board ▸ prepared) fun same => ?_
    obtain ⟨epoch, kept⟩ := h same
    rw [kept, phase epoch]
  | action errand found phase =>
    refine .action errand (board ▸ found) fun same => ?_
    obtain ⟨epoch, kept⟩ := h same
    rw [kept, phase epoch]

theorem Performed.fits {request : Request} {moment : Moment} {step : Step} {flight : Flight}
    (h : Performed session moment request step) (hf : Fits session flight)
    (busy : session.running = true) (low : flight.epoch ≤ session.state.epoch) :
    Fits step.session flight := by
  cases h with
  | loaded idle =>
    rw [busy] at idle
    cases idle
  | reset =>
    -- The epoch of the run is over, so nothing is said about the phase.
    refine hf.mono rfl fun same => ?_
    have : session.state.epoch + 1 = flight.epoch := same
    omega
  | _ => exact hf.mono rfl fun same => ⟨same, rfl⟩

theorem Performed.fits_of_launched {request : Request} {moment : Moment} {step : Step}
    {flight : Flight} (h : Performed session moment request step)
    (launched : step.flight? = some flight) : Fits step.session flight := by
  cases h with
  | preparing _ phase _ prepared =>
    cases launched
    exact .prepare rfl prepared fun _ => phase
  | started _ phase found =>
    cases launched
    exact .action rfl found fun _ => phase
  | confirmed _ phase _ _ _ found =>
    cases launched
    have same := Board.action?_id found
    exact .action rfl (same ▸ found) fun _ => phase
  | _ => cases launched

theorem Performed.fixed {request : Request} {moment : Moment} {step : Step}
    (h : Performed session moment request step) (post : session.state.phase = .postLoad)
    (lasting : request ≠ .reset) :
    step.session.state.phase = .postLoad ∧
      step.session.state.loadValues = session.state.loadValues ∧
      step.session.state.output = session.state.output := by
  cases h with
  | loadValueSet phase | loaded _ phase =>
    rw [post] at phase
    cases phase
  | reset => exact absurd rfl lasting
  | _ => exact ⟨post, rfl, rfl⟩

theorem Arrived.fixed {flight : Flight} {result : Except RunError Execution} {step : Step}
    (h : Arrived session flight result step) (post : session.state.phase = .postLoad)
    (hf : Fits session flight) :
    step.session.state.phase = .postLoad ∧
      step.session.state.loadValues = session.state.loadValues ∧
      step.session.state.output = session.state.output := by
  cases h with
  | failed => exact ⟨post, rfl, rfl⟩
  | late => exact ⟨post, rfl, rfl⟩
  | kept execution epoch =>
    cases hf with
    | prepare _ _ phase =>
      rw [phase epoch] at post
      cases post
    | action errand =>
      simp only [keep, errand]
      exact ⟨post, trivial, trivial⟩

variable {first : Session} {turns : List Turn} {air : List Flight}

/-- Coherence depends on the runs in the air, and they on it. -/
theorem Course.coherent (course : Course first turns session air) (idle : first.running = false)
    (hc : Coherent first) : Coherent session ∧ ∀ flight ∈ air, Fits session flight := by
  induction course with
  | start => exact ⟨hc, by simp⟩
  | @asked turns session air request moment course ih =>
    have performed := session.performed request moment
    refine ⟨performed.coherent ih.1, fun flight hf => ?_⟩
    rcases List.mem_append.mp hf with hf | hf
    · cases course.airborne idle with
      | grounded => cases hf
      | one busy low =>
        cases List.mem_singleton.mp hf
        exact performed.fits (ih.2 _ hf) busy low
    · exact performed.fits_of_launched (Option.mem_toList.mp hf)
  | @arrived turns session before after flight result course ih =>
    obtain ⟨rfl, rfl⟩ := (course.airborne idle).eq_one
    exact ⟨(session.arrived flight result).coherent ih.1 (ih.2 flight (by simp)), by simp⟩

theorem Coherent.confirm_ne_unknownAction (hc : Coherent session) {id : String} {moment : Moment}
    {e : RunError} (h : (session.perform (.confirm id) moment).answer = .refusal e)
    (actionId : String) : e ≠ .unknownAction actionId := by
  have refused := session.refused (.confirm id) moment h
  generalize session.perform (.confirm id) moment = step at refused h
  cases refused with
  | withdrawn pending unknown =>
    obtain ⟨action, found, _⟩ := hc.pending _ pending
    rw [unknown] at found
    cases found
  | unready unbound =>
    cases h
    cases unbound <;> simp
  | _ =>
    cases h
    simp

/-- Sessions are coherent at all times, a confirmation is never refused for its action, and between
loading and a reset the load values and what was prepared stay as they are. -/
theorem session_coherent {id : String} {dashboard : Dashboard} {user : User} {limits : Limits}
    (course : Course (.start id dashboard user limits) turns session air) :
    session.board = dashboard.board.normalize ∧ Coherent session ∧
    (∀ id moment e, (session.perform (.confirm id) moment).answer = .refusal e →
      ∀ actionId, e ≠ .unknownAction actionId) ∧
    (∀ flight, Flight.EndsIn flight session.user fun result =>
      ∀ e, (session.arrive flight result).answer = .refusal e →
        ∀ actionId, e ≠ .unknownAction actionId) ∧
    ∀ earlier turn later, turns = earlier ++ turn :: later →
      turn.before.state.phase = .postLoad → ¬ turn.Resets →
        turn.after.state.phase = .postLoad ∧
        turn.after.state.loadValues = turn.before.state.loadValues ∧
        turn.after.state.output = turn.before.state.output := by
  have fresh : Coherent (.start id dashboard user limits) := coherent_fresh rfl
  have coherent := (course.coherent rfl fresh).1
  refine ⟨course.board, coherent, fun id moment e => coherent.confirm_ne_unknownAction, ?told,
    ?fixed⟩
  case told =>
    intro flight
    refine (session.hindrance_of_arrive flight session.user).imp
      fun result told e answer actionId same => ?_
    rcases told e answer with hindered | reset
    · rw [same] at hindered
      cases hindered
    · rw [same] at reset
      cases reset
  case fixed =>
    intro earlier turn later eq post lasting
    subst eq
    obtain ⟨air, course, arrives⟩ := course.before
    obtain ⟨before, happening⟩ := turn
    cases happening with
    | asked request moment =>
      refine (before.performed request moment).fixed post fun reset => lasting ⟨moment, ?_⟩
      rw [reset]
    | arrived flight result =>
      have fits := (course.coherent rfl fresh).2 flight (arrives flight result rfl)
      exact (before.arrived flight result).fixed post fits

/-- While a confirmation waits, the session stays loaded as it is, and can ask for its action. -/
theorem session_coherent_newcomer :
    ∃ session earlier turn, Course newcomer (earlier ++ [turn]) session [] ∧
      turn.happening = .asked (.runAction "refund") ⟨1, 1, "b"⟩ ∧
      session.state.gate.pending.isSome = true ∧ Coherent session ∧
      turn.after.state.loadValues = turn.before.state.loadValues ∧
      ∀ moment actionId,
        (session.perform (.confirm "b") moment).answer ≠ .refusal (.unknownAction actionId) := by
  have course := Course.asked (.runAction "refund") ⟨1, 1, "b"⟩
    (.asked .load ⟨0, 0, "a"⟩ (.start : Course newcomer [] newcomer []))
  obtain ⟨_, coherent, known, _, fixed⟩ := session_coherent course
  obtain ⟨_, kept, _⟩ := fixed _ _ [] rfl rfl fun ⟨_, resets⟩ => by cases resets
  exact ⟨_, _, _, course, rfl, rfl, coherent, kept,
    fun moment actionId answer => known "b" moment _ answer actionId rfl⟩

end Session

end Runbook
