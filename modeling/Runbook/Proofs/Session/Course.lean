import Mathlib.Data.List.Basic
import Runbook.Proofs.Session.Steps

namespace Runbook.Session

inductive Happening where
  | asked (request : Request) (moment : Moment)
  | arrived (flight : Flight) (result : Except RunError Execution)

def Step.flight? (step : Step) : Option Flight :=
  match step.answer with
  | .flight flight => some flight
  | _ => none

/-- What happens to a session, with the session as it was before. -/
structure Turn where
  before : Session
  happening : Happening

namespace Turn

def step (turn : Turn) : Step :=
  match turn.happening with
  | .asked request moment => turn.before.perform request moment
  | .arrived flight result => turn.before.arrive flight result

def after (turn : Turn) : Session := turn.step.session

def flight? (turn : Turn) : Option Flight := turn.step.flight?

end Turn

/-- How a turn hands a run over: to load the session, or for an action that asks for no confirmation
or has just been confirmed. -/
inductive Turn.Launches (turn : Turn) : Flight → Prop where
  | load {moment : Moment} {validated : List Validated} {appId : String}
      (asked : turn.happening = .asked .load moment)
      (phase : turn.before.state.phase = .preLoad)
      (valid : Field.validateById turn.before.board.loadInputs turn.before.state.loadValues =
        .ok validated)
      (prepared : turn.before.board.prepareAppId = some appId)
      (state : turn.after.state = turn.before.state) :
    Launches turn ⟨appId, Validated.rendered validated, turn.before.state.epoch, .prepare⟩
  | direct {moment : Moment} {action : Action} {inputs : Dict String}
      (asked : turn.happening = .asked (.runAction action.id) moment)
      (phase : turn.before.state.phase = .postLoad)
      (found : turn.before.board.action? action.id = some action)
      (direct : action.confirms = false)
      (bound : turn.before.boundInputs action.id = .ok inputs) :
    Launches turn ⟨action.appId, inputs, turn.before.state.epoch, .action action⟩
  | confirmed {moment : Moment} {confirmation : Confirmation} {action : Action}
      {inputs : Dict String} (asked : turn.happening = .asked (.confirm confirmation.id) moment)
      (phase : turn.before.state.phase = .postLoad)
      (pending : turn.before.state.gate.pending = some confirmation)
      (fresh : confirmation.isExpired moment.now = false)
      (found : turn.before.board.action? confirmation.actionId = some action)
      (bound : turn.before.boundInputs action.id = .ok inputs) :
    Launches turn ⟨action.appId, inputs, turn.before.state.epoch, .action action⟩

theorem Turn.launches {turn : Turn} {flight : Flight} (h : turn.flight? = some flight) :
    turn.Launches flight := by
  obtain ⟨before, happening⟩ := turn
  cases happening with
  | arrived landed result =>
    have arrived := before.arrived landed result
    generalize eq : before.arrive landed result = step at arrived
    have nothing : step.flight? = some flight := (congrArg Step.flight? eq).symm.trans h
    cases arrived <;> cases nothing
  | asked request moment =>
    have performed := before.performed request moment
    generalize eq : before.perform request moment = step at performed
    have launched : step.flight? = some flight := (congrArg Step.flight? eq).symm.trans h
    cases performed with
    | preparing idle phase valid prepared =>
      cases launched
      exact .load rfl phase valid prepared (congrArg (fun step => step.session.state) eq)
    | started idle phase found direct bound =>
      cases launched
      exact .direct rfl phase found direct bound
    | confirmed idle phase pending now later found bound =>
      cases launched
      exact .confirmed rfl phase pending now found bound
    | _ => cases launched

theorem Performed.board {session : Session} {request : Request} {moment : Moment} {step : Step}
    (h : Performed session moment request step) : step.session.board = session.board := by
  cases h <;> rfl

theorem Arrived.board {session : Session} {flight : Flight} {result : Except RunError Execution}
    {step : Step} (h : Arrived session flight result step) :
    step.session.board = session.board := by
  cases h <;> rfl

theorem Performed.epoch_le {session : Session} {request : Request} {moment : Moment} {step : Step}
    (h : Performed session moment request step) :
    session.state.epoch ≤ step.session.state.epoch := by
  cases h with
  | reset => exact Nat.le_succ _
  | _ => exact Nat.le_refl _

theorem Arrived.epoch {session : Session} {flight : Flight} {result : Except RunError Execution}
    {step : Step} (h : Arrived session flight result step) :
    step.session.state.epoch = session.state.epoch := by
  cases h with
  | kept execution => exact (keep_frame _ _ _).2.1
  | _ => rfl

theorem Turn.after_board (turn : Turn) : turn.after.board = turn.before.board := by
  obtain ⟨before, happening⟩ := turn
  cases happening with
  | asked request moment => exact (performed before request moment).board
  | arrived flight result => exact (Session.arrived before flight result).board

/-- The turns of a session from the first state on, with the state they lead to and the runs that
are then in the air. -/
inductive Course (first : Session) : List Turn → Session → List Flight → Prop where
  | start : Course first [] first []
  | asked {turns : List Turn} {session : Session} {air : List Flight} (request : Request)
      (moment : Moment) (course : Course first turns session air) :
    Course first (turns ++ [⟨session, .asked request moment⟩])
      (session.perform request moment).session
      (air ++ (session.perform request moment).flight?.toList)
  | arrived {turns : List Turn} {session : Session} {before after : List Flight} {flight : Flight}
      (result : Except RunError Execution)
      (course : Course first turns session (before ++ flight :: after)) :
    Course first (turns ++ [⟨session, .arrived flight result⟩])
      (session.arrive flight result).session (before ++ after)

/-- Nothing is in the air, or one run is, which was handed over in this epoch or an earlier one. -/
inductive Airborne (session : Session) : List Flight → Prop where
  | grounded (idle : session.running = false) : Airborne session []
  | one {flight : Flight} (busy : session.running = true)
      (epoch : flight.epoch ≤ session.state.epoch) : Airborne session [flight]

variable {first session : Session} {turns : List Turn} {air : List Flight}

theorem Course.board (course : Course first turns session air) : session.board = first.board := by
  induction course with
  | start => rfl
  | asked request moment _ ih => rw [(performed _ _ _).board, ih]
  | arrived result _ ih => rw [(Session.arrived _ _ _).board, ih]

theorem Airborne.of_same {next : Session} (h : Airborne session air)
    (epoch : session.state.epoch ≤ next.state.epoch) (running : next.running = session.running) :
    Airborne next (air ++ []) := by
  rw [List.append_nil]
  cases h with
  | grounded idle => exact .grounded (running.trans idle)
  | one busy low => exact .one (running.trans busy) (Nat.le_trans low epoch)

theorem Airborne.of_launched {next : Session} {flight : Flight} (h : Airborne session air)
    (idle : session.running = false) (running : next.running = true)
    (epoch : flight.epoch = next.state.epoch) : Airborne next (air ++ [flight]) := by
  cases h with
  | grounded => exact .one running (Nat.le_of_eq epoch)
  | one busy =>
    rw [idle] at busy
    cases busy

theorem Performed.airborne {request : Request} {moment : Moment} {step : Step}
    (h : Performed session moment request step) (ha : Airborne session air) :
    Airborne step.session (air ++ step.flight?.toList) := by
  have same := ha.of_same h.epoch_le
  cases h with
  | preparing idle => exact ha.of_launched idle rfl rfl
  | started idle => exact ha.of_launched idle rfl rfl
  | confirmed idle => exact ha.of_launched idle rfl rfl
  | _ => exact same rfl

theorem Airborne.eq_one {before after : List Flight} {flight : Flight}
    (h : Airborne session (before ++ flight :: after)) : before = [] ∧ after = [] := by
  generalize eq : before ++ flight :: after = air at h
  cases h with
  | grounded => simp at eq
  | one =>
    rcases List.append_eq_singleton_iff.mp eq with ⟨rfl, eq⟩ | ⟨_, eq⟩
    · exact ⟨rfl, (List.cons.inj eq).2⟩
    · cases eq

theorem Arrived.running {flight : Flight} {result : Except RunError Execution} {step : Step}
    (h : Arrived session flight result step) : step.session.running = false := by
  cases h <;> rfl

theorem Course.airborne (course : Course first turns session air) (idle : first.running = false) :
    Airborne session air := by
  induction course with
  | start => exact .grounded idle
  | asked request moment _ ih => exact (performed _ _ _).airborne ih
  | arrived result _ ih =>
    obtain ⟨rfl, rfl⟩ := ih.eq_one
    exact .grounded (Session.arrived _ _ _).running

theorem Course.upTo {earlier later : List Turn} (course : Course first turns session air)
    (eq : turns = earlier ++ later) : ∃ session air, Course first earlier session air := by
  induction course generalizing later with
  | start =>
    obtain ⟨rfl, _⟩ := List.append_eq_nil_iff.mp eq.symm
    exact ⟨_, _, .start⟩
  | asked request moment course ih =>
    rcases List.eq_nil_or_concat later with rfl | ⟨later, last, rfl⟩
    · rw [List.append_nil] at eq
      subst eq
      exact ⟨_, _, .asked request moment course⟩
    · rw [List.concat_eq_append, ← List.append_assoc] at eq
      exact ih (List.append_inj' eq rfl).1
  | arrived result course ih =>
    rcases List.eq_nil_or_concat later with rfl | ⟨later, last, rfl⟩
    · rw [List.append_nil] at eq
      subst eq
      exact ⟨_, _, .arrived result course⟩
    · rw [List.concat_eq_append, ← List.append_assoc] at eq
      exact ih (List.append_inj' eq rfl).1

theorem Course.last {earlier : List Turn} {turn : Turn}
    (course : Course first (earlier ++ [turn]) session air) :
    session = turn.after ∧ ∃ air, Course first earlier turn.before air ∧
      ∀ flight result, turn.happening = .arrived flight result → flight ∈ air := by
  generalize eq : earlier ++ [turn] = turns at course
  cases course with
  | start => simp at eq
  | asked request moment course =>
    obtain ⟨rfl, same⟩ := List.append_inj' eq rfl
    cases same
    exact ⟨rfl, _, course, fun flight result arrived => by cases arrived⟩
  | arrived result course =>
    obtain ⟨rfl, same⟩ := List.append_inj' eq rfl
    cases same
    refine ⟨rfl, _, course, fun flight result arrived => ?_⟩
    cases arrived
    exact List.mem_append_right _ (List.mem_cons_self ..)

theorem Course.before {earlier later : List Turn} {turn : Turn}
    (course : Course first (earlier ++ turn :: later) session air) :
    ∃ air, Course first earlier turn.before air ∧
      ∀ flight result, turn.happening = .arrived flight result → flight ∈ air := by
  obtain ⟨_, _, course⟩ := course.upTo (List.append_cons ..)
  exact course.last.2

theorem Course.until {earlier later : List Turn} {turn : Turn}
    (course : Course first turns session air) (eq : turns = earlier ++ turn :: later) :
    ∃ air, Course first earlier turn.before air := by
  subst eq
  obtain ⟨air, before, _⟩ := course.before
  exact ⟨air, before⟩

/-- What holds right after a turn, and goes on holding turn by turn, holds from that turn on. -/
theorem Course.since {P : List Turn → Session → List Flight → Prop} {earlier later : List Turn}
    {turn : Turn} (course : Course first (earlier ++ turn :: later) session air)
    (now : ∀ air, Course first (earlier ++ [turn]) turn.after air → P [] turn.after air)
    (asked : ∀ later session air request moment,
      Course first (earlier ++ turn :: later) session air → P later session air →
        P (later ++ [⟨session, .asked request moment⟩]) (session.perform request moment).session
          (air ++ (session.perform request moment).flight?.toList))
    (arrived : ∀ later session before after flight result,
      Course first (earlier ++ turn :: later) session (before ++ flight :: after) →
        P later session (before ++ flight :: after) →
          P (later ++ [⟨session, .arrived flight result⟩]) (session.arrive flight result).session
            (before ++ after)) :
    P later session air := by
  generalize eq : earlier ++ turn :: later = turns at course
  induction course generalizing later with
  | start => simp at eq
  | asked request moment course ih =>
    rcases List.eq_nil_or_concat later with rfl | ⟨later, last, rfl⟩
    · have course := eq ▸ Course.asked request moment course
      exact course.last.1 ▸ now _ (course.last.1 ▸ course)
    · rw [List.concat_eq_append, ← List.cons_append, ← List.append_assoc] at eq
      obtain ⟨rfl, same⟩ := List.append_inj' eq rfl
      cases same
      rw [List.concat_eq_append]
      exact asked _ _ _ _ _ course (ih rfl)
  | arrived result course ih =>
    rcases List.eq_nil_or_concat later with rfl | ⟨later, last, rfl⟩
    · have course := eq ▸ Course.arrived result course
      exact course.last.1 ▸ now _ (course.last.1 ▸ course)
    · rw [List.concat_eq_append, ← List.cons_append, ← List.append_assoc] at eq
      obtain ⟨rfl, same⟩ := List.append_inj' eq rfl
      cases same
      rw [List.concat_eq_append]
      exact arrived _ _ _ _ _ _ course (ih rfl)

end Runbook.Session
