import Runbook.Proofs.Session.Course

namespace Runbook.Session

def Turn.edit? (turn : Turn) : Option (String × String) :=
  match turn.happening, turn.step.answer with
  | .asked (.setLoadValue fieldId value) _, .reply .done => some (fieldId, value)
  | _, _ => none

def edited (values : Dict String) (turns : List Turn) : Dict String :=
  (turns.filterMap Turn.edit?).foldl (fun values edit => values.insert edit.1 edit.2) values

/-- The turn hands over the run that loads the session, with the values of that time. -/
structure Turn.Departs (turn : Turn) (flight : Flight) (validated : List Validated) : Prop where
  asked : ∃ moment, turn.happening = .asked .load moment
  launched : turn.flight? = some flight
  prepare : turn.before.board.prepareAppId = some flight.appId
  valid : Field.validateById turn.before.board.loadInputs turn.before.state.loadValues =
    .ok validated
  inputs : flight.inputs = Validated.rendered validated

/-- The turn brings the result of a run with which the session is loaded. -/
structure Turn.Lands (turn : Turn) (flight : Flight) : Prop where
  arrived : ∃ execution, turn.happening = .arrived flight (.ok execution)
  before : turn.before.state.phase = .preLoad
  after : turn.after.state.phase = .postLoad

/-- A run that loads the session is in the air, and the values have been edited since. -/
structure Preparing (turns : List Turn) (session : Session) (flight : Flight) : Prop where
  phase : session.state.phase = .preLoad
  departed : ∃ earlier departure meanwhile validated,
    turns = earlier ++ departure :: meanwhile ∧ departure.Departs flight validated ∧
    departure.before.board = session.board ∧
    session.state.loadValues = edited departure.before.state.loadValues meanwhile

/-- How the session came to be loaded: with valid values and no run, or by a run. -/
inductive Loaded (turns : List Turn) (session : Session) : Prop where
  | unprepared {validated : List Validated} (unprepared : session.board.prepareAppId = none)
      (valid : Field.validateById session.board.loadInputs session.state.loadValues =
        .ok validated)
  | prepared {earlier meanwhile later : List Turn} {departure landing : Turn} {flight : Flight}
      {validated : List Validated}
      (eq : turns = earlier ++ departure :: (meanwhile ++ landing :: later))
      (departs : departure.Departs flight validated) (lands : landing.Lands flight)
      (stays : ∀ turn ∈ later, turn.before.state.phase = .postLoad)
      (board : departure.before.board = session.board)
      (values : session.state.loadValues = edited departure.before.state.loadValues meanwhile)

inductive Turn.Moves (turn : Turn) : Prop where
  | within (phase : turn.after.state.phase = turn.before.state.phase)
      (epoch : turn.after.state.epoch = turn.before.state.epoch)
      (values : turn.after.state.loadValues = edited turn.before.state.loadValues [turn])
      (fixed : turn.before.state.phase = .postLoad → turn.edit? = none)
  | loaded {validated : List Validated} (idle : turn.before.running = false)
      (unprepared : turn.before.board.prepareAppId = none)
      (valid : Field.validateById turn.before.board.loadInputs turn.before.state.loadValues =
        .ok validated)
      (values : turn.after.state.loadValues = turn.before.state.loadValues)
      (grounded : turn.flight? = none)
  | landed {flight : Flight} {execution : Execution}
      (arrived : turn.happening = .arrived flight (.ok execution))
      (errand : flight.errand = .prepare)
      (epoch : turn.before.state.epoch = flight.epoch)
      (phase : turn.after.state.phase = .postLoad)
      (values : turn.after.state.loadValues = turn.before.state.loadValues)
  | reset (phase : turn.after.state.phase = .preLoad)
      (epoch : turn.before.state.epoch < turn.after.state.epoch) (grounded : turn.flight? = none)

theorem edited_append (values : Dict String) (turns others : List Turn) :
    edited values (turns ++ others) = edited (edited values turns) others := by
  rw [edited, List.filterMap_append, List.foldl_append]
  rfl

theorem edited_of_none {values : Dict String} {turn : Turn} (h : turn.edit? = none) :
    edited values [turn] = values := by
  rw [edited, List.filterMap_cons_none h]
  rfl

theorem edited_of_some {values : Dict String} {turn : Turn} {fieldId value : String}
    (h : turn.edit? = some (fieldId, value)) :
    edited values [turn] = values.insert fieldId value := by
  rw [edited, List.filterMap_cons_some h]
  rfl

theorem edit?_of_answer {session : Session} {request : Request} {moment : Moment} {step : Step}
    (eq : session.perform request moment = step) (other : step.answer ≠ .reply .done) :
    Turn.edit? ⟨session, .asked request moment⟩ = none := by
  unfold Turn.edit?
  split
  next done =>
    rw [← eq] at other
    exact absurd done other
  next => rfl

theorem moves_asked (session : Session) (request : Request) (moment : Moment) :
    Turn.Moves ⟨session, .asked request moment⟩ := by
  have h := session.performed request moment
  generalize eq : session.perform request moment = step at h
  have after : Turn.after ⟨session, .asked request moment⟩ = step.session := congrArg _ eq
  have flight : Turn.flight? ⟨session, .asked request moment⟩ = step.flight? := congrArg _ eq
  have answer : (Turn.step ⟨session, .asked request moment⟩).answer = step.answer := congrArg _ eq
  have still (unedited : Turn.edit? ⟨session, .asked request moment⟩ = none)
      (phase : step.session.state.phase = session.state.phase)
      (epoch : step.session.state.epoch = session.state.epoch)
      (values : step.session.state.loadValues = session.state.loadValues) :
      Turn.Moves ⟨session, .asked request moment⟩ :=
    .within (by rw [after, phase]) (by rw [after, epoch])
      (by rw [edited_of_none unedited, after, values]) fun _ => unedited
  cases h with
  | refused => exact still (edit?_of_answer eq (by simp [refuse])) rfl rfl rfl
  | expired => exact still rfl rfl rfl rfl
  | @loadValueSet fieldId value phase =>
    have edit : Turn.edit? ⟨session, .asked (.setLoadValue fieldId value) moment⟩ =
        some (fieldId, value) := by
      rw [Turn.edit?, answer]
    refine .within (by rw [after]) (by rw [after]) (by rw [edited_of_some edit, after]) ?_
    intro post
    rw [phase] at post
    cases post
  | actionValueSet => exact still rfl rfl rfl rfl
  | loaded idle phase valid unprepared =>
    exact .loaded idle unprepared valid (by rw [after]) flight
  | preparing => exact still rfl rfl rfl rfl
  | opened => exact still rfl rfl rfl rfl
  | started => exact still rfl rfl rfl rfl
  | confirmed => exact still rfl rfl rfl rfl
  | cancelled => exact still rfl rfl rfl rfl
  | reset => exact .reset (by rw [after]; rfl) (by rw [after]; exact Nat.lt_succ_self _) flight

theorem moves_arrived (session : Session) (flight : Flight) (result : Except RunError Execution) :
    Turn.Moves ⟨session, .arrived flight result⟩ := by
  have h := session.arrived flight result
  generalize eq : session.arrive flight result = step at h
  have after : Turn.after ⟨session, .arrived flight result⟩ = step.session := congrArg _ eq
  have still (phase : step.session.state.phase = session.state.phase)
      (epoch : step.session.state.epoch = session.state.epoch)
      (values : step.session.state.loadValues = session.state.loadValues) :
      Turn.Moves ⟨session, .arrived flight result⟩ :=
    .within (by rw [after, phase]) (by rw [after, epoch]) (by rw [after, values]; rfl) fun _ => rfl
  cases h with
  | failed => exact still rfl rfl rfl
  | late => exact still rfl rfl rfl
  | kept execution epoch =>
    obtain ⟨_, sameEpoch, sameValues, _⟩ := keep_frame session.state flight.errand execution
    cases errand : flight.errand with
    | action action =>
      rw [errand] at after sameEpoch sameValues
      exact still (by rw [errand]; rfl) (by rw [errand]; rfl) (by rw [errand]; rfl)
    | prepare =>
      cases success : execution.outcome.isSuccess with
      | true =>
        refine .landed rfl errand epoch ?_ (by rw [after]; exact sameValues)
        rw [after, errand]
        simp [keep, success]
      | false =>
        have kept : keep session.state flight.errand execution = session.state := by
          rw [errand]
          simp [keep, success]
        exact still (by simp [kept]) (by simp [kept]) (by simp [kept])

theorem Turn.moves (turn : Turn) : turn.Moves := by
  obtain ⟨before, happening⟩ := turn
  cases happening with
  | asked request moment => exact moves_asked before request moment
  | arrived flight result => exact moves_arrived before flight result

theorem departs_of_flight {turn : Turn} {flight : Flight} (h : turn.flight? = some flight)
    (errand : flight.errand = .prepare) :
    (∃ validated, turn.Departs flight validated) ∧ turn.before.state.phase = .preLoad ∧
      turn.after.state = turn.before.state := by
  cases turn.launches h with
  | load asked phase valid prepared state =>
    exact ⟨⟨_, ⟨_, asked⟩, h, prepared, valid, rfl⟩, phase, state⟩
  | direct => cases errand
  | confirmed => cases errand

theorem preparing_of_flight (turns : List Turn) (turn : Turn) {flight : Flight}
    (h : turn.flight? = some flight) (errand : flight.errand = .prepare) :
    Preparing (turns ++ [turn]) turn.after flight := by
  obtain ⟨⟨validated, departs⟩, phase, state⟩ := departs_of_flight h errand
  exact ⟨by rw [state, phase], turns, turn, [], validated, rfl, departs, turn.after_board.symm,
    by rw [state]; rfl⟩

/-- While a run to load the session is in the air, values may be edited, and no more. -/
theorem preparing_after {turns : List Turn} (turn : Turn) {flight : Flight}
    (h : Preparing turns turn.before flight) (busy : turn.before.running = true)
    (low : flight.epoch ≤ turn.before.state.epoch) (same : flight.epoch = turn.after.state.epoch)
    (asked : ∃ request moment, turn.happening = .asked request moment) :
    Preparing (turns ++ [turn]) turn.after flight := by
  obtain ⟨request, moment, asked⟩ := asked
  cases turn.moves with
  | within phase _ values =>
    obtain ⟨earlier, departure, meanwhile, validated, rfl, departs, board, edits⟩ := h.departed
    refine ⟨phase.trans h.phase, earlier, departure, meanwhile ++ [turn], validated, by simp,
      departs, board.trans turn.after_board.symm, ?_⟩
    rw [values, edits, edited_append]
  | loaded idle =>
    rw [busy] at idle
    cases idle
  | landed arrived =>
    rw [asked] at arrived
    cases arrived
  | reset _ epoch => omega

/-- A loaded session stays as it is, and becomes so by validation alone or by a run that lands. -/
theorem loaded_after {turns : List Turn} (turn : Turn)
    (h : turn.before.state.phase = .postLoad → Loaded turns turn.before)
    (landing : ∀ flight execution, turn.happening = .arrived flight (.ok execution) →
      flight.errand = .prepare → turn.before.state.epoch = flight.epoch →
        Preparing turns turn.before flight)
    (post : turn.after.state.phase = .postLoad) : Loaded (turns ++ [turn]) turn.after := by
  cases turn.moves with
  | within phase _ values fixed =>
    rw [phase] at post
    rw [edited_of_none (fixed post)] at values
    cases h post with
    | unprepared unprepared valid =>
      exact .unprepared (turn.after_board ▸ unprepared) (by rw [turn.after_board, values, valid])
    | @prepared earlier meanwhile later departure landing flight validated eq departs lands stays
        board edits =>
      have longer : turns ++ [turn] =
          earlier ++ departure :: (meanwhile ++ landing :: (later ++ [turn])) := by simp [eq]
      refine .prepared longer departs lands ?_ (board.trans turn.after_board.symm)
        (values.trans edits)
      intro other ho
      rcases List.mem_append.mp ho with ho | ho
      · exact stays other ho
      · rw [List.mem_singleton.mp ho, post]
  | loaded _ unprepared valid values =>
    exact .unprepared (turn.after_board ▸ unprepared) (by rw [turn.after_board, values, valid])
  | landed arrived errand epoch _ values =>
    have preparing := landing _ _ arrived errand epoch
    obtain ⟨earlier, departure, meanwhile, validated, eq, departs, board, edits⟩ :=
      preparing.departed
    have longer : turns ++ [turn] = earlier ++ departure :: (meanwhile ++ turn :: []) := by
      simp [eq]
    exact .prepared longer departs ⟨⟨_, arrived⟩, preparing.phase, post⟩ (by simp)
      (board.trans turn.after_board.symm) (values.trans edits)
  | reset phase =>
    rw [phase] at post
    cases post

structure Sound (turns : List Turn) (session : Session) (air : List Flight) : Prop where
  preparing : ∀ flight ∈ air, flight.errand = .prepare → session.state.epoch = flight.epoch →
    Preparing turns session flight
  loaded : session.state.phase = .postLoad → Loaded turns session

variable {first session : Session} {turns : List Turn} {air : List Flight}

theorem Course.sound (course : Course first turns session air) (idle : first.running = false)
    (fresh : first.state.phase = .preLoad) : Sound turns session air := by
  induction course with
  | start =>
    refine ⟨by simp, fun post => ?_⟩
    rw [fresh] at post
    cases post
  | @asked turns session air request moment course ih =>
    have airborne := course.airborne idle
    refine ⟨fun flight hf errand epoch => ?_, fun post => ?_⟩
    · rcases List.mem_append.mp hf with hf | hf
      · cases airborne with
        | grounded => cases hf
        | one busy low =>
          cases List.mem_singleton.mp hf
          have forward := (session.performed request moment).epoch_le
          have sameEpoch : session.state.epoch = flight.epoch := by omega
          exact preparing_after ⟨session, .asked request moment⟩
            (ih.preparing _ hf errand sameEpoch) busy low epoch.symm ⟨request, moment, rfl⟩
      · exact preparing_of_flight turns ⟨session, .asked request moment⟩
          (Option.mem_toList.mp hf) errand
    · exact loaded_after ⟨session, .asked request moment⟩ ih.loaded
        (fun flight execution arrived => by cases arrived) post
  | @arrived turns session before after flight result course ih =>
    obtain ⟨rfl, rfl⟩ := (course.airborne idle).eq_one
    refine ⟨by simp, fun post => ?_⟩
    refine loaded_after ⟨session, .arrived flight result⟩ ih.loaded ?_ post
    intro landed execution arrived errand epoch
    cases arrived
    exact ih.preparing _ (by simp) errand epoch

/-- The load values are valid, and the run was handed over with their texts. -/
def HoldsInputsOf (session : Session) (flight : Flight) : Prop :=
  ∃ validated, Field.validateById session.board.loadInputs session.state.loadValues =
    .ok validated ∧ flight.inputs = Validated.rendered validated

/-- A loaded session has valid load values if no app prepares it. If one does, it has those that the
run was handed over with exactly when the edits made in the air leave them valid and with the same
texts. -/
theorem loaded_values {id : String} {dashboard : Dashboard} {user : User} {limits : Limits}
    (course : Course (.start id dashboard user limits) turns session air)
    (post : session.state.phase = .postLoad) :
    (session.board.prepareAppId = none → ∃ validated,
      Field.validateById session.board.loadInputs session.state.loadValues = .ok validated) ∧
    ∀ appId, session.board.prepareAppId = some appId →
      ∃ earlier departure meanwhile landing later flight validated,
        turns = earlier ++ departure :: (meanwhile ++ landing :: later) ∧ flight.appId = appId ∧
        departure.Departs flight validated ∧ landing.Lands flight ∧
        (∀ turn ∈ later, turn.before.state.phase = .postLoad) ∧
        (session.HoldsInputsOf flight ↔ ∃ again, Field.validateById session.board.loadInputs
            (edited departure.before.state.loadValues meanwhile) = .ok again ∧
          Validated.rendered again = Validated.rendered validated) ∧
        ((∀ turn ∈ meanwhile, turn.edit? = none) → session.HoldsInputsOf flight) := by
  cases (course.sound rfl rfl).loaded post with
  | unprepared unprepared valid =>
    refine ⟨fun _ => ⟨_, valid⟩, fun appId prepared => ?_⟩
    rw [unprepared] at prepared
    cases prepared
  | @prepared earlier meanwhile later departure landing flight validated eq departs lands stays
      board values =>
    have prepared : session.board.prepareAppId = some flight.appId := board ▸ departs.prepare
    refine ⟨fun unprepared => ?_, fun appId same => ?_⟩
    · rw [unprepared] at prepared
      cases prepared
    · have held : session.HoldsInputsOf flight ↔ ∃ again,
          Field.validateById session.board.loadInputs
            (edited departure.before.state.loadValues meanwhile) = .ok again ∧
          Validated.rendered again = Validated.rendered validated := by
        rw [HoldsInputsOf, values, departs.inputs]
        exact exists_congr fun again => and_congr_right fun _ => eq_comm
      refine ⟨earlier, departure, meanwhile, landing, later, flight, validated, eq,
        Option.some.inj (prepared.symm.trans same), departs, lands, stays, held, fun quiet => ?_⟩
      have unedited : edited departure.before.state.loadValues meanwhile =
          departure.before.state.loadValues := by
        rw [edited, List.filterMap_eq_nil_iff.mpr quiet]
        rfl
      exact held.mpr ⟨validated, by rw [unedited, ← board, departs.valid], rfl⟩

def emailField : Field := ⟨"l-email", "email", .email, true, none⟩

def caller : Session :=
  .start "s" ⟨"support", "", ⟨some "lookup", [emailField], [], [], [], ⟨[]⟩⟩⟩ .anonymous .standard

def callerTyped : Session :=
  (caller.perform (.setLoadValue "l-email" "a@b.com") ⟨0, 0, "a"⟩).session

def callerLooking : Session := (callerTyped.perform .load ⟨1, 1, "b"⟩).session

def callerMistyped : Session :=
  (callerLooking.perform (.setLoadValue "l-email" "nobody") ⟨2, 2, "c"⟩).session

def lookupFlight : Flight :=
  ⟨"lookup", Validated.rendered [⟨"l-email", "email", .email "a@b.com"⟩], 0, .prepare⟩

def lookupResult : Except RunError Execution := .ok ⟨"run-1", "lookup", .success "99"⟩

def callerLoaded : Session := (callerMistyped.arrive lookupFlight lookupResult).session

def callerTurns : List Turn :=
  [⟨caller, .asked (.setLoadValue "l-email" "a@b.com") ⟨0, 0, "a"⟩⟩,
   ⟨callerTyped, .asked .load ⟨1, 1, "b"⟩⟩,
   ⟨callerLooking, .asked (.setLoadValue "l-email" "nobody") ⟨2, 2, "c"⟩⟩,
   ⟨callerMistyped, .arrived lookupFlight lookupResult⟩]

theorem course_callerLoaded : Course caller callerTurns callerLoaded [] := by
  have course : Course caller (callerTurns.take 3) callerMistyped ([] ++ lookupFlight :: []) :=
    .asked (.setLoadValue "l-email" "nobody") ⟨2, 2, "c"⟩ (.asked .load ⟨1, 1, "b"⟩
      (.asked (.setLoadValue "l-email" "a@b.com") ⟨0, 0, "a"⟩ .start))
  exact .arrived lookupResult course

/-- What is mistyped while the run is in the air stays in the loaded session. -/
theorem loaded_values_callerLoaded :
    Course caller callerTurns callerLoaded [] ∧ callerLoaded.state.phase = .postLoad ∧
      ∃ earlier departure meanwhile landing later flight validated,
        callerTurns = earlier ++ departure :: (meanwhile ++ landing :: later) ∧
        flight.appId = "lookup" ∧ departure.Departs flight validated ∧ landing.Lands flight ∧
        (callerLoaded.HoldsInputsOf flight ↔ ∃ again,
          Field.validateById callerLoaded.board.loadInputs
            (edited departure.before.state.loadValues meanwhile) = .ok again ∧
          Validated.rendered again = Validated.rendered validated) := by
  have post : callerLoaded.state.phase = .postLoad := rfl
  obtain ⟨earlier, departure, meanwhile, landing, later, flight, validated, eq, app, departs, lands,
    _, held, _⟩ := (loaded_values course_callerLoaded post).2 "lookup" rfl
  exact ⟨course_callerLoaded, post, earlier, departure, meanwhile, landing, later, flight,
    validated, eq, app, departs, lands, held⟩

/-- Loaded sessions do not always have valid load values. -/
theorem callerLoaded_invalid :
    Course caller callerTurns callerLoaded [] ∧ callerLoaded.state.phase = .postLoad ∧
      ¬ ∃ validated, Field.validateById callerLoaded.board.loadInputs
        callerLoaded.state.loadValues = .ok validated := by
  refine ⟨course_callerLoaded, rfl, fun ⟨validated, valid⟩ => ?_⟩
  have invalid : Field.validateById callerLoaded.board.loadInputs callerLoaded.state.loadValues =
      .error (Dict.ofPairs [("l-email", .invalidEmail)]) := rfl
  rw [invalid] at valid
  cases valid

end Runbook.Session
