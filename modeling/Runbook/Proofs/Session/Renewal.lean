import Runbook.Proofs.Session.Twin

namespace Runbook

namespace Session

def idle (session : Session) : Session := { session with running := false }

def Step.idle (step : Step) : Step := { step with session := step.session.idle }

/-- A run whose result will be dropped. -/
structure Drops (session : Session) (flight : Flight) : Prop where
  state : ∀ result, (session.arrive flight result).session.state = session.state
  failed : ∀ e, (session.arrive flight (.error e)).answer = .refusal e
  executed : ∀ execution, (session.arrive flight (.ok execution)).answer = .refusal .sessionReset

/-- What is settled when a session is started. -/
structure Akin (first session : Session) : Prop where
  dashboardId : session.dashboardId = first.dashboardId
  board : session.board = first.board
  user : session.user = first.user
  lifetime : session.state.gate.lifetime = first.state.gate.lifetime

variable {first session : Session} {turns : List Turn} {air : List Flight}

theorem Performed.akin {request : Request} {moment : Moment} {step : Step}
    (h : Performed session moment request step) : Akin session step.session := by
  cases h <;> exact ⟨rfl, rfl, rfl, rfl⟩

theorem Arrived.akin {flight : Flight} {result : Except RunError Execution} {step : Step}
    (h : Arrived session flight result step) : Akin session step.session := by
  cases h with
  | kept execution =>
    exact ⟨rfl, rfl, rfl, congrArg Gate.lifetime (keep_frame _ flight.errand execution).1⟩
  | _ => exact ⟨rfl, rfl, rfl, rfl⟩

theorem Akin.trans {next : Session} (h : Akin first session) (h' : Akin session next) :
    Akin first next :=
  ⟨h'.dashboardId.trans h.dashboardId, h'.board.trans h.board, h'.user.trans h.user,
    h'.lifetime.trans h.lifetime⟩

theorem Course.akin (course : Course first turns session air) : Akin first session := by
  induction course with
  | start => exact ⟨rfl, rfl, rfl, rfl⟩
  | asked request moment _ ih => exact ih.trans (performed _ _ _).akin
  | arrived result _ ih => exact ih.trans (Session.arrived _ _ _).akin

theorem Course.epoch_of_launched (course : Course first turns session air) :
    ∀ flight ∈ Session.launched turns, flight.epoch ≤ session.state.epoch := by
  induction course with
  | start => simp [Session.launched]
  | @asked turns session air request moment _ ih =>
    have performed := session.performed request moment
    intro flight hf
    rw [launched_concat] at hf
    rcases List.mem_append.mp hf with hf | hf
    · exact Nat.le_trans (ih flight hf) performed.epoch_le
    · have launched := Option.mem_toList.mp hf
      exact Nat.le_of_eq (performed.epoch_of_launched launched)
  | @arrived turns session before after landed result _ ih =>
    intro flight hf
    have grounded : Turn.flight? ⟨session, .arrived landed result⟩ = none :=
      (session.arrived landed result).flight?
    rw [launched_concat, grounded, Option.toList_none, List.append_nil] at hf
    rw [(session.arrived landed result).epoch]
    exact ih flight hf

theorem arrive_of_epoch_lt {flight : Flight} (late : flight.epoch < session.state.epoch)
    (result : Except RunError Execution) :
    (session.arrive flight result).session = session.idle := by
  have arrived := session.arrived flight result
  generalize session.arrive flight result = step at arrived
  cases arrived with
  | kept execution epoch => exact absurd epoch (Nat.ne_of_gt late)
  | _ => rfl

theorem drops_of_epoch_lt {flight : Flight} (late : flight.epoch < session.state.epoch) :
    Drops session flight where
  state result := by rw [arrive_of_epoch_lt late]; rfl
  failed e := rfl
  executed execution := congrArg Step.answer (if_neg (Nat.ne_of_gt late))

theorem step_of_runInFlight {request : Request} {moment : Moment}
    (h : (session.perform request moment).answer = .refusal .runInFlight) :
    session.perform request moment = session.refuse .runInFlight := by
  have performed := session.performed request moment
  generalize session.perform request moment = step at performed h
  cases performed <;> cases h
  rfl

theorem idle_bind {α : Type} {x : Except RunError α} {f g : α → Except RunError Step}
    (next : ∀ a, x = .ok a → f a = (g a).map Step.idle) :
    x.bind f = (x.bind g).map Step.idle := by
  cases x with
  | error e => rfl
  | ok a => exact next a rfl

theorem attempt_idle {step next : Except RunError Step} (h : next = step.map Step.idle) :
    session.idle.attempt next = (session.attempt step).idle := by
  subst h
  cases step <;> rfl

theorem edit_idle {phase : Phase} {fields : List Field} {fieldId : String} {state : State} :
    session.idle.edit phase fields fieldId state =
      (session.edit phase fields fieldId state).map Step.idle := by
  refine idle_bind (x := session.requirePhase phase) fun _ _ => ?_
  exact idle_bind fun _ _ => rfl

theorem runAction_idle (busy : session.running = true) {actionId : String} {moment : Moment}
    (h : session.runAction actionId moment ≠ .error .runInFlight) :
    session.idle.runAction actionId moment =
      (session.runAction actionId moment).map Step.idle := by
  refine idle_bind (x := session.requirePhase .postLoad) fun _ phase => ?_
  refine idle_bind (x := session.requireAction actionId) fun action found => ?_
  split
  next confirms => exact idle_bind fun _ _ => rfl
  next direct =>
    -- Only here is the flag looked at, and then the action is refused.
    refine absurd (Except.bind_eq_error_iff.mpr (.inr ⟨_, phase, ?_⟩)) h
    refine Except.bind_eq_error_iff.mpr (.inr ⟨action, found, ?_⟩)
    rw [if_neg direct]
    exact Except.bind_eq_error_iff.mpr (.inl (requireIdle_eq_error_iff.mpr ⟨busy, rfl⟩))

theorem perform_idle (busy : session.running = true) {request : Request} {moment : Moment}
    (h : (session.perform request moment).answer ≠ .refusal .runInFlight) :
    session.idle.perform request moment = (session.perform request moment).idle := by
  cases request with
  | setLoadValue fieldId value => exact attempt_idle edit_idle
  | setActionValue fieldId value => exact attempt_idle edit_idle
  | load => exact absurd (load_of_running busy moment) h
  | runAction actionId =>
    refine attempt_idle (runAction_idle busy fun refused => h ?_)
    rw [perform, refused]
    rfl
  | confirm id => exact absurd (confirm_of_running busy id moment) h
  | cancelConfirmation => rfl
  | reset => rfl

end Session

namespace Twin

variable (twin : Twin)

/-- The twin does what the session does, except for what is refused because of a run in the air, and
for results of runs from before it was born. -/
def follows (turn : Session.Turn) : Bool :=
  match turn.happening with
  | .asked request moment =>
    match (turn.before.perform request moment).answer with
    | .refusal .runInFlight => false
    | _ => true
  | .arrived flight _ => twin.born ≤ flight.epoch

/-- Both turns do the same, answer the same, record the same, and lead to the same state. -/
structure Matches (turn other : Session.Turn) : Prop where
  happening : other.happening = twin.happening turn.happening
  answer : other.step.answer = twin.answer turn.step.answer
  events : other.step.events = turn.step.events.map twin.event
  state : other.after.state = twin.state turn.after.state

/-- How the twin stands beside the session, each with its runs in the air: it is the same, or the
session still waits for a run from before. -/
inductive Beside (session : Session) : List Session.Flight → Session → List Session.Flight → Prop
    where
  | level {air : List Session.Flight} (known : ∀ flight ∈ air, twin.born ≤ flight.epoch) :
    Beside session air (twin.session session) (air.map twin.flight)
  | waiting {flight : Session.Flight} (busy : session.running = true)
      (early : flight.epoch < twin.born) :
    Beside session [flight] (twin.session session.idle) []

variable {twin} {session other : Session} {air others : List Session.Flight}

theorem Beside.state (h : twin.Beside session air other others) :
    other.state = twin.state session.state := by
  cases h <;> rfl

theorem Beside.preview (h : twin.Beside session air other others) (actionId : String) :
    other.preview actionId = session.preview actionId := by
  cases h <;> rfl

theorem flight?_step (step : Session.Step) :
    (twin.step step).flight? = step.flight?.map twin.flight := by
  obtain ⟨session, events, answer⟩ := step
  cases answer <;> rfl

theorem follows_asked {request : Session.Request} {moment : Session.Moment} :
    twin.follows ⟨session, .asked request moment⟩ = true ↔
      (session.perform request moment).answer ≠ .refusal .runInFlight := by
  unfold follows
  dsimp only
  split
  next h => simp [h]
  next h => simpa using h

theorem follows_arrived {flight : Session.Flight} {result : Except RunError Execution} :
    twin.follows ⟨session, .arrived flight result⟩ = true ↔ twin.born ≤ flight.epoch :=
  decide_eq_true_iff

theorem matches_of_idle {turn next : Session.Turn}
    (happening : next.happening = twin.happening turn.happening)
    (same : next.step.idle = twin.step turn.step.idle) : twin.Matches turn next where
  happening := happening
  answer := congrArg Session.Step.answer same
  events := congrArg Session.Step.events same
  state := congrArg (fun step => step.session.state) same

theorem Beside.asked (h : twin.Beside session air other others)
    (old : twin.born ≤ session.state.epoch) {request : Session.Request} {moment : Session.Moment}
    (free : (session.perform request moment).answer ≠ .refusal .runInFlight) :
    twin.Matches ⟨session, .asked request moment⟩
        ⟨other, .asked (twin.request request) (twin.moment moment)⟩ ∧
      twin.Beside (session.perform request moment).session
        (air ++ (session.perform request moment).flight?.toList)
        (other.perform (twin.request request) (twin.moment moment)).session
        (others ++ (other.perform (twin.request request) (twin.moment moment)).flight?.toList) := by
  have performed := session.performed request moment
  have later := performed.epoch_le
  cases h with
  | level known =>
    have same := twin.perform_session session old request moment
    refine ⟨matches_of_idle rfl (congrArg Session.Step.idle same), ?_⟩
    rw [same, flight?_step, Option.toList_map, ← List.map_append]
    refine .level fun flight hf => ?_
    rcases List.mem_append.mp hf with hf | hf
    · exact known flight hf
    · have epoch := performed.epoch_of_launched (Option.mem_toList.mp hf)
      omega
  | @waiting flight busy early =>
    -- The twin is not kept busy by the run that the session waits for.
    have idle := Session.perform_idle busy free
    have same := twin.perform_session session.idle old request moment
    rw [idle] at same
    refine ⟨matches_of_idle rfl (congrArg Session.Step.idle same), ?_⟩
    obtain ⟨grounded, still⟩ := performed.grounded_of_running busy
    have nothing : (session.perform request moment).idle.flight? = none := grounded
    rw [same, flight?_step, nothing, grounded]
    exact .waiting still early

theorem Beside.arrived {before after : List Session.Flight} {flight : Session.Flight}
    (h : twin.Beside session (before ++ flight :: after) other others)
    (old : twin.born ≤ session.state.epoch) (known : twin.born ≤ flight.epoch)
    (result : Except RunError Execution) :
    others = before.map twin.flight ++ twin.flight flight :: after.map twin.flight ∧
      twin.Matches ⟨session, .arrived flight result⟩
        ⟨other, twin.happening (.arrived flight result)⟩ ∧
      twin.Beside (session.arrive flight result).session (before ++ after)
        (Session.Turn.after ⟨other, twin.happening (.arrived flight result)⟩)
        (before.map twin.flight ++ after.map twin.flight) := by
  generalize eq : before ++ flight :: after = air at h
  cases h with
  | level all =>
    subst eq
    have same := twin.arrive_session session old known result
    refine ⟨by simp, matches_of_idle rfl (congrArg Session.Step.idle same), ?_⟩
    rw [Session.Turn.after, Session.Turn.step, happening]
    dsimp only
    rw [same, ← List.map_append]
    have fewer : (before ++ after).Sublist (before ++ flight :: after) :=
      (List.sublist_cons_self flight after).append_left before
    exact .level fun other hf => all other (fewer.subset hf)
  | waiting busy early =>
    -- The only run in the air is not one that the twin knows.
    have only : flight ∈ before ++ flight :: after :=
      List.mem_append_right _ (List.mem_cons_self ..)
    rw [eq, List.mem_singleton] at only
    subst only
    omega

theorem Beside.arrived_late {before after : List Session.Flight} {flight : Session.Flight}
    (h : twin.Beside session (before ++ flight :: after) other others)
    (old : twin.born ≤ session.state.epoch) (early : flight.epoch < twin.born)
    (result : Except RunError Execution) :
    twin.Beside (session.arrive flight result).session (before ++ after) other others := by
  rw [Session.arrive_of_epoch_lt (by omega)]
  generalize eq : before ++ flight :: after = air at h
  cases h with
  | level known =>
    subst eq
    have := known flight (List.mem_append_right _ (List.mem_cons_self ..))
    omega
  | waiting busy =>
    rcases List.append_eq_singleton_iff.mp eq with ⟨rfl, eq⟩ | ⟨_, eq⟩
    · cases eq
      exact .level (by simp)
    · cases eq

/-- How far the twin has come when the session has taken some turns since the twin was born. -/
inductive Tracks (twin : Twin) (newborn : Session) (later : List Session.Turn) (session : Session)
    (air : List Session.Flight) : Prop where
  | intro {twins : List Session.Turn} {other : Session} {others : List Session.Flight}
      (old : twin.born ≤ session.state.epoch) (course : Session.Course newborn twins other others)
      (same : List.Forall₂ twin.Matches (later.filter twin.follows) twins)
      (beside : twin.Beside session air other others)

variable {newborn : Session} {later twins : List Session.Turn}

theorem matches_skip {turn : Session.Turn}
    (same : List.Forall₂ twin.Matches (later.filter twin.follows) twins)
    (skips : ¬ twin.follows turn = true) :
    List.Forall₂ twin.Matches ((later ++ [turn]).filter twin.follows) twins := by
  rwa [List.filter_append, List.filter_cons_of_neg skips, List.filter_nil, List.append_nil]

theorem matches_concat {turn next : Session.Turn}
    (same : List.Forall₂ twin.Matches (later.filter twin.follows) twins)
    (follows : twin.follows turn = true) (paired : twin.Matches turn next) :
    List.Forall₂ twin.Matches ((later ++ [turn]).filter twin.follows) (twins ++ [next]) := by
  rw [List.filter_append, List.filter_cons_of_pos follows]
  exact List.rel_append same (.cons paired .nil)

theorem Tracks.asked (h : twin.Tracks newborn later session air) (request : Session.Request)
    (moment : Session.Moment) :
    twin.Tracks newborn (later ++ [⟨session, .asked request moment⟩])
      (session.perform request moment).session
      (air ++ (session.perform request moment).flight?.toList) := by
  obtain ⟨old, course, same, beside⟩ := h
  have older := Nat.le_trans old (session.performed request moment).epoch_le
  by_cases blocked : (session.perform request moment).answer = .refusal .runInFlight
  · -- The session stays where it is, and the twin is not asked.
    refine .intro older course (matches_skip same fun follows => ?_) ?_
    · exact follows_asked.mp follows blocked
    · rw [Session.step_of_runInFlight blocked]
      exact (List.append_nil air).symm ▸ beside
  · obtain ⟨paired, next⟩ := beside.asked old blocked
    exact .intro older (course.asked (twin.request request) (twin.moment moment))
      (matches_concat same (follows_asked.mpr blocked) paired) next

theorem Tracks.arrived {before after : List Session.Flight} {flight : Session.Flight}
    (h : twin.Tracks newborn later session (before ++ flight :: after))
    (result : Except RunError Execution) :
    twin.Tracks newborn (later ++ [⟨session, .arrived flight result⟩])
      (session.arrive flight result).session (before ++ after) := by
  obtain ⟨old, course, same, beside⟩ := h
  have older : twin.born ≤ (session.arrive flight result).session.state.epoch :=
    (session.arrived flight result).epoch.symm ▸ old
  by_cases known : twin.born ≤ flight.epoch
  · obtain ⟨rfl, paired, next⟩ := beside.arrived old known result
    exact .intro older (course.arrived _) (matches_concat same (follows_arrived.mpr known) paired)
      next
  · -- Only the session had to wait for this run, and now it need not any more.
    refine .intro older course (matches_skip same fun follows => known (follows_arrived.mp follows))
      (beside.arrived_late old (Nat.lt_of_not_le known) result)

theorem Beside.others_eq (h : twin.Beside session air other others) :
    others = (air.filter fun flight => twin.born ≤ flight.epoch).map twin.flight := by
  cases h with
  | level known =>
    rw [List.filter_eq_self.mpr fun flight hf => decide_eq_true (known flight hf)]
  | waiting busy early => simp [Nat.not_le.mpr early]

theorem Beside.running (h : twin.Beside session air other others)
    (airborne : session.Airborne air) :
    session.running = true ↔
      other.running = true ∨ ∃ flight ∈ air, flight.epoch < twin.born := by
  cases h with
  | level known =>
    refine ⟨.inl, fun h => h.resolve_right fun ⟨flight, hf, early⟩ => ?_⟩
    exact Nat.not_le.mpr early (known flight hf)
  | @waiting flight busy early => simp [busy, early]

end Twin

namespace Session

variable {first session : Session} {earlier later : List Turn} {air : List Flight}

theorem session_reset_idle {twin : Twin} {id : String} {dashboard : Dashboard} {user : User}
    {limits : Limits} (akin : Akin (.start id dashboard user limits) session)
    (born : twin.born = session.state.epoch + 1) :
    twin.session session.reset.session.idle = .start twin.sessionId dashboard user limits := by
  have fresh := twin.state_fresh session.board session.state.gate.lifetime (session.state.epoch + 1)
  rw [born, Nat.sub_self] at fresh
  rw [Twin.session, idle, reset]
  dsimp only
  rw [fresh, akin.dashboardId, akin.board, akin.user, akin.lifetime]
  rfl

theorem Course.tracks_of_reset {twin : Twin} {id : String} {dashboard : Dashboard} {user : User}
    {limits : Limits} {before : Session} {moment : Moment}
    (course : Course (.start id dashboard user limits)
      (earlier ++ [⟨before, .asked .reset moment⟩]) before.reset.session air)
    (born : twin.born = before.state.epoch + 1) :
    twin.Tracks (.start twin.sessionId dashboard user limits) [] before.reset.session air := by
  obtain ⟨_, _, past, _⟩ := course.last
  -- What is in the air was handed over before, as a reset hands nothing over.
  have low : ∀ flight ∈ air, flight.epoch < twin.born := by
    intro flight hf
    have handed : flight ∈ Session.launched (earlier ++ [⟨before, .asked .reset moment⟩]) := by
      rw [course.launched rfl]
      exact List.mem_append_right _ hf
    rw [launched_concat] at handed
    rcases List.mem_append.mp handed with handed | handed
    · have low : flight.epoch ≤ before.state.epoch := past.epoch_of_launched flight handed
      omega
    · cases Option.mem_toList.mp handed
  have airborne := course.airborne rfl
  rw [← session_reset_idle past.akin born]
  refine .intro (Nat.le_of_eq born) .start .nil ?_
  generalize before.reset.session = next at airborne
  cases airborne with
  | grounded grounded =>
    have same : next.idle = next := congrArg (fun running => { next with running }) grounded.symm
    rw [same]
    exact .level (by simp)
  | one busy => exact .waiting busy (low _ (List.mem_singleton_self _))

/-- Whatever a session does after a reset, a session that is started then does as well: it answers,
records and holds the same, up to its id, the ids of confirmations and runs, and the epoch. What was
refused because of a run in the air is left out; and runs from before the reset, which the new
session does not know, are dropped whatever they come to. The session is running while the new one
is, and until such a run is back. -/
theorem reset_renews {id : String} {dashboard : Dashboard} {user : User} {limits : Limits}
    {before : Session} {moment : Moment}
    (course : Course (.start id dashboard user limits)
      (earlier ++ ⟨before, .asked .reset moment⟩ :: later) session air)
    (twin : Twin) (born : twin.born = before.state.epoch + 1) :
    (∀ flight ∈ launched earlier, Drops session flight) ∧
    ∃ twins other others,
      Course (.start twin.sessionId dashboard user limits) twins other others ∧
      List.Forall₂ twin.Matches (later.filter twin.follows) twins ∧
      other.state = twin.state session.state ∧
      others = (air.filter fun flight => twin.born ≤ flight.epoch).map twin.flight ∧
      (session.running = true ↔
        other.running = true ∨ ∃ flight ∈ air, flight.epoch < twin.born) ∧
      ∀ actionId, other.preview actionId = session.preview actionId := by
  obtain ⟨_, past, _⟩ := course.before
  have tracks : twin.Tracks (.start twin.sessionId dashboard user limits) later session air := by
    refine course.since (P := twin.Tracks (.start twin.sessionId dashboard user limits))
      (fun air course => course.tracks_of_reset born) ?_ ?_
    · exact fun later session air request moment _ tracks => tracks.asked request moment
    · exact fun later session before after flight result _ tracks => tracks.arrived result
  obtain ⟨old, twinCourse, same, beside⟩ := tracks
  refine ⟨fun flight handed => drops_of_epoch_lt ?late, _, _, _, twinCourse, same, beside.state,
    beside.others_eq, beside.running (course.airborne rfl), beside.preview⟩
  case late =>
    have low : flight.epoch ≤ before.state.epoch := past.epoch_of_launched flight handed
    omega

def callerTwin : Twin where
  sessionId := "t"
  confirmationId := ("t-" ++ ·)
  runId := ("t-" ++ ·)
  born := 1
  distinct := fun _ _ same => (String.append_right_inj "t-").mp same

def callerRetyped : Session :=
  (callerReset.perform (.setLoadValue "l-email" "c@d.com") ⟨3, 3, "d"⟩).session

def callerFreed : Session := (callerRetyped.arrive lookupFlight lookupResult).session

def callerRenewed : Session := (callerFreed.perform .load ⟨5, 5, "f"⟩).session

def callerRenewedTurns : List Turn :=
  [⟨callerReset, .asked (.setLoadValue "l-email" "c@d.com") ⟨3, 3, "d"⟩⟩,
   ⟨callerRetyped, .asked .load ⟨4, 4, "e"⟩⟩,
   ⟨callerRetyped, .arrived lookupFlight lookupResult⟩,
   ⟨callerFreed, .asked .load ⟨5, 5, "f"⟩⟩]

def renewedFlight : Flight :=
  ⟨"lookup", Validated.rendered [⟨"l-email", "email", .email "c@d.com"⟩], 1, .prepare⟩

theorem course_callerRenewed :
    Course caller (callerResetTurns ++ callerRenewedTurns) callerRenewed [renewedFlight] := by
  have waiting : Course caller (callerResetTurns ++ callerRenewedTurns.take 2) callerRetyped
      ([] ++ lookupFlight :: []) :=
    .asked .load ⟨4, 4, "e"⟩
      (.asked (.setLoadValue "l-email" "c@d.com") ⟨3, 3, "d"⟩ course_callerReset)
  exact .asked .load ⟨5, 5, "f"⟩ (.arrived lookupResult waiting)

/-- Of the four things the new session is told two: it has no earlier run to wait for. -/
theorem reset_renews_callerRenewed :
    Course caller (callerResetTurns ++ callerRenewedTurns) callerRenewed [renewedFlight] ∧
    callerTwin.born = callerLooking.state.epoch + 1 ∧ Drops callerRenewed lookupFlight ∧
    ∃ twins other, twins.length = 2 ∧ other.running = true ∧
      Course (.start "t" ⟨"support", "", ⟨some "lookup", [emailField], [], [], [], ⟨[]⟩⟩⟩
        .anonymous .standard) twins other [callerTwin.flight renewedFlight] ∧
      other.state = callerTwin.state callerRenewed.state := by
  have split : callerResetTurns ++ callerRenewedTurns = callerResetTurns.take 2 ++
      ⟨callerLooking, .asked .reset ⟨2, 2, "c"⟩⟩ :: callerRenewedTurns := rfl
  obtain ⟨drops, twins, other, others, course, same, state, rfl, running, _⟩ :=
    reset_renews (split ▸ course_callerRenewed) callerTwin rfl
  have told : (callerRenewedTurns.filter callerTwin.follows).length = 2 := rfl
  refine ⟨course_callerRenewed, rfl, drops lookupFlight (List.mem_singleton_self _), twins, other,
    same.length_eq ▸ told, ?_, course, state⟩
  exact (running.mp rfl).resolve_right (by decide)

end Session

end Runbook
