import Runbook.Proofs.Session.Confirming
import Runbook.Proofs.Session.Refusals
import Runbook.Proofs.Session.Renewal

namespace Runbook

/-- The longest lifetime that is a duration, in seconds: its milliseconds are counted in 63 bits. -/
def Limits.longestLifetime : Nat := 9223372036854775

inductive Limits.Grants (limits : Limits) : Int → Prop where
  | configured (short : limits.confirmationSeconds.toNat ≤ longestLifetime) :
    Grants limits limits.confirmationSeconds.toNat
  | year (long : longestLifetime < limits.confirmationSeconds.toNat) : Grants limits (365 * 86400)

/-- The configured lifetime is a duration, and it ends after the last instant. -/
structure Limits.Overruns (limits : Limits) (now : Instant) : Prop where
  duration : limits.confirmationSeconds.toNat ≤ longestLifetime
  late : Instant.latest < now + limits.confirmationSeconds.toNat * Instant.second

namespace Instant

def year10000 : Instant := 253402300800 * second

variable {now later : Instant} {seconds : Int}

theorem after?_eq_some_iff : now.after? seconds = some later ↔
    later = now + seconds * second ∧ earliest ≤ later ∧ later ≤ latest := by
  unfold after?
  dsimp only
  split
  next range =>
    constructor
    · intro h
      cases h
      exact ⟨rfl, range⟩
    · rintro ⟨rfl, _⟩
      rfl
  next beyond =>
    simp only [reduceCtorEq, false_iff]
    rintro ⟨rfl, range⟩
    exact beyond range

theorem after?_eq_none_iff (since : 0 ≤ now) (forward : 0 ≤ seconds) :
    now.after? seconds = none ↔ latest < now + seconds * second := by
  have beginning : earliest ≤ 0 := by decide
  have ahead : 0 ≤ seconds * second := Int.mul_nonneg forward (by decide)
  have early : earliest ≤ now + seconds * second :=
    Int.le_trans beginning (Int.add_nonneg since ahead)
  unfold after?
  dsimp only
  split
  next range => simpa using range.2
  next beyond =>
    have : ¬ now + seconds * second ≤ latest := fun late => beyond ⟨early, late⟩
    simpa using this

end Instant

theorem Limits.Grants.nonneg {limits : Limits} {seconds : Int} (grants : limits.Grants seconds) :
    0 ≤ seconds := by
  cases grants with
  | configured => exact Int.natCast_nonneg _
  | year => decide

/-- Before the year 10000 the time of a confirmation is too long only if it was configured so. -/
theorem Limits.Grants.overruns_iff {limits : Limits} {seconds : Int} {now : Instant}
    (grants : limits.Grants seconds) (before : now < Instant.year10000) :
    Instant.latest < now + seconds * Instant.second ↔ limits.Overruns now := by
  cases grants with
  | configured short => exact ⟨fun late => ⟨short, late⟩, Overruns.late⟩
  | year long =>
    have last : Instant.year10000 + 365 * 86400 * Instant.second ≤ Instant.latest := by decide
    have soon : now + 365 * 86400 * Instant.second ≤ Instant.latest :=
      Int.le_trans (Int.add_le_add_right (Int.le_of_lt before) _) last
    constructor
    · intro late
      exact absurd late (Int.not_lt.mpr soon)
    · intro overruns
      exact absurd overruns.duration (Nat.not_le.mpr long)

namespace Confirmation

variable {id : String} {action : Action} {now : Instant} {seconds : Int}

theorem open?_eq_none_iff : open? id action now seconds = none ↔ now.after? seconds = none :=
  Option.map_eq_none_iff

theorem after?_of_open? {confirmation : Confirmation}
    (h : open? id action now seconds = some confirmation) :
    confirmation.created = now ∧ now.after? seconds = some confirmation.expires := by
  obtain ⟨expires, after, rfl⟩ := Option.map_eq_some_iff.mp h
  exact ⟨rfl, after⟩

end Confirmation

namespace Session

variable {limits : Limits} {session : Session} {moment : Moment} {request : Request}
  {action : Action}

theorem grants_lifetime (limits : Limits) : limits.Grants (lifetime limits) := by
  have word : ((Nat.pow 2 63 : Nat) : Int) = 9223372036854775808 := by decide
  have longest : Limits.longestLifetime = 9223372036854775 := rfl
  unfold lifetime
  simp only [word]
  by_cases short : limits.confirmationSeconds.toNat ≤ Limits.longestLifetime
  · rw [if_pos (by omega), Int.min_eq_left (by omega)]
    exact .configured short
  · rw [if_neg (by omega)]
    exact .year (Nat.lt_of_not_le short)

structure AsksFor (session : Session) (request : Request) (action : Action) : Prop where
  asked : request = .runAction action.id
  phase : session.state.phase = .postLoad
  found : session.board.action? action.id = some action
  confirms : action.confirms = true

/-- The confirmations of a session expire at an instant that can be represented. -/
structure Timed (limits : Limits) (session : Session) (moment : Moment) : Prop where
  never : ∀ request, (session.perform request moment).answer = .refusal .expiryOutOfRange ↔
    (∃ action, session.AsksFor request action) ∧ limits.Overruns moment.now
  opened : ∀ request action, session.AsksFor request action → ¬ limits.Overruns moment.now →
    ∃ confirmation, (session.perform request moment).answer = .reply (.confirmation confirmation)
  expires : ∀ request confirmation,
    (session.perform request moment).answer = .reply (.confirmation confirmation) →
      confirmation.created = moment.now ∧ confirmation.created ≤ confirmation.expires ∧
        confirmation.expires ≤ Instant.latest ∧
        ∃ seconds, limits.Grants seconds ∧
          confirmation.expires = moment.now + seconds * Instant.second

theorem AsksFor.perform_eq (asks : session.AsksFor request action) :
    session.perform request moment = session.attempt (do
      let (confirmation, gate) ← session.state.gate.request moment.freshId action moment.now
      session.answer { session.state with gate := gate }
        [session.event (.confirmationRequested action.id action.appId)]
        (.confirmation confirmation)) := by
  have phase : session.requirePhase .postLoad = .ok () := requirePhase_eq_ok_iff.mpr asks.phase
  have known := requireAction_eq_ok_iff.mpr asks.found
  rw [asks.asked, perform, runAction, phase, known]
  exact congrArg session.attempt (if_pos asks.confirms)

theorem AsksFor.perform_of_never (asks : session.AsksFor request action)
    (never : Confirmation.open? moment.freshId action moment.now session.state.gate.lifetime =
      none) :
    session.perform request moment = session.refuse .expiryOutOfRange := by
  rw [asks.perform_eq, Gate.request_eq_error_iff.mpr ⟨never, rfl⟩]
  rfl

theorem AsksFor.perform_of_opens {confirmation : Confirmation}
    (asks : session.AsksFor request action)
    (opens : Confirmation.open? moment.freshId action moment.now session.state.gate.lifetime =
      some confirmation) :
    (session.perform request moment).answer = .reply (.confirmation confirmation) := by
  rw [asks.perform_eq, Gate.request_eq_ok_iff.mpr ⟨opens, rfl⟩]
  rfl

theorem opens_of_confirmation {confirmation : Confirmation}
    (h : (session.perform request moment).answer = .reply (.confirmation confirmation)) :
    ∃ action, Confirmation.open? moment.freshId action moment.now session.state.gate.lifetime =
      some confirmation := by
  have performed := session.performed request moment
  generalize session.perform request moment = step at performed h
  cases performed with
  | opened _ _ _ opens =>
    cases h
    exact ⟨_, opens⟩
  | _ => cases h

theorem asks_of_outOfRange {actionId : String}
    (h : session.runAction actionId moment = .error .expiryOutOfRange) :
    ∃ action, session.AsksFor (.runAction actionId) action ∧
      Confirmation.open? moment.freshId action moment.now session.state.gate.lifetime = none := by
  rcases Except.bind_eq_error_iff.mp h with h | ⟨_, phase, h⟩
  · cases (requirePhase_eq_error_iff.mp h).2
  rcases Except.bind_eq_error_iff.mp h with h | ⟨action, required, h⟩
  · cases (requireAction_eq_error_iff.mp h).2
  split at h
  next confirms =>
    rcases Except.bind_eq_error_iff.mp h with h | ⟨_, _, h⟩
    · have never := (Gate.request_eq_error_iff.mp h).1
      have found := requireAction_eq_ok_iff.mp required
      obtain rfl := Board.action?_id found
      exact ⟨action, ⟨rfl, requirePhase_eq_ok_iff.mp phase, found, confirms⟩, never⟩
    · cases h
  next =>
    rcases Except.bind_eq_error_iff.mp h with h | ⟨_, _, h⟩
    · cases (requireIdle_eq_error_iff.mp h).2
    rcases Except.bind_eq_error_iff.mp h with bound | ⟨_, _, h⟩
    · cases unbound_of_boundInputs bound
    · cases h

theorem answer_of_runAction {actionId : String} {step : Step}
    (h : session.runAction actionId moment = .ok step) (e : RunError) :
    step.answer ≠ .refusal e := by
  obtain ⟨_, _, h⟩ := Except.bind_eq_ok_iff.mp h
  obtain ⟨_, _, h⟩ := Except.bind_eq_ok_iff.mp h
  split at h
  next =>
    obtain ⟨_, _, h⟩ := Except.bind_eq_ok_iff.mp h
    cases h
    nofun
  next =>
    obtain ⟨_, _, h⟩ := Except.bind_eq_ok_iff.mp h
    obtain ⟨_, _, h⟩ := Except.bind_eq_ok_iff.mp h
    cases h
    nofun

theorem never_of_refusal
    (h : (session.perform request moment).answer = .refusal .expiryOutOfRange) :
    ∃ action, session.AsksFor request action ∧
      Confirmation.open? moment.freshId action moment.now session.state.gate.lifetime = none := by
  have refused := session.refused request moment h
  generalize eq : session.perform request moment = step at refused h
  cases refused with
  | @outOfRange action found never =>
    cases result : session.runAction action.id moment with
    | error e =>
      have told : session.perform (.runAction action.id) moment = session.refuse e := by
        rw [perform, result]
        rfl
      cases told.symm.trans eq
      exact asks_of_outOfRange result
    | ok done =>
      have told : session.perform (.runAction action.id) moment = done := by
        rw [perform, result]
        rfl
      exact absurd (congrArg Step.answer (told.symm.trans eq)) (answer_of_runAction result _)
  | unbound unbound => cases h; cases unbound
  | unready unbound => cases h; cases unbound
  | _ => cases h

/-- In every session, and at any time before the year 10000, a confirmation can be opened exactly if
its lifetime does not overrun, and it expires in time. -/
theorem confirmations_timed {id : String} {dashboard : Dashboard} {user : User}
    {turns : List Turn} {air : List Flight}
    (course : Course (.start id dashboard user limits) turns session air)
    (since : 0 ≤ moment.now) (before : moment.now < Instant.year10000) :
    Timed limits session moment := by
  have lasts : session.state.gate.lifetime = lifetime limits := course.akin.lifetime
  have grants := grants_lifetime limits
  have overruns : moment.now.after? session.state.gate.lifetime = none ↔
      limits.Overruns moment.now := by
    rw [lasts, Instant.after?_eq_none_iff since grants.nonneg, grants.overruns_iff before]
  refine ⟨fun request => ⟨fun h => ?_, fun ⟨⟨action, asks⟩, late⟩ => ?_⟩,
    fun request action asks short => ?_, fun request confirmation h => ?_⟩
  · obtain ⟨action, asks, never⟩ := never_of_refusal h
    exact ⟨⟨action, asks⟩, overruns.mp (Confirmation.open?_eq_none_iff.mp never)⟩
  · rw [asks.perform_of_never (Confirmation.open?_eq_none_iff.mpr (overruns.mpr late))]
    rfl
  · cases opens : Confirmation.open? moment.freshId action moment.now
        session.state.gate.lifetime with
    | some confirmation => exact ⟨confirmation, asks.perform_of_opens opens⟩
    | none => exact absurd (overruns.mp (Confirmation.open?_eq_none_iff.mp opens)) short
  · obtain ⟨action, opens⟩ := opens_of_confirmation h
    obtain ⟨created, after⟩ := Confirmation.after?_of_open? opens
    obtain ⟨expires, _, last⟩ := Instant.after?_eq_some_iff.mp after
    have ahead : 0 ≤ lifetime limits * Instant.second := Int.mul_nonneg grants.nonneg (by decide)
    rw [lasts] at expires
    refine ⟨created, ?_, last, _, grants, expires⟩
    rw [created, expires]
    exact Int.le_add_of_nonneg_right ahead

def newcomerWith (seconds : UInt64) : Session :=
  .start "s" ⟨"support", "", ⟨none, [], [], [refund], [], ⟨[]⟩⟩⟩ .anonymous
    { Limits.standard with confirmationSeconds := seconds }

/-- The longest lifetime that can be configured is no duration, and a year after the last instant of
the year 9999 can still be represented. -/
theorem confirmations_timed_endless :
    ∃ turns session moment confirmation,
      Course (newcomerWith 18446744073709551615) turns session [] ∧
      moment.now = Instant.year10000 - 1 ∧ 0 ≤ moment.now ∧ moment.now < Instant.year10000 ∧
      (session.perform (.runAction "refund") moment).answer = .reply (.confirmation confirmation) ∧
      confirmation.expires = moment.now + 365 * 86400 * Instant.second := by
  have course := Course.asked .load ⟨0, 0, "a"⟩
    (.start : Course (newcomerWith 18446744073709551615) [] _ [])
  have since : 0 ≤ Instant.year10000 - 1 := by decide
  have before : Instant.year10000 - 1 < Instant.year10000 := by decide
  have timed : Timed _ _ ⟨Instant.year10000 - 1, 0, "c"⟩ := confirmations_timed course since before
  have long : ¬ (18446744073709551615 : UInt64).toNat ≤ Limits.longestLifetime := by decide
  obtain ⟨confirmation, answer⟩ := timed.opened (.runAction "refund") refund ⟨rfl, rfl, rfl, rfl⟩
    fun overruns => long overruns.duration
  obtain ⟨_, _, _, seconds, grants, expires⟩ := timed.expires _ _ answer
  refine ⟨_, _, _, confirmation, course, rfl, since, before, answer, ?_⟩
  cases grants with
  | configured short => exact absurd short long
  | year => exact expires

/-- Ten million million seconds are a duration, but they do not end within the time that can be
represented, and the confirmation is never opened. -/
theorem confirmation_overruns :
    ∃ turns session moment, Course (newcomerWith 10000000000000) turns session [] ∧
      0 ≤ moment.now ∧ moment.now < Instant.year10000 ∧
      session.AsksFor (.runAction "refund") refund ∧
      Instant.latest < moment.now + session.state.gate.lifetime * Instant.second ∧
      (session.perform (.runAction "refund") moment).answer = .refusal .expiryOutOfRange :=
  ⟨_, _, ⟨0, 0, "c"⟩, .asked .load ⟨0, 0, "a"⟩ .start, by decide, by decide,
    ⟨rfl, rfl, rfl, rfl⟩, by decide, rfl⟩

end Session

end Runbook
