import Runbook.Network
import Runbook.Proofs.Cleared
import Runbook.Proofs.Sql.Selecting

namespace Runbook

namespace Collaborators

variable {m : Type → Type} [Monad m] [LawfulMonad m]

theorem watches_guarded (executor : Executor m) (freshId : m String)
    (collaborators : Collaborators m) (appId : String) (values : Dict String) (user : User)
    (body : List Pair) :
    Watches (Guarded collaborators.limits appId values user body)
      (collaborators.watched.execute (Executor.watched executor) (liftM freshId) appId values user
        body).run
      (collaborators.execute executor freshId appId values user body).run :=
  (watches_execute executor freshId collaborators appId values user body).imp
    fun _ _ => guarded_of_executing

def Collecting (collaborators : Collaborators m) (inputs : List RunInput) (deeds : List Deed)
    (result : Except RunError (Dict String)) : Prop :=
  deeds = [] ∧ collaborators.collect inputs = result

theorem watches_collect (collaborators : Collaborators m) (inputs : List RunInput) :
    Watches (collaborators.Collecting inputs)
      (liftExcept (collaborators.collect inputs) : ExceptT RunError (StateT (List Deed) m) _).run
      (liftExcept (collaborators.collect inputs) : ExceptT RunError m _).run :=
  .fixed ⟨rfl, rfl⟩

/-- How the compilation of an app for given inputs goes. -/
def Previewing (collaborators : Collaborators m) (appId : String) (inputs : List RunInput)
    (user : User) (body : List Pair) : List Deed → Except RunError Artifact → Prop :=
  Then (collaborators.Collecting inputs) fun values => Then (Finding appId) fun found =>
    Compiling collaborators.limits values user body found.1 found.2

def Undertaking (collaborators : Collaborators m) (appId : String) (inputs : List RunInput)
    (user : User) (body : List Pair) : List Deed → Except RunError Report → Prop :=
  Then (collaborators.Collecting inputs) fun values =>
    Then (Executing collaborators.limits appId values user body) fun execution deeds result =>
      deeds = [] ∧ result = .ok execution.report

theorem watches_previewing (collaborators : Collaborators m) (appId : String)
    (inputs : List RunInput) (user : User) (body : List Pair) :
    Watches (collaborators.Previewing appId inputs user body)
      (collaborators.watched.compile appId inputs user body).run
      (collaborators.compile appId inputs user body).run :=
  (collaborators.watches_collect inputs).andThen fun values =>
    (collaborators.watches_find appId).andThen fun found =>
      collaborators.watches_compileFor found.1 found.2 values user body

theorem watches_undertaking (executor : Executor m) (freshId : m String) (record : Event → m Unit)
    (collaborators : Collaborators m) (appId : String) (inputs : List RunInput) (user : User)
    (body : List Pair) :
    Watches (collaborators.Undertaking appId inputs user body)
      (collaborators.watched.run (Executor.watched executor) (liftM freshId)
        (fun event => liftM (record event)) appId inputs user body).run
      (collaborators.run executor freshId record appId inputs user body).run :=
  (collaborators.watches_collect inputs).andThen fun values =>
    (watches_execute executor freshId collaborators appId values user body).andThen
      fun execution => .afterThen
        (R := fun deeds result => deeds = [] ∧ result = .ok execution.report)
        (f := fun _ => pure execution.report) (g := fun _ => pure execution.report)
        (record (Runner.event user execution)) fun _ => .pure ⟨rfl, rfl⟩

theorem watches_compile (collaborators : Collaborators m) (appId : String)
    (inputs : List RunInput) (user : User) (body : List Pair) :
    Watches (fun deeds _ => ∀ deed ∈ deeds, deed.isLookup = true)
      (collaborators.watched.compile appId inputs user body).run
      (collaborators.compile appId inputs user body).run := by
  refine (collaborators.watches_previewing appId inputs user body).imp fun deeds result h => ?_
  refine Then.forall_mem h (by rintro _ _ ⟨rfl, _⟩; simp) fun values deeds result h => ?_
  refine Then.forall_mem h (fun _ _ => lookups_of_finding) fun found deeds result h => ?_
  intro deed member
  obtain ⟨_, rfl⟩ := schemas_of_compiling h deed member
  rfl

/-- What a run for given inputs asks, and what it reports. -/
def Running (collaborators : Collaborators m) (appId : String) (inputs : List RunInput)
    (user : User) (body : List Pair) (deeds : List Deed) (result : Except RunError Report) : Prop :=
  match collaborators.collect inputs with
  | .error e => deeds = [] ∧ result = .error e
  | .ok values => ∃ ended, Guarded collaborators.limits appId values user body deeds ended ∧
      result = ended.map Execution.report

theorem watches_run (executor : Executor m) (freshId : m String) (record : Event → m Unit)
    (collaborators : Collaborators m) (appId : String) (inputs : List RunInput) (user : User)
    (body : List Pair) :
    Watches (collaborators.Running appId inputs user body)
      (collaborators.watched.run (Executor.watched executor) (liftM freshId)
        (fun event => liftM (record event)) appId inputs user body).run
      (collaborators.run executor freshId record appId inputs user body).run := by
  refine (watches_undertaking executor freshId record collaborators appId inputs user body).imp
    fun deeds result h => ?_
  unfold Running
  rcases h with ⟨rfl, collect⟩ | ⟨⟨rfl, collect⟩, h⟩
  · rw [collect]
    exact ⟨rfl, rfl⟩
  rw [collect]
  rcases h with h | ⟨h, rfl, rfl⟩
  · exact ⟨_, guarded_of_executing h, rfl⟩
  · exact ⟨.ok _, by simpa using guarded_of_executing h, rfl⟩

end Collaborators

namespace Session.Desk

open Collaborators

variable {m : Type → Type} [Monad m] [LawfulMonad m]

theorem watches_record (desk : Desk m) (events : List Event) :
    Watches (fun deeds _ => deeds = []) (events.forM desk.watched.record)
      (events.forM desk.record) := by
  induction events with
  | nil => exact .pure rfl
  | cons event events ih => exact .after (desk.record event) fun _ => ih

theorem watches_settle (desk : Desk m) (step : Step) :
    Watches (fun deeds answer => deeds = [] ∧ answer = step.answer) (desk.watched.settle step)
      (desk.settle step) := by
  unfold settle
  refine .after (desk.put step.session) fun _ => ?_
  refine ((desk.watches_record step.events).bind fun _ =>
    .pure (P := fun deeds answer => deeds = [] ∧ answer = step.answer) ⟨rfl, rfl⟩).imp ?_
  rintro _ _ ⟨_, _, _, rfl, ⟨rfl, rfl⟩, rfl⟩
  exact ⟨rfl, rfl⟩

theorem watches_wait (desk : Desk m) (user : User) (flight : Flight) :
    Watches (fun deeds answer => ∃ ran ended after,
        Guarded desk.runner.limits flight.appId flight.inputs user [] ran ended ∧
        deeds = ran ++ [.session after] ∧ answer = (after.arrive flight ended).answer)
      (desk.watched.wait user flight) (desk.wait user flight) := by
  have run := watches_guarded desk.executor desk.freshRunId desk.runner flight.appId flight.inputs
    user []
  have arrival (ended : Except RunError Execution) :=
    Watches.noteThen desk.get .session fun after =>
      desk.watches_settle (after.arrive flight ended)
  refine (run.bind arrival).imp ?_
  rintro _ _ ⟨ended, ran, _, guarded, ⟨after, _, ⟨rfl, rfl⟩, rfl⟩, rfl⟩
  exact ⟨ran, ended, after, guarded, rfl, rfl⟩

end Session.Desk

namespace Session

/-- How it goes on after a step: its answer is given, or its run is waited for. What the run comes
to is told as the session takes it that is found then. -/
inductive Following (limits : Limits) (user : User) (step : Step) :
    List Deed → Except RunError Reply → Prop where
  | replied {reply : Reply} (answer : step.answer = .reply reply) :
    Following limits user step [] (.ok reply)
  | refused {e : RunError} (answer : step.answer = .refusal e) :
    Following limits user step [] (.error e)
  | landed {flight : Flight} {ran : List Deed} {ended : Except RunError Execution}
      {after : Session} {reply : Reply} (launched : step.answer = .flight flight)
      (run : Collaborators.Guarded limits flight.appId flight.inputs user [] ran ended)
      (answer : (after.arrive flight ended).answer = .reply reply) :
    Following limits user step (ran ++ [.session after]) (.ok reply)
  | failed {flight : Flight} {ran : List Deed} {ended : Except RunError Execution}
      {after : Session} {e : RunError} (launched : step.answer = .flight flight)
      (run : Collaborators.Guarded limits flight.appId flight.inputs user [] ran ended)
      (answer : (after.arrive flight ended).answer = .refusal e) :
    Following limits user step (ran ++ [.session after]) (.error e)

/-- How an operation goes: the session is read and the operation performed on it, and what follows
is done for its user. -/
inductive Operating (limits : Limits) (request : Request) :
    List Deed → Except RunError Reply → Prop where
  | performed {session : Session} {moment : Moment} {deeds : List Deed}
      {result : Except RunError Reply}
      (followed : Following limits session.user (session.perform request moment) deeds result) :
    Operating limits request
      (.session session :: .clock moment.now :: .clock moment.later ::
        .confirmationId moment.freshId :: deeds) result

theorem arrive_answer_ne_flight (session : Session) (flight next : Flight)
    (result : Except RunError Execution) :
    (session.arrive flight result).answer ≠ .flight next := by
  unfold arrive
  split
  next => simp [refuse]
  next =>
    dsimp only
    split <;> simp

namespace Desk

variable {m : Type → Type} [Monad m] [LawfulMonad m]

theorem watches_follow (desk : Desk m) (user : User) (step : Step) :
    Watches (Following desk.runner.limits user step) (desk.watched.follow user step)
      (desk.follow user step) := by
  unfold follow
  refine ((desk.watches_settle step).bind
    (Q := fun answer deeds result => answer = step.answer →
      Following desk.runner.limits user step deeds result) fun answer => ?_).imp ?_
  · cases answer with
    | reply reply =>
      simp only [pure_bind]
      exact .pure fun same => .replied same.symm
    | refusal e =>
      simp only [pure_bind]
      exact .pure fun same => .refused same.symm
    | flight flight =>
      refine ((desk.watches_wait user flight).bind (Q := fun answer deeds result =>
        deeds = [] ∧ result = answer.result) fun answer => .pure ⟨rfl, rfl⟩).imp ?_
      rintro _ _ ⟨_, _, _, ⟨ran, ended, after, guarded, rfl, rfl⟩, ⟨rfl, rfl⟩, rfl⟩ same
      rw [List.append_nil]
      cases answer : (after.arrive flight ended).answer with
      | reply reply => exact .landed same.symm guarded answer
      | refusal e => exact .failed same.symm guarded answer
      | flight next => exact absurd answer (arrive_answer_ne_flight after flight next ended)
  · rintro _ _ ⟨_, _, _, ⟨rfl, rfl⟩, followed, rfl⟩
    exact followed rfl

theorem watches_operate (desk : Desk m) (request : Request) :
    Watches (Operating desk.runner.limits request) (desk.watched.operate request)
      (desk.operate request) := by
  unfold operate
  refine (Watches.noteThen desk.get .session fun session =>
    .noteThen desk.now .clock fun now => .noteThen desk.now .clock fun later =>
      .noteThen desk.freshConfirmationId .confirmationId fun id =>
        desk.watches_follow session.user (session.perform request ⟨now, later, id⟩)).imp ?_
  rintro _ result ⟨session, _, ⟨now, _, ⟨later, _, ⟨id, deeds, followed, rfl⟩, rfl⟩, rfl⟩, rfl⟩
  exact @Operating.performed _ _ session ⟨now, later, id⟩ _ _ followed

end Desk

end Session

section

variable {m : Type → Type} [Monad m]

/-- The executors do the same with artifacts that the connections of their resources take. -/
def Executor.AgreeWhereSuited (first second : Executor m) : Prop :=
  ∀ resource artifact, artifact.suits resource.connection = true →
    first resource artifact = second resource artifact

/-- The executors differ at most in what they do with artifacts that are no requests. -/
def Executor.SameForRequests (first second : Executor m) : Prop :=
  ∀ resource request, first resource (.http request) = second resource (.http request)

def Executor.SameForStatements (first second : Executor m) : Prop :=
  ∀ resource connection statement, resource.connection = .postgres connection →
    first resource (.sql statement) = second resource (.sql statement)

/-- No way to run an app tells the executors apart. -/
structure Executor.Indistinguishable (first second : Executor m) : Prop where
  execute : ∀ (collaborators : Collaborators m) (freshId : m String) (appId : String)
      (values : Dict String) (user : User) (body : List Pair),
    collaborators.execute first freshId appId values user body =
      collaborators.execute second freshId appId values user body
  run : ∀ (collaborators : Collaborators m) (freshId : m String) (record : Event → m Unit)
      (appId : String) (inputs : List RunInput) (user : User) (body : List Pair),
    collaborators.run first freshId record appId inputs user body =
      collaborators.run second freshId record appId inputs user body
  operate : ∀ (desk : Session.Desk m) (request : Session.Request),
    ({ desk with executor := first } : Session.Desk m).operate request =
      ({ desk with executor := second } : Session.Desk m).operate request

theorem Executors.dispatch_agree {http http' sql sql' : Executor m}
    (requests : Executor.SameForRequests http http')
    (statements : Executor.SameForStatements sql sql') :
    Executor.AgreeWhereSuited (Executors.dispatch ⟨some http, some sql⟩)
      (Executors.dispatch ⟨some http', some sql'⟩) := by
  intro resource artifact suits
  cases artifact with
  | http request => exact requests resource request
  | sql statement =>
    cases connection : resource.connection with
    | http service => simp [Artifact.suits, connection] at suits
    | postgres database => exact statements resource database statement connection

variable [LawfulMonad m] {first second : Executor m}

theorem Collaborators.execute_congr (same : Executor.AgreeWhereSuited first second)
    (freshId : m String) (collaborators : Collaborators m) (appId : String)
    (values : Dict String) (user : User) (body : List Pair) :
    collaborators.execute first freshId appId values user body =
      collaborators.execute second freshId appId values user body := by
  obtain ⟨runs, _, plain⟩ := watches_call collaborators appId values user body
  refine ExceptT.ext ?_
  unfold execute
  rw [ExceptT.run_bind, ExceptT.run_bind, plain, bind_map_left, bind_map_left]
  refine bind_congr fun run => ?_
  obtain ⟨⟨deeds, result⟩, calling⟩ := run
  cases result with
  | error e => rfl
  | ok call =>
    have answers := same call.resource call.artifact (suits_of_calling calling)
    simp only [answers]

theorem Executor.AgreeWhereSuited.indistinguishable
    (same : Executor.AgreeWhereSuited first second) : Executor.Indistinguishable first second where
  execute _ _ _ _ _ _ := Collaborators.execute_congr same ..
  run _ _ _ _ _ _ _ := by simp only [Collaborators.run, Collaborators.execute_congr same]
  operate _ _ := by
    simp only [Session.Desk.operate, Session.Desk.follow, Session.Desk.wait, Session.Desk.settle,
      Collaborators.execute_congr same]

end

/-- Whatever collaborators and executors do: every way to run an app is guarded, compilation only
looks definitions up, and with one executor for requests and one for statements it makes no
difference what either does with anything else. -/
theorem executor_guarded {m : Type → Type} [Monad m] [LawfulMonad m] :
    (∀ (collaborators : Collaborators m) (executor : Executor m) (freshId : m String)
        (appId : String) (values : Dict String) (user : User) (body : List Pair),
      Watches (Collaborators.Guarded collaborators.limits appId values user body)
        (collaborators.watched.execute (Executor.watched executor) (liftM freshId) appId values user
          body).run
        (collaborators.execute executor freshId appId values user body).run) ∧
    (∀ (collaborators : Collaborators m) (executor : Executor m) (freshId : m String)
        (record : Event → m Unit) (appId : String) (inputs : List RunInput) (user : User)
        (body : List Pair),
      Watches (collaborators.Running appId inputs user body)
        (collaborators.watched.run (Executor.watched executor) (liftM freshId)
          (fun event => liftM (record event)) appId inputs user body).run
        (collaborators.run executor freshId record appId inputs user body).run) ∧
    (∀ (desk : Session.Desk m) (request : Session.Request),
      Watches (Session.Operating desk.runner.limits request) (desk.watched.operate request)
        (desk.operate request)) ∧
    (∀ (collaborators : Collaborators m) (appId : String) (inputs : List RunInput) (user : User)
        (body : List Pair),
      Watches (fun deeds _ => ∀ deed ∈ deeds, deed.isLookup = true)
        (collaborators.watched.compile appId inputs user body).run
        (collaborators.compile appId inputs user body).run) ∧
    ∀ http http' sql sql' : Executor m, Executor.SameForRequests http http' →
      Executor.SameForStatements sql sql' →
      Executor.Indistinguishable (Executors.dispatch ⟨some http, some sql⟩)
        (Executors.dispatch ⟨some http', some sql'⟩) := by
  refine ⟨fun collaborators executor freshId => ?_, fun collaborators executor freshId record => ?_,
    fun desk => desk.watches_operate,
    fun collaborators => collaborators.watches_compile, ?_⟩
  · exact Collaborators.watches_guarded executor freshId collaborators
  · exact Collaborators.watches_run executor freshId record collaborators
  · intro http http' sql sql' requests statements
    exact (Executors.dispatch_agree requests statements).indistinguishable

def ledger : App := ⟨"ledger", "", "books", [], .sql (.raw ⟨"select 1", []⟩)⟩

def books : Resource := ⟨"books", "", .postgres ⟨none, none⟩⟩

def onlyOnce : Collaborators (StateM Nat) where
  app := fun _ => return .ok (some ledger)
  resource := fun _ => return .ok (some books)
  schema := fun _ => return .ok none
  permits := fun _ _ => modifyGet fun asked => (.ok (asked = 0), asked + 1)
  limits := .standard

/-- Executors for what a network offers, but neither refuses what is not its own. -/
def Network.lenient (network : Network (StateM Nat)) : Executors (StateM Nat) where
  http := some fun resource artifact =>
    match artifact with
    | .http _ => Http.executor network.http resource artifact
    | .sql _ => return .ok (.success "")
  sql := some fun resource artifact =>
    match artifact, resource.connection with
    | .sql _, .postgres _ =>
      Postgres.executor (fun _ => return none) network.databases resource artifact
    | _, _ => return .ok (.success "")

theorem compile_ledger (mostPairs : Nat) (schema : Option Schema) :
    ledger.compile books ∅ .anonymous [] mostPairs schema = .ok (.sql ⟨"select 1", []⟩) := by
  have scan : Sql.Scan.ofText "select 1" = ⟨"select 1", []⟩ := by decide +kernel
  have shown : Text.isBlank "select 1" = false := by decide
  have compiled : Sql.compile (.raw ⟨"select 1", []⟩) [] ∅ .anonymous schema =
      .ok ⟨"select 1", []⟩ := by
    refine Sql.compile_eq_ok_iff.mpr ⟨[], rfl, ?_⟩
    simp only [Sql.compileRaw, scan, shown, Bool.false_eq_true, if_false, List.filter_nil]
    rfl
  simp [App.compile, ledger, books, compiled]

theorem compiling_ledger : Collaborators.Compiling .standard ∅ .anonymous [] ledger books []
    (.ok (.sql ⟨"select 1", []⟩)) := by
  have needless : ¬Collaborators.NeedsSchema ledger := by
    rintro ⟨query, same⟩
    cases same
  exact .went_of_eq (.needless needless) ⟨rfl, compile_ledger _ _⟩ rfl

theorem executing_ledger (appId : String) (answer : Except Failure Outcome) :
    Collaborators.Executing .standard appId ∅ .anonymous []
      [.app appId (.ok (some ledger)), .resource "books" (.ok (some books)),
        .permit .anonymous ledger (.ok true),
        .execution books (.sql ⟨"select 1", []⟩) answer]
      (.ok ⟨"run", "ledger", Runner.outcome answer⟩) := by
  have calling : Collaborators.Calling .standard appId ∅ .anonymous []
      [.app appId (.ok (some ledger)), .resource "books" (.ok (some books)),
        .permit .anonymous ledger (.ok true)] (.ok ⟨"ledger", books, .sql ⟨"select 1", []⟩⟩) :=
    .went_of_eq (.found ledger books)
      (.went_of_eq .granted (.went_of_eq compiling_ledger ⟨rfl, rfl⟩ rfl) rfl) rfl
  exact .went_of_eq calling ⟨"run", answer, rfl, rfl⟩ rfl

def Network.strict (network : Network (StateM Nat)) : Executors (StateM Nat) :=
  network.executors fun _ => return none

theorem execute_onlyOnce :
    let run := (onlyOnce.execute Network.isolated.strict.dispatch (return "run") "ledger" ∅
      .anonymous []).run
    run.run 0 =
        (.ok ⟨"run", "ledger", .error "resource 'books' has no connection url"⟩, 1) ∧
      run.run 1 = (.error (.notPermitted "ledger"), 2) := by
  refine ⟨?_, rfl⟩
  have made := compile_ledger Limits.standard.dynamicBodyPairs.toNat none
  -- All up to the compilation is evaluated, which is the only part that is not by `rfl`.
  change (do
    let call ← (do
      let artifact ← liftExcept
        (ledger.compile books ∅ .anonymous [] Limits.standard.dynamicBodyPairs.toNat none)
      return Call.mk "ledger" books artifact)
    let answer ← Network.isolated.strict.dispatch call.resource call.artifact
    return ⟨"run", call.appId, Runner.outcome answer⟩ :
      ExceptT RunError (StateM Nat) Execution).run.run 1 = _
  rw [made]
  rfl

def librarian : Session.Desk (StateM Session) where
  get := get
  put := set
  runner := {
    app := fun _ => return .ok (some ledger)
    resource := fun _ => return .ok (some books)
    schema := fun _ => return .ok none
    permits := fun _ _ => return .ok true
    limits := .standard }
  executor := fun _ _ => return .ok (.success "7")
  freshRunId := return "run"
  freshConfirmationId := return "c"
  now := return 0
  record := fun _ => return

def reader : Session :=
  .start "s" ⟨"library", "", ⟨some "ledger", [], [], [], [], ⟨[]⟩⟩⟩ .anonymous .standard

theorem execute_librarian :
    (librarian.runner.execute librarian.executor librarian.freshRunId "ledger" ∅ .anonymous
      []).run = pure (.ok ⟨"run", "ledger", .success "7"⟩) := by
  have made := compile_ledger Limits.standard.dynamicBodyPairs.toNat none
  funext session
  change (do
    let call ← (do
      let artifact ← liftExcept
        (ledger.compile books ∅ .anonymous [] Limits.standard.dynamicBodyPairs.toNat none)
      return Call.mk "ledger" books artifact)
    return ⟨"run", call.appId, .success "7"⟩ :
      ExceptT RunError (StateM Session) Execution).run.run session = _
  rw [made]
  rfl

theorem operate_librarian :
    ((librarian.operate .load).run reader).1 =
      .ok (.loaded (some ⟨"run", .success "7"⟩)) := by
  have waited : librarian.wait .anonymous ⟨"ledger", ∅, 0, .prepare⟩ = (do
      librarian.settle ((← librarian.get).arrive ⟨"ledger", ∅, 0, .prepare⟩
        (.ok ⟨"run", "ledger", .success "7"⟩))) := by
    rw [Session.Desk.wait]
    dsimp only
    rw [execute_librarian]
    rfl
  change ((do
    let answer ← librarian.wait .anonymous ⟨"ledger", ∅, 0, .prepare⟩
    return answer.result : StateM Session (Except RunError Session.Reply)).run
      { reader with running := true }).1 = _
  rw [waited]
  rfl

/-- The first run is executed, and that its resource has no address is told as an outcome. The
second run is not. A session that is loaded has the ledger executed. -/
theorem executor_guarded_onlyOnce :
    let plain := (onlyOnce.execute Network.isolated.strict.dispatch (return "run") "ledger" ∅
      .anonymous []).run
    Watches (Collaborators.Guarded .standard "ledger" ∅ .anonymous [])
        (onlyOnce.watched.execute (Executor.watched Network.isolated.strict.dispatch)
          (liftM (return "run" : StateM Nat String)) "ledger" ∅ .anonymous []).run
        plain ∧
      plain.run 0 =
        (.ok ⟨"run", "ledger", .error "resource 'books' has no connection url"⟩, 1) ∧
      plain.run 1 = (.error (.notPermitted "ledger"), 2) ∧
      Watches (onlyOnce.Running "ledger" [] .anonymous [])
        (onlyOnce.watched.run (Executor.watched Network.isolated.strict.dispatch)
          (liftM (return "run" : StateM Nat String)) (fun _ => liftM (return : StateM Nat Unit))
          "ledger" [] .anonymous []).run
        (onlyOnce.run Network.isolated.strict.dispatch (return "run") (fun _ => return) "ledger" []
          .anonymous []).run ∧
      Watches (Session.Operating .standard .load) (librarian.watched.operate .load)
        (librarian.operate .load) ∧
      ((librarian.operate .load).run reader).1 = .ok (.loaded (some ⟨"run", .success "7"⟩)) ∧
      Executor.Indistinguishable Network.isolated.strict.dispatch
        Network.isolated.lenient.dispatch := by
  obtain ⟨execute, run, _, _, indistinguishable⟩ := executor_guarded (m := StateM Nat)
  obtain ⟨_, _, operate, _⟩ := executor_guarded (m := StateM Session)
  obtain ⟨first, second⟩ := execute_onlyOnce
  refine ⟨execute onlyOnce _ _ _ _ _ _, first, second, run onlyOnce _ _ _ _ _ _ _,
    operate librarian .load, operate_librarian, indistinguishable _ _ _ _ ?_ ?_⟩
  · intro resource request
    rfl
  · intro resource connection statement database
    simp [database]

end Runbook
