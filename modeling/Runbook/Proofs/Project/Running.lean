import Runbook.Proofs.Dict
import Runbook.Proofs.Guarded
import Runbook.Proofs.Http.Compiling
import Runbook.Proofs.Project.Sound
import Runbook.Proofs.Session.Coherence

namespace Runbook

/-- What is referred to is not there, or does not fit. -/
inductive RunError.Dangling : RunError → Prop where
  | appNotFound (id : String) : Dangling (.appNotFound id)
  | resourceNotFound (id : String) : Dangling (.resourceNotFound id)
  | resourceMismatch (appId resourceId expected actual : String) :
    Dangling (.resourceMismatch appId resourceId expected actual)
  | missingMethod : Dangling (.httpCompile .missingMethod)
  | unknownAction (id : String) : Dangling (.unknownAction id)
  | unknownField (input id : String) : Dangling (.binding (.unknownField input id))

/-- The result is none of the bad errors. -/
def Avoids {α : Type} (bad : RunError → Prop) (result : Except RunError α) : Prop :=
  ∀ e, result = .error e → ¬bad e

theorem Avoids.ok {α : Type} {bad : RunError → Prop} (a : α) : Avoids bad (.ok a) :=
  fun _ h => by cases h

theorem Avoids.error {α : Type} {bad : RunError → Prop} {e : RunError} (good : ¬bad e) :
    Avoids bad (.error e : Except RunError α) :=
  fun _ h => by
    cases h
    exact good

namespace Always

variable {m : Type → Type} [Monad m] [LawfulMonad m] {α β : Type} {bad : RunError → Prop}

theorem andThen {x : ExceptT RunError m α} {f : α → ExceptT RunError m β}
    (h : Always (Avoids bad) x.run) (hf : ∀ a, Always (Avoids bad) (f a).run) :
    Always (Avoids bad) (x >>= f).run := by
  rw [ExceptT.run_bind]
  refine h.bind fun result avoids => ?_
  cases result with
  | ok a => exact hf a
  | error e => exact .pure (.error (avoids e rfl))

theorem liftedThen (x : m α) {f : α → ExceptT RunError m β}
    (hf : ∀ a, Always (Avoids bad) (f a).run) :
    Always (Avoids bad) (liftM x >>= f : ExceptT RunError m β).run := by
  rw [ExceptT.run_bind, ExceptT.run_liftM, bind_map_left]
  exact .after x hf

theorem fixed {x : Except RunError α} (h : Avoids bad x) :
    Always (Avoids bad) (liftExcept x : ExceptT RunError m α).run := by
  cases x with
  | ok a => exact .pure h
  | error e => exact .pure h

end Always

namespace Collaborators

variable {m : Type → Type} [Monad m]

/-- The definitions are those of the project. Of several with one id the last counts. -/
structure Serves (project : Project) (collaborators : Collaborators m) : Prop where
  app : ∀ id, collaborators.app id =
    pure (.ok (Dict.ofPairs (project.apps.map fun app => (app.id, app)))[id]?)
  resource : ∀ id, collaborators.resource id =
    pure (.ok (Dict.ofPairs (project.resources.map fun r => (r.id, r)))[id]?)

theorem serves_ofProject (project : Project) (schemas : Dict Schema)
    (permits : User → App → Except Failure Bool) :
    Serves project (m := m) (Runner.ofProject project schemas permits) :=
  ⟨fun _ => rfl, fun _ => rfl⟩

variable [LawfulMonad m]

theorem ask_pure {α : Type} (context : String) (a : α) :
    ask context (pure (.ok a) : m (Except Failure α)) = pure a := by
  refine ExceptT.ext ?_
  simp [ask, Except.mapError]

variable {project : Project} {collaborators : Collaborators m}

theorem Serves.find (serves : collaborators.Serves project) (sound : project.Sound) {app : App}
    (member : app ∈ project.apps) :
    ∃ resource ∈ project.resources, app.Placed resource ∧
      collaborators.find app.id = pure (app, resource) := by
  obtain ⟨resource, known, placed⟩ := sound.placed app member
  have first : (Dict.ofPairs (project.apps.map fun app => (app.id, app)))[app.id]? = some app := by
    refine Dict.getElem?_ofPairs_of_mem ?_ (List.mem_map_of_mem member)
    rw [List.map_map]
    exact sound.apps
  have second : (Dict.ofPairs (project.resources.map fun r => (r.id, r)))[app.resourceId]? =
      some resource := by
    rw [← placed.id]
    refine Dict.getElem?_ofPairs_of_mem ?_ (List.mem_map_of_mem known)
    rw [List.map_map]
    exact sound.resources
  refine ⟨resource, known, placed, ?_⟩
  unfold Collaborators.find
  rw [serves.app, first, ask_pure, pure_bind]
  dsimp only
  rw [serves.resource, second, ask_pure, pure_bind]

theorem avoids_compile {app : App} {resource : Resource} (placed : app.Placed resource)
    (values : Dict String) (user : User) (body : List Pair) (mostPairs : Nat)
    (schema : Option Schema) :
    Avoids RunError.Dangling (app.compile resource values user body mostPairs schema) := by
  intro e h dangling
  unfold App.compile at h
  split at h
  next http service operation _ =>
    split at h <;> cases h
    next failed =>
      cases dangling
      have ends : Http.Ends service http app.inputs values user body mostPairs
          (.error .missingMethod) := failed ▸ Http.ends_compile
      cases ends with
      | missingMethod unset => exact placed.method http operation unset
  next =>
    split at h <;> cases h
    cases dangling
  next http sql =>
    have suits := placed.suits
    cases operation : app.operation <;> cases connection : resource.connection
    case http.http => exact http _ _ operation connection
    case sql.postgres => exact sql _ _ operation connection
    all_goals simp [operation, connection, Operation.suits] at suits

theorem always_permit (collaborators : Collaborators m) (user : User) (app : App) :
    Always (Avoids RunError.Dangling) (collaborators.permit user app).run := by
  refine (collaborators.watches_permit user app).always.imp ?_
  rintro _ ⟨_, permitting⟩ e h dangling
  subst h
  cases permitting <;> cases dangling

theorem always_compileFor (collaborators : Collaborators m) {app : App} {resource : Resource}
    (placed : app.Placed resource) (values : Dict String) (user : User) (body : List Pair) :
    Always (Avoids RunError.Dangling)
      (collaborators.compileFor app resource values user body).run := by
  refine (collaborators.watches_compileFor app resource values user body).always.imp ?_
  rintro _ ⟨_, h | ⟨_, _, h⟩⟩
  · cases h
    exact .error fun dangling => by cases dangling
  · rw [← h]
    exact avoids_compile placed _ _ _ _ _

theorem Serves.always_execute (serves : collaborators.Serves project) (sound : project.Sound)
    (executor : Executor m) (freshId : m String) {app : App} (member : app ∈ project.apps)
    (values : Dict String) (user : User) (body : List Pair) :
    Always (Avoids RunError.Dangling)
      (collaborators.execute executor freshId app.id values user body).run := by
  obtain ⟨resource, _, placed, found⟩ := serves.find sound member
  have called : Always (Avoids RunError.Dangling)
      (collaborators.call app.id values user body).run := by
    unfold call
    rw [found, pure_bind]
    refine (collaborators.always_permit user app).andThen fun _ => ?_
    refine (collaborators.always_compileFor placed values user body).andThen fun artifact => ?_
    exact .pure (.ok _)
  refine called.andThen fun call => ?_
  refine .liftedThen freshId fun runId => ?_
  refine .liftedThen (executor call.resource call.artifact) fun answer => ?_
  exact .pure (.ok _)

theorem avoids_collect {m : Type → Type} (collaborators : Collaborators m)
    (inputs : List RunInput) :
    Avoids RunError.Dangling (collaborators.collect inputs) := by
  intro e h dangling
  obtain ⟨_, _, rfl⟩ := Except.mapError_eq_error_iff.mp h
  cases dangling

theorem Serves.always_run (serves : collaborators.Serves project) (sound : project.Sound)
    (executor : Executor m) (freshId : m String) (record : Event → m Unit) {app : App}
    (member : app ∈ project.apps) (inputs : List RunInput) (user : User) (body : List Pair) :
    Always (Avoids RunError.Dangling)
      (collaborators.run executor freshId record app.id inputs user body).run := by
  refine (Always.fixed (collaborators.avoids_collect inputs)).andThen fun values => ?_
  refine (serves.always_execute sound executor freshId member values user body).andThen
    fun execution => ?_
  refine .liftedThen (record (Runner.event user execution)) fun _ => ?_
  exact .pure (.ok _)

theorem Serves.always_compile (serves : collaborators.Serves project) (sound : project.Sound)
    {app : App} (member : app ∈ project.apps) (inputs : List RunInput) (user : User)
    (body : List Pair) :
    Always (Avoids RunError.Dangling) (collaborators.compile app.id inputs user body).run := by
  obtain ⟨resource, _, placed, found⟩ := serves.find sound member
  refine (Always.fixed (collaborators.avoids_collect inputs)).andThen fun values => ?_
  rw [found, pure_bind]
  exact collaborators.always_compileFor placed values user body

end Collaborators

theorem Field.byId?_ne_none {raw : Field → String} {fields : List Field}
    {validated : List Validated}
    (h : List.Forall₂ (fun field v => Field.Gives field (raw field) v) fields validated)
    {id : String} (known : ∃ field ∈ fields, field.id = id) :
    Validated.byId? validated id ≠ none := by
  obtain ⟨field, member, rfl⟩ := known
  obtain ⟨v, hv, gives⟩ := exists_of_forall₂_left h member
  simp only [Validated.byId?, ne_eq, Option.map_eq_none_iff, List.find?_eq_none]
  intro nothing
  exact nothing v hv (by simp [gives.id])

namespace Binding

theorem exists_of_bindInto_error {scope : Scope} {bindings : List Binding} {inputs : Dict String}
    {e : BindingError} (h : bindInto scope inputs bindings = .error e) :
    ∃ binding ∈ bindings, binding.text scope = .error e := by
  induction bindings generalizing inputs with
  | nil => cases h
  | cons binding bindings ih =>
    rcases Except.bind_eq_error_iff.mp h with failed | ⟨text, _, h⟩
    · exact ⟨binding, by simp, failed⟩
    · obtain ⟨other, member, failed⟩ := ih h
      exact ⟨other, List.mem_cons_of_mem _ member, failed⟩

theorem source_of_unknownField {scope : Scope} {binding : Binding} {input id : String}
    (h : binding.text scope = .error (.unknownField input id)) :
    binding.source = .loadInput id ∧ Validated.byId? scope.load id = none ∨
      binding.source = .actionInput id ∧ Validated.byId? scope.action id = none := by
  unfold text at h
  split at h
  next =>
    obtain ⟨_, _, same⟩ := Except.mapError_eq_error_iff.mp h
    cases same
  next source =>
    unfold fieldText at h
    split at h <;> cases h
    next nothing => exact .inl ⟨source, nothing⟩
  next source =>
    unfold fieldText at h
    split at h <;> cases h
    next nothing => exact .inr ⟨source, nothing⟩
  next => split at h <;> cases h

end Binding

namespace Session

variable {project : Project} {session : Session} {request : Request} {moment : Moment}

theorem scope_eq_ok {scope : Scope} (h : session.scope = .ok scope) :
    Field.validateById session.board.loadInputs session.state.loadValues = .ok scope.load ∧
      Field.validateById session.board.actionInputs session.state.actionValues =
        .ok scope.action := by
  unfold Session.scope at h
  dsimp only at h
  split at h <;> cases h
  next load action => exact ⟨load, action⟩

theorem boundInputs_ne_unknownField (grounded : session.board.Grounded project)
    (actionId input id : String) :
    session.boundInputs actionId ≠ .error (.binding (.unknownField input id)) := by
  intro h
  rcases Except.bind_eq_error_iff.mp h with h | ⟨scope, valid, h⟩
  · obtain ⟨_, same⟩ := validation_of_scope h
    cases same
  obtain ⟨e, failed, same⟩ := Except.mapError_eq_error_iff.mp h
  cases same
  obtain ⟨load, action⟩ := scope_eq_ok valid
  obtain ⟨binding, member, unknown⟩ := Binding.exists_of_bindInto_error failed
  have declared : binding ∈ session.board.bindings := (List.mem_filter.mp member).1
  rcases Binding.source_of_unknownField unknown with ⟨source, absent⟩ | ⟨source, absent⟩
  · exact Field.byId?_ne_none (Field.validateAll_eq_ok_iff.mp load)
      (grounded.loadInputs binding declared id source) absent
  · exact Field.byId?_ne_none (Field.validateAll_eq_ok_iff.mp action)
      (grounded.actionInputs binding declared id source) absent

def Request.Declared (actions : List Action) (request : Request) : Prop :=
  ∀ id, request = .runAction id → ∃ action ∈ actions, action.id = id

theorem unbound_not_dangling (grounded : session.board.Grounded project) {actionId : String}
    {e : RunError} (bound : session.boundInputs actionId = .error e) : ¬e.Dangling := by
  have unbound := unbound_of_boundInputs bound
  intro dangling
  cases dangling with
  | unknownField input id => exact boundInputs_ne_unknownField grounded actionId input id bound
  | _ => cases unbound

/-- What an operation is refused for is not that it refers to what there is not. -/
theorem refusal_not_dangling (coherent : Coherent session)
    (grounded : session.board.Grounded project) (declared : request.Declared session.board.actions)
    {e : RunError} (h : (session.perform request moment).answer = .refusal e) :
    ¬e.Dangling := by
  have refused := session.refused request moment h
  generalize session.perform request moment = step at refused h
  cases refused with
  | unknown nothing =>
    obtain ⟨action, member, same⟩ := declared _ rfl
    exact absurd (by simpa using same) (List.find?_eq_none.mp nothing action member)
  | withdrawn pending nothing =>
    obtain ⟨action, found, _⟩ := coherent.pending _ pending
    rw [nothing] at found
    cases found
  | unbound _ _ bound | unready _ _ _ bound =>
    cases h
    exact unbound_not_dangling grounded bound
  | _ =>
    cases h
    exact fun dangling => by cases dangling

theorem exists_app_of_launched (grounded : session.board.Grounded project) {flight : Flight}
    (h : (session.perform request moment).answer = .flight flight) :
    ∃ app ∈ project.apps, app.id = flight.appId := by
  have launched : Turn.flight? ⟨session, .asked request moment⟩ = some flight := by
    simp only [Turn.flight?, Turn.step, Step.flight?, h]
  cases Turn.launches launched with
  | load _ _ _ prepared => exact grounded.prepared _ prepared
  | direct _ _ found => exact grounded.targets _ (List.mem_of_find?_eq_some found)
  | confirmed _ _ _ _ found => exact grounded.targets _ (List.mem_of_find?_eq_some found)

namespace Desk

variable {m : Type → Type} [Monad m] [LawfulMonad m] {bad : RunError → Prop}

theorem always_wait (desk : Desk m) (user : User) (flight : Flight)
    (run : Always (Avoids bad)
      (desk.runner.execute desk.executor desk.freshRunId flight.appId flight.inputs user []).run)
    (reset : ¬bad .sessionReset) :
    Always (fun answer => ∀ e, answer = .refusal e → ¬bad e) (desk.wait user flight) := by
  unfold wait
  refine run.bind fun result avoids => ?_
  refine .after desk.get fun session => ?_
  refine (desk.watches_settle (session.arrive flight result)).always.imp ?_
  rintro _ ⟨_, _, rfl⟩ e answer
  obtain ⟨_, failed | ⟨rfl, _⟩⟩ := refusal_of_arrived (session.arrived flight result) answer
  · exact avoids e failed
  · exact reset

theorem always_follow (desk : Desk m) (user : User) (step : Step)
    (refusal : ∀ e, step.answer = .refusal e → ¬bad e)
    (run : ∀ flight, step.answer = .flight flight → Always (Avoids bad)
      (desk.runner.execute desk.executor desk.freshRunId flight.appId flight.inputs user []).run)
    (reset : ¬bad .sessionReset) (busy : ¬bad .runInFlight) :
    Always (Avoids bad) (desk.follow user step) := by
  unfold follow
  refine (desk.watches_settle step).always.bind ?_
  rintro answer ⟨_, _, rfl⟩
  cases answer : step.answer with
  | reply reply =>
    simp only [pure_bind]
    exact .pure (.ok reply)
  | refusal e =>
    simp only [pure_bind]
    exact .pure (.error (refusal e answer))
  | flight flight =>
    refine (desk.always_wait user flight (run flight answer) reset).bind fun answer good => ?_
    cases answer with
    | reply reply => exact .pure (.ok reply)
    | refusal e => exact .pure (.error (good e rfl))
    | flight flight => exact .pure (.error busy)

end Desk

end Session

/-- Where the checks of a project find no error, its apps are found and compiled for their
resources, and so are those that its dashboards run; actions and inputs are found as well. -/
theorem checked_project_runs {m : Type → Type} [Monad m] [LawfulMonad m] {project : Project}
    (checked : ∀ finding ∈ project.check, finding.isError = false) :
    (∀ collaborators : Collaborators m, collaborators.Serves project → ∀ app ∈ project.apps,
      ∀ (inputs : List RunInput) (user : User) (body : List Pair),
        Always (Avoids RunError.Dangling) (collaborators.compile app.id inputs user body).run ∧
        ∀ (executor : Executor m) (freshId : m String) (record : Event → m Unit),
          Always (Avoids RunError.Dangling)
            (collaborators.run executor freshId record app.id inputs user body).run) ∧
    ∀ dashboard ∈ project.dashboards, ∀ (id : String) (user : User) (limits : Limits)
      (turns : List Session.Turn) (session : Session) (air : List Session.Flight),
      Session.Course (.start id dashboard user limits) turns session air →
      ∀ desk : Session.Desk m, desk.runner.Serves project →
      ∀ (request : Session.Request) (moment : Session.Moment),
        request.Declared dashboard.board.actions →
          Always (Avoids RunError.Dangling)
            (desk.follow session.user (session.perform request moment)) := by
  have sound := Project.sound_of_check checked
  constructor
  · intro collaborators serves app member inputs user body
    exact ⟨serves.always_compile sound member inputs user body, fun executor freshId record =>
      serves.always_run sound executor freshId record member inputs user body⟩
  · intro dashboard member id user limits turns session air course desk serves request moment
      declared
    have grounded : session.board.Grounded project := by
      rw [course.board]
      exact { sound.grounded dashboard member with }
    have coherent := (course.coherent rfl (Session.coherent_fresh rfl)).1
    have actions : session.board.actions = dashboard.board.actions := by
      rw [course.board]
      rfl
    rw [← actions] at declared
    refine desk.always_follow session.user _ (fun e => ?_) (fun flight launched => ?_) ?_ ?_
    · exact Session.refusal_not_dangling coherent grounded declared
    · obtain ⟨app, known, same⟩ := Session.exists_app_of_launched grounded launched
      rw [← same]
      exact serves.always_execute sound desk.executor desk.freshRunId known flight.inputs _ _
    · exact fun dangling => by cases dangling
    · exact fun dangling => by cases dangling

def support : Dashboard :=
  ⟨"support", "", ⟨none, [], [⟨"a-note", "note", .text none, false, none⟩], [Session.refund],
    [⟨"refund", "note", .actionInput "a-note"⟩], ⟨[]⟩⟩⟩

def helpdesk : Project where
  name := none
  resources := [⟨"crm", "", .http ⟨"https://crm.example.com", [], [], []⟩⟩]
  apps := [⟨"pay", "", "crm", [⟨"note", "note", .text none, false, none⟩],
    .http ⟨some .post, "/refunds", [], [], [⟨"note", "\x7bnote\x7d"⟩], false⟩⟩]
  dashboards := [support]
  resourceDirectory := none
  appDirectory := none
  dashboardDirectory := none
  schemaDirectory := none
  user := none
  limits := .standard

def helpdeskDesk : Session.Desk (StateM Session) where
  get := get
  put := set
  runner := Runner.ofProject helpdesk ∅ permitAll
  executor := fun _ _ => return .ok (.success "paid")
  freshRunId := return "run"
  freshConfirmationId := return "c"
  now := return 2
  record := fun _ => return ()

/-- An action that waits to be confirmed will find its app and the field that it is bound to. -/
theorem checked_project_runs_helpdesk :
    (∀ finding ∈ helpdesk.check, finding.isError = false) ∧
    Avoids RunError.Dangling
      ((Runner.ofProject helpdesk ∅ permitAll).compile "pay" [] .anonymous []) ∧
    ∃ turns session, Session.Course (.start "s" support .anonymous .standard) turns session [] ∧
      session.state.gate.pending.isSome = true ∧
      Always (Avoids RunError.Dangling)
        (helpdeskDesk.follow session.user (session.perform (.confirm "b") ⟨2, 2, "c"⟩)) := by
  have checked : ∀ finding ∈ helpdesk.check, finding.isError = false := by decide +kernel
  refine ⟨checked, ?_, ?_⟩
  · have compiled := (checked_project_runs (m := Id) checked).1
      (Runner.ofProject helpdesk ∅ permitAll) (Collaborators.serves_ofProject ..) _
      (List.mem_singleton_self _) [] .anonymous []
    exact compiled.1.of_id
  · have course := Session.Course.asked (.runAction "refund") ⟨1, 1, "b"⟩
      (.asked .load ⟨0, 0, "a"⟩
        (.start : Session.Course (.start "s" support .anonymous .standard) [] _ []))
    refine ⟨_, _, course, rfl, ?_⟩
    refine (checked_project_runs checked).2 support (List.mem_singleton_self _) _ _ _ _ _ _ course
      helpdeskDesk (Collaborators.serves_ofProject ..) (.confirm "b") _ ?_
    rintro id ⟨⟩

end Runbook
