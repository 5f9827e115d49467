import Runbook.Proofs.Deeds
import Runbook.Proofs.Results

namespace Runbook

/-- The errors that keep a run from the executor. -/
inductive Runner.Hindrance : RunError → Prop where
  | collaborator (failure : Failure) : Hindrance (.collaborator failure)
  | appNotFound (id : String) : Hindrance (.appNotFound id)
  | resourceNotFound (id : String) : Hindrance (.resourceNotFound id)
  | notPermitted (appId : String) : Hindrance (.notPermitted appId)
  | resourceMismatch (appId resourceId expected actual : String) :
    Hindrance (.resourceMismatch appId resourceId expected actual)
  | httpCompile (e : Http.CompileError) : Hindrance (.httpCompile e)
  | sqlCompile (e : Sql.CompileError) : Hindrance (.sqlCompile e)

namespace Collaborators

/-- How the search for an app and its resource goes: what is asked, and what comes of it. -/
inductive Finding (appId : String) : List Deed → Except RunError (App × Resource) → Prop where
  | appFailed (failure : Failure) :
    Finding appId [.app appId (.error failure)]
      (.error (.collaborator (failure.within ("failed to load app '" ++ appId ++ "'"))))
  | appNotFound : Finding appId [.app appId (.ok none)] (.error (.appNotFound appId))
  | resourceFailed (app : App) (failure : Failure) :
    Finding appId [.app appId (.ok (some app)), .resource app.resourceId (.error failure)]
      (.error (.collaborator
        (failure.within ("failed to load resource '" ++ app.resourceId ++ "'"))))
  | resourceNotFound (app : App) :
    Finding appId [.app appId (.ok (some app)), .resource app.resourceId (.ok none)]
      (.error (.resourceNotFound app.resourceId))
  | found (app : App) (resource : Resource) :
    Finding appId [.app appId (.ok (some app)), .resource app.resourceId (.ok (some resource))]
      (.ok (app, resource))

inductive Permitting (user : User) (app : App) : List Deed → Except RunError Unit → Prop where
  | failed (failure : Failure) :
    Permitting user app [.permit user app (.error failure)]
      (.error (.collaborator (failure.within ("run policy failed for app '" ++ app.id ++ "'"))))
  | denied : Permitting user app [.permit user app (.ok false)] (.error (.notPermitted app.id))
  | granted : Permitting user app [.permit user app (.ok true)] (.ok ())

def NeedsSchema (app : App) : Prop := ∃ query, app.operation = .sql (.gui query)

/-- How a schema snapshot is asked for, if one is needed. -/
inductive Snapshotting (app : App) (resource : Resource) :
    List Deed → Except RunError (Option Schema) → Prop where
  | needless (nothing : ¬ NeedsSchema app) : Snapshotting app resource [] (.ok .none)
  | failed (needed : NeedsSchema app) (failure : Failure) :
    Snapshotting app resource [.schema resource.id (.error failure)]
      (.error (.collaborator
        (failure.within ("failed to load schema for '" ++ resource.id ++ "'"))))
  | known (needed : NeedsSchema app) (schema : Option Schema) :
    Snapshotting app resource [.schema resource.id (.ok schema)] (.ok schema)

section

variable (limits : Limits) (appId : String) (values : Dict String) (user : User)
  (body : List Pair)

def Compiling (app : App) (resource : Resource) : List Deed → Except RunError Artifact → Prop :=
  Then (Snapshotting app resource) fun schema deeds result => deeds = [] ∧
    app.compile resource values user body limits.dynamicBodyPairs.toNat schema = result

/-- How a run goes until its artifact is ready for the executor. -/
def Calling : List Deed → Except RunError Call → Prop :=
  Then (Finding appId) fun found => Then (Permitting user found.1) fun _ =>
    Then (Compiling limits values user body found.1 found.2) fun artifact deeds result =>
      deeds = [] ∧ result = .ok ⟨found.1.id, found.2, artifact⟩

/-- How a run goes to its end. -/
def Executing : List Deed → Except RunError Execution → Prop :=
  Then (Calling limits appId values user body) fun call deeds result =>
    ∃ runId answer, deeds = [.execution call.resource call.artifact answer] ∧
      result = .ok ⟨runId, call.appId, Runner.outcome answer⟩

end

variable {m : Type → Type} [Monad m] [LawfulMonad m]

theorem watches_find (collaborators : Collaborators m) (appId : String) :
    Watches (Finding appId) (collaborators.watched.find appId).run
      (collaborators.find appId).run := by
  unfold find
  refine .askThen .appFailed fun app? => ?_
  cases app? with
  | none => exact .pure .appNotFound
  | some app =>
    refine .askThen (.resourceFailed app) fun resource? => ?_
    cases resource? with
    | none => exact .pure (.resourceNotFound app)
    | some resource => exact .pure (.found app resource)

theorem watches_permit (collaborators : Collaborators m) (user : User) (app : App) :
    Watches (Permitting user app) (collaborators.watched.permit user app).run
      (collaborators.permit user app).run := by
  unfold permit
  refine .askThen .failed fun permitted => ?_
  cases permitted with
  | false => exact .pure .denied
  | true => exact .pure .granted

theorem watches_schemaFor (collaborators : Collaborators m) (app : App) (resource : Resource) :
    Watches (Snapshotting app resource) (collaborators.watched.schemaFor app resource).run
      (collaborators.schemaFor app resource).run := by
  unfold schemaFor
  split
  next query operation =>
    have needed : NeedsSchema app := ⟨query, operation⟩
    refine (Watches.ask _ _ _).imp fun deeds result h => ?_
    obtain ⟨answer, rfl, rfl⟩ := h
    cases answer with
    | error failure => exact .failed needed failure
    | ok schema => exact .known needed schema
  next other =>
    exact .pure (.needless fun ⟨query, operation⟩ => other query operation)

theorem watches_compileFor (collaborators : Collaborators m) (app : App) (resource : Resource)
    (values : Dict String) (user : User) (body : List Pair) :
    Watches (Compiling collaborators.limits values user body app resource)
      (collaborators.watched.compileFor app resource values user body).run
      (collaborators.compileFor app resource values user body).run :=
  (collaborators.watches_schemaFor app resource).andThen fun _ => .fixed ⟨rfl, rfl⟩

theorem watches_call (collaborators : Collaborators m) (appId : String) (values : Dict String)
    (user : User) (body : List Pair) :
    Watches (Calling collaborators.limits appId values user body)
      (collaborators.watched.call appId values user body).run
      (collaborators.call appId values user body).run := by
  refine (collaborators.watches_find appId).andThen fun found => ?_
  refine (collaborators.watches_permit user found.1).andThen fun _ => ?_
  refine (collaborators.watches_compileFor found.1 found.2 values user body).andThen fun _ => ?_
  exact .pure ⟨rfl, rfl⟩

theorem watches_execute (executor : Executor m) (freshId : m String)
    (collaborators : Collaborators m) (appId : String) (values : Dict String) (user : User)
    (body : List Pair) :
    Watches (Executing collaborators.limits appId values user body)
      (collaborators.watched.execute (Executor.watched executor) (liftM freshId) appId values user
        body).run
      (collaborators.execute executor freshId appId values user body).run := by
  refine (collaborators.watches_call appId values user body).andThen fun call => ?_
  refine .afterThen freshId fun runId => ?_
  have answered := Watches.note (executor call.resource call.artifact)
    (.execution call.resource call.artifact)
  refine (answered.liftedThen fun answer => .pure (P := fun deeds result => deeds = [] ∧
    result = .ok ⟨runId, call.appId, Runner.outcome answer⟩) ⟨rfl, rfl⟩).imp ?_
  rintro _ _ ⟨answer, _, _, rfl, ⟨rfl, rfl⟩, rfl⟩
  exact ⟨runId, answer, rfl, rfl⟩

end Collaborators

namespace Runner

open Collaborators

variable {limits : Limits} {appId : String} {values : Dict String} {user : User}
  {body : List Pair} {e : RunError}

theorem hindrance_of_compile {app : App} {resource : Resource} {mostPairs : Nat}
    {schema : Option Schema}
    (h : app.compile resource values user body mostPairs schema = .error e) : Hindrance e := by
  unfold App.compile at h
  split at h
  next =>
    split at h <;> cases h
    exact .httpCompile _
  next =>
    split at h <;> cases h
    exact .sqlCompile _
  next =>
    cases h
    exact .resourceMismatch _ _ _ _

theorem hindrance_of_compiling {app : App} {resource : Resource} {deeds : List Deed}
    (h : Compiling limits values user body app resource deeds (.error e)) : Hindrance e := by
  rcases h with h | ⟨_, _, h⟩
  · cases h
    exact .collaborator _
  · exact hindrance_of_compile h

theorem hindrance_of_calling {deeds : List Deed}
    (h : Calling limits appId values user body deeds (.error e)) : Hindrance e := by
  rcases h with h | ⟨_, h⟩
  · cases h with
    | appFailed => exact .collaborator _
    | appNotFound => exact .appNotFound _
    | resourceFailed => exact .collaborator _
    | resourceNotFound => exact .resourceNotFound _
  rcases h with h | ⟨_, h⟩
  · cases h with
    | failed => exact .collaborator _
    | denied => exact .notPermitted _
  rcases h with h | ⟨_, _, h⟩
  · exact hindrance_of_compiling h
  · cases h

/-- Only such an error can be what a run comes to, whatever collaborators and executors do. -/
theorem always_hindrance {m : Type → Type} [Monad m] [LawfulMonad m] (executor : Executor m)
    (freshId : m String) (collaborators : Collaborators m) (appId : String) (values : Dict String)
    (user : User) (body : List Pair) :
    Always (fun result => ∀ e, result = .error e → Hindrance e)
      (collaborators.execute executor freshId appId values user body).run := by
  refine (watches_execute executor freshId collaborators appId values user body).always.imp ?_
  rintro _ ⟨_, executing⟩ e rfl
  rcases executing with calling | ⟨_, _, _, _, same⟩
  · exact hindrance_of_calling calling
  · cases same

end Runner

end Runbook
