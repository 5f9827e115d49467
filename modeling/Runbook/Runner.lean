import Runbook.Artifact
import Runbook.Event
import Runbook.Project

namespace Runbook

/-- What runs depend on: definitions, schema snapshots, a policy and limits. All but the limits are
asked in the course of a run, and may answer the same question differently another time. -/
structure Collaborators (m : Type → Type) where
  app : String → m (Except Failure (Option App))
  resource : String → m (Except Failure (Option Resource))
  schema : String → m (Except Failure (Option Schema))
  permits : User → App → m (Except Failure Bool)
  limits : Limits

/-- Collaborators whose answers are known beforehand. -/
structure Runner where
  app : String → Except Failure (Option App)
  resource : String → Except Failure (Option Resource)
  schema : String → Except Failure (Option Schema)
  permits : User → App → Except Failure Bool
  limits : Limits

structure Call where
  appId : String
  resource : Resource
  artifact : Artifact

structure Execution where
  runId : String
  appId : String
  outcome : Outcome
  deriving DecidableEq, Repr

def Execution.report (execution : Execution) : Report := ⟨execution.runId, execution.outcome⟩

/-- What carries out artifacts, or fails to. -/
abbrev Executor (m : Type → Type) : Type := Resource → Artifact → m (Except Failure Outcome)

/-- The outcome of a call: a failure of the executor is an outcome as well. -/
def Runner.outcome : Except Failure Outcome → Outcome
  | .ok outcome => outcome
  | .error failure => .error failure.line

def Runner.event (user : User) (execution : Execution) : Event :=
  ⟨user.id, none, .appExecuted execution.appId execution.runId execution.outcome.status⟩

namespace Collaborators

variable {m : Type → Type} [Monad m]

def ask {α : Type} (context : String) (answer : m (Except Failure α)) : ExceptT RunError m α :=
  ExceptT.mk do
    return (← answer).mapError fun failure => .collaborator (failure.within context)

def find (collaborators : Collaborators m) (appId : String) :
    ExceptT RunError m (App × Resource) := do
  let some app ← ask ("failed to load app '" ++ appId ++ "'") (collaborators.app appId)
    | throw (.appNotFound appId)
  let some resource ←
      ask ("failed to load resource '" ++ app.resourceId ++ "'")
        (collaborators.resource app.resourceId)
    | throw (.resourceNotFound app.resourceId)
  return (app, resource)

def permit (collaborators : Collaborators m) (user : User) (app : App) :
    ExceptT RunError m Unit := do
  let permitted ←
    ask ("run policy failed for app '" ++ app.id ++ "'") (collaborators.permits user app)
  if permitted then return else throw (.notPermitted app.id)

/-- The schema snapshot that an app needs; only queries put together from parts need one. -/
def schemaFor (collaborators : Collaborators m) (app : App) (resource : Resource) :
    ExceptT RunError m (Option Schema) :=
  match app.operation with
  | .sql (.gui _) =>
    ask ("failed to load schema for '" ++ resource.id ++ "'") (collaborators.schema resource.id)
  | _ => return none

def compileFor (collaborators : Collaborators m) (app : App) (resource : Resource)
    (values : Dict String) (user : User) (body : List Pair) : ExceptT RunError m Artifact := do
  let schema ← collaborators.schemaFor app resource
  liftExcept
    (app.compile resource values user body collaborators.limits.dynamicBodyPairs.toNat schema)

def collect (collaborators : Collaborators m) (inputs : List RunInput) :
    Except RunError (Dict String) :=
  (RunInput.collect collaborators.limits inputs).mapError .invalidRunInput

/-- The artifact of an app for given inputs, whoever is permitted to run it. -/
def compile (collaborators : Collaborators m) (appId : String) (inputs : List RunInput)
    (user : User) (body : List Pair) : ExceptT RunError m Artifact := do
  let values ← liftExcept (collaborators.collect inputs)
  let (app, resource) ← collaborators.find appId
  collaborators.compileFor app resource values user body

/-- Everything up to the executor, for values by the labels of the inputs. -/
def call (collaborators : Collaborators m) (appId : String) (values : Dict String) (user : User)
    (body : List Pair) : ExceptT RunError m Call := do
  let (app, resource) ← collaborators.find appId
  collaborators.permit user app
  let artifact ← collaborators.compileFor app resource values user body
  return ⟨app.id, resource, artifact⟩

/-- Runs an app; the second argument supplies the id of the run. -/
def execute (executor : Executor m) (freshId : m String) (collaborators : Collaborators m)
    (appId : String) (values : Dict String) (user : User) (body : List Pair) :
    ExceptT RunError m Execution := do
  let call ← collaborators.call appId values user body
  let runId ← freshId
  let answer ← executor call.resource call.artifact
  return ⟨runId, call.appId, Runner.outcome answer⟩

/-- Runs an app for given inputs, and records it. -/
def run (executor : Executor m) (freshId : m String) (record : Event → m Unit)
    (collaborators : Collaborators m) (appId : String) (inputs : List RunInput) (user : User)
    (body : List Pair) : ExceptT RunError m Report := do
  let values ← liftExcept (collaborators.collect inputs)
  let execution ← collaborators.execute executor freshId appId values user body
  record (Runner.event user execution)
  return execution.report

end Collaborators

namespace Runner

variable {m : Type → Type} [Monad m]

def collaborators (runner : Runner) : Collaborators m where
  app := fun id => return runner.app id
  resource := fun id => return runner.resource id
  schema := fun id => return runner.schema id
  permits := fun user app => return runner.permits user app
  limits := runner.limits

instance : Coe Runner (Collaborators m) := ⟨collaborators⟩

def compile (runner : Runner) (appId : String) (inputs : List RunInput) (user : User)
    (body : List Pair) : Except RunError Artifact :=
  Id.run (runner.collaborators.compile appId inputs user body).run

def execute (executor : Executor m) (freshId : m String) (runner : Runner) (appId : String)
    (values : Dict String) (user : User) (body : List Pair) : m (Except RunError Execution) :=
  (runner.collaborators.execute executor freshId appId values user body).run

def run (executor : Executor m) (freshId : m String) (record : Event → m Unit) (runner : Runner)
    (appId : String) (inputs : List RunInput) (user : User) (body : List Pair) :
    m (Except RunError Report) :=
  (runner.collaborators.run executor freshId record appId inputs user body).run

/-- The definitions of a project; of several with one id the last counts. -/
def ofProject (project : Project) (schemas : Dict Schema)
    (permits : User → App → Except Failure Bool) : Runner where
  app := fun id => .ok (Dict.ofPairs (project.apps.map fun app => (app.id, app)))[id]?
  resource := fun id => .ok (Dict.ofPairs (project.resources.map fun r => (r.id, r)))[id]?
  schema := fun id => .ok schemas[id]?
  permits := permits
  limits := project.limits

end Runner

def permitAll (_ : User) (_ : App) : Except Failure Bool := .ok true

def permitOnly (appIds : List String) (_ : User) (app : App) : Except Failure Bool :=
  .ok (app.id ∈ appIds)

structure Executors (m : Type → Type) where
  http : Option (Executor m)
  sql : Option (Executor m)

def Executors.dispatch {m : Type → Type} [Monad m] (executors : Executors m) : Executor m :=
  fun resource artifact =>
    let executor := match artifact with
      | .http _ => executors.http
      | .sql _ => executors.sql
    match executor with
    | some executor => executor resource artifact
    | none =>
      return .error (.ofMessage ("no executor configured for " ++ artifact.kind ++ " artifacts"))

end Runbook
