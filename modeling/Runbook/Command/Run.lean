import Runbook.Command
import Runbook.Command.Check
import Runbook.Json.Reader
import Runbook.Project.Load
import Runbook.Session.Desk
import Runbook.System

namespace Runbook

def User.localUser : User := { User.anonymous with id := "local" }

def Project.runningUser (project : Project) : User := project.user.getD .localUser

namespace Command

variable {m : Type → Type} [Monad m]

def loadProject (system : System m) (path : String) : ExceptT Failure m Project := do
  match ← ExceptT.lift (Project.load system.files path).run with
  | .ok project => return project
  | .error e => throw (e.failure.within ("Failed to load " ++ path))

def printJson {n : Type → Type} [MonadLiftT m n] (system : System m) (json : Json) : n Unit :=
  liftM (system.out (json.pretty ++ "\n"))

def loadSnapshot (system : System m) (path : String) : ExceptT Failure m (Option Schema) := do
  if ← ExceptT.lift (system.present path) then
    match ← ExceptT.lift (system.files.read path) with
    | .error reason => throw ⟨"Failed to read " ++ path, [reason]⟩
    | .ok text =>
      match (Document.ofJsonText? text).bind Schema.ofDocument? with
      | some schema => return some schema
      | none => throw (.ofMessage ("Invalid schema snapshot " ++ path))
  else return none

def snapshotOf (system : System m) (project : Project) (resource : Resource) :
    ExceptT Failure m (Option Schema) :=
  match resource.connection, project.schemaPath? resource.id with
  | .postgres _, some path => loadSnapshot system path
  | _, _ => return none

def snapshots (system : System m) (project : Project) : ExceptT Failure m (Dict Schema) :=
  project.resources.foldlM (fun schemas resource => do
    match ← snapshotOf system project resource with
    | some schema => return schemas.insert resource.id schema
    | none => return schemas) ∅

def runner (system : System m) (project : Project) : ExceptT Failure m Runner := do
  return .ofProject project (← snapshots system project) permitAll

def executor (system : System m) : Executor m :=
  (system.network.executors system.environment).dispatch

/-- Nothing is kept of the audit trail. -/
def record (_ : Event) : m Unit := return

def runInputs (pairs : List Pair) : List RunInput := pairs.map fun pair => ⟨pair.key, pair.value⟩

def compileApp (system : System m) (path appId : String) (inputs body : List Pair) :
    ExceptT Failure m Unit := do
  let project ← loadProject system path
  let runner ← runner system project
  match runner.compile appId (runInputs inputs) project.runningUser body with
  | .ok artifact => printJson system artifact.toJson
  | .error e => throw e.failure

def runApp (system : System m) (path appId : String) (inputs body : List Pair) :
    ExceptT Failure m Unit := do
  let project ← loadProject system path
  let runner ← runner system project
  let result ← ExceptT.lift
    (runner.run (executor system) system.freshId record appId (runInputs inputs)
      project.runningUser body)
  match result with
  | .error e => throw e.failure
  | .ok report =>
    printJson system (report.toJson .direct)
    if !report.outcome.isSuccess then
      throw (.ofMessage
        ("App '" ++ appId ++ "' finished with status '" ++ report.outcome.status ++ "'"))

abbrev Work (m : Type → Type) : Type → Type := ExceptT Failure (StateT Session m)

def desk (system : System m) (runner : Runner) : Session.Desk (StateT Session m) where
  get := get
  put := set
  runner := runner
  executor := fun resource artifact => liftM (executor system resource artifact)
  freshRunId := liftM system.freshId
  freshConfirmationId := liftM system.freshId
  now := liftM system.now
  record := record

def operate (desk : Session.Desk (StateT Session m)) (request : Session.Request) :
    Work m Session.Reply := do
  match ← ExceptT.lift (desk.operate request) with
  | .ok reply => return reply
  | .error e => throw e.failure

def isYes (answer : String) : Bool := ["y", "yes"].contains (Text.lower (Text.trim answer))

def confirms (system : System m) (confirmation : Confirmation) : m Bool := do
  system.err ("⚠️  " ++ confirmation.title ++ "\n   " ++ confirmation.message ++
    "\nContinue? [y/N] ")
  return isYes (← system.readLine)

def runAction (system : System m) (desk : Session.Desk (StateT Session m)) (actionId : String)
    (confirmed : Bool) : Work m Unit := do
  let print (reply : Session.Reply) : Work m Unit := do
    if let .completed report := reply then printJson system (report.toJson .action)
  match ← operate desk (.runAction actionId) with
  | .confirmation confirmation =>
    if ← (if confirmed then pure true else liftM (confirms system confirmation)) then
      print (← operate desk (.confirm confirmation.id))
    else
      let _ ← operate desk .cancelConfirmation
      system.err "Cancelled.\n"
  | reply => print reply

def workOnDashboard (system : System m) (desk : Session.Desk (StateT Session m))
    (dashboardId : String) (load : List Pair) (action : Option String) (actionInputs : List Pair)
    (confirmed : Bool) : Work m Unit := do
  for pair in load do
    let _ ← operate desk (.setLoadValue pair.key pair.value)
  if let .loaded (some report) ← operate desk .load then
    printJson system (report.toJson .prepare)
  let session ← ExceptT.lift get
  if session.state.phase ≠ .postLoad then
    throw (.ofMessage ("Dashboard '" ++ dashboardId ++ "' did not finish loading"))
  if let some actionId := action then
    for pair in actionInputs do
      let _ ← operate desk (.setActionValue pair.key pair.value)
    runAction system desk actionId confirmed
  let session ← ExceptT.lift get
  printJson system session.toJson

def runDashboard (system : System m) (path dashboardId : String) (load : List Pair)
    (action : Option String) (actionInputs : List Pair) (confirmed : Bool) :
    ExceptT Failure m Unit := do
  let project ← loadProject system path
  let some found := project.dashboard? dashboardId
    | throw (.ofMessage ("Dashboard '" ++ dashboardId ++ "' not found"))
  let runner ← runner system project
  let session := Session.start (← system.freshId) found project.runningUser project.limits
  let work := workOnDashboard system (desk system runner) dashboardId load action actionInputs
    confirmed
  ExceptT.mk ((work.run).run' session)

def checkProject (system : System m) (path : String) : ExceptT Failure m Unit := do
  system.out ("🔍 Checking " ++ path ++ "...\n")
  let findings := (← loadProject system path).findings
  system.out (CheckReport.text findings)
  let errors := (CheckReport.errors findings).length
  if 0 < errors then
    throw (.ofMessage
      ("Configuration has " ++ Text.decimal errors ++ " error(s) that must be fixed."))

def snapshotTarget (system : System m) (project : Project) (resourceId : String) :
    ExceptT Failure m (String × String) := do
  let quoted := "Resource '" ++ resourceId ++ "' "
  let some resource := project.resource? resourceId | throw (.ofMessage (quoted ++ "not found"))
  match resource.connection with
  | .postgres connection =>
    let some url ← ExceptT.lift (Postgres.source system.environment connection)
      | throw (.ofMessage (quoted ++ "has no connection URL"))
    let some path := project.schemaPath? resourceId
      | throw (.ofMessage
          "Set \x60schema_dir\x60 in the project configuration to store schema snapshots")
    return (url, path)
  | connection =>
    throw (.ofMessage (quoted ++ "is a " ++ connection.kind ++
      " resource; only postgres resources have a schema"))

def attempt (context : String) (answer : m (Except String Unit)) : ExceptT Failure m Unit := do
  match ← ExceptT.lift answer with
  | .ok () => return
  | .error reason => throw ⟨context, [reason]⟩

def takeSnapshot (system : System m) (path resourceId : String) : ExceptT Failure m Unit := do
  let project ← loadProject system path
  let (url, target) ← snapshotTarget system project resourceId
  match ← ExceptT.lift (Postgres.introspect system.network.databases url) with
  | .error failure =>
    throw (failure.within ("Failed to introspect resource '" ++ resourceId ++ "'"))
  | .ok schema =>
    let directory := Path.directory target
    attempt ("Failed to create " ++ directory) (system.createDirectory directory)
    attempt ("Failed to write " ++ target) (system.write target schema.toJson.pretty)
    system.out ("✅ Wrote " ++ target ++ "\n")

def carryOut (system : System m) (path : String) : Command → ExceptT Failure m Unit
  | check => checkProject system path
  | compile appId inputs body => compileApp system path appId inputs body
  | run appId inputs body => runApp system path appId inputs body
  | dashboard id load action actionInputs confirmed =>
    runDashboard system path id load action actionInputs confirmed
  | snapshot resourceId => takeSnapshot system path resourceId

end Command

namespace Invocation

variable {m : Type → Type} [Monad m]

def usage : String :=
  "Usage: runbook [--config FILE] check | compile APP | run APP | dashboard ID | schema snapshot\n"

/-- The path of the project's file: as given, or of the environment, or the usual one. -/
def projectPath (system : System m) (invocation : Invocation) : m String := do
  match invocation.path with
  | some path => return path
  | none => return (← system.environment "STENCIL_CONFIG").getD "stencil.yaml"

/-- The exit code of the program: 1 after a failure, 2 if the arguments are no command. -/
def main (system : System m) (arguments : List String) : m UInt8 := do
  let misused : m UInt8 := do
    system.err usage
    return 2
  match ofArguments? arguments with
  | none => misused
  | some invocation =>
    let path ← invocation.projectPath system
    if path = "" then misused
    else match ← (invocation.command.carryOut system path).run with
      | .ok () => return 0
      | .error failure =>
        system.err failure.report
        return 1

end Invocation

end Runbook
