import Runbook.Failure
import Runbook.Files
import Runbook.Project
import Runbook.Yaml.Reader

namespace Runbook

inductive LoadError where
  | unreadable (reason : String)
  | malformed (path : String)
  | noDirectory (path : String)
  deriving DecidableEq, Repr

def LoadError.message : LoadError → String
  | unreadable reason => "IO error: " ++ reason
  | malformed path => "YAML parse error in " ++ path
  | noDirectory path => "Configuration error: " ++ path ++ " is not a directory"

def LoadError.failure : LoadError → Failure
  | unreadable reason => ⟨(unreadable reason).message, [reason]⟩
  | e => .ofMessage e.message

namespace Project

variable {m : Type → Type} [Monad m]

def parse {α : Type} (read : Document → Option α) (path text : String) : Except LoadError α :=
  match (Yaml.parse? text).bind read with
  | some value => .ok value
  | none => .error (.malformed path)

def loadFile {α : Type} (files : Files m) (read : Document → Option α) (path : String) :
    ExceptT LoadError m α := do
  match ← (files.read path : m _) with
  | .ok text => parse read path text
  | .error reason => throw (.unreadable reason)

/-- One definition from each file of YAML in a directory, in the order of their names. -/
def loadDirectory {α : Type} (files : Files m) (read : Document → Option α) (path : String) :
    ExceptT LoadError m (List α) := do
  match ← (files.names path : m _) with
  | none => throw (.noDirectory path)
  | some names =>
    let names := names.filter fun name =>
      Path.hasExtension "yaml" name || Path.hasExtension "yml" name
    (names.mergeSort fun a b => a ≤ b).mapM fun name => loadFile files read (Path.join path name)

def loadMore {α : Type} (files : Files m) (read : Document → Option α) (base : String) :
    Option String → ExceptT LoadError m (List α)
  | none => return []
  | some directory => loadDirectory files read (Path.join base directory)

def load (files : Files m) (path : String) : ExceptT LoadError m Project := do
  let project ← loadFile files ofDocument? path
  let base := Path.directory path
  let resources ← loadMore files Resource.ofDocument? base project.resourceDirectory
  let apps ← loadMore files App.ofDocument? base project.appDirectory
  let dashboards ← loadMore files Dashboard.ofDocument? base project.dashboardDirectory
  return { project with
    resources := project.resources ++ resources
    apps := project.apps ++ apps
    dashboards := project.dashboards ++ dashboards
    schemaDirectory := project.schemaDirectory.map (Path.join base) }.normalize

end Project

def Project.schemaPath? (project : Project) (resourceId : String) : Option String :=
  project.schemaDirectory.map fun directory => Path.join directory (resourceId ++ ".json")

end Runbook
