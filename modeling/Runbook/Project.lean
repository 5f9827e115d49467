import Runbook.App
import Runbook.Dashboard.Check
import Runbook.Limits
import Runbook.User

namespace Runbook

structure Project where
  name : Option String
  resources : List Resource
  apps : List App
  dashboards : List Dashboard
  resourceDirectory : Option String
  appDirectory : Option String
  dashboardDirectory : Option String
  schemaDirectory : Option String
  user : Option User
  limits : Limits
  deriving DecidableEq, Repr

namespace Project

def toJson (project : Project) : Json :=
  let text (s : Option String) : Json := Json.orNull (s.map .string)
  .object [("project", text project.name),
    ("resources", .array (project.resources.map Resource.toJson)),
    ("apps", .array (project.apps.map App.toJson)),
    ("dashboards", .array (project.dashboards.map Dashboard.toJson)),
    ("resources_dir", text project.resourceDirectory), ("apps_dir", text project.appDirectory),
    ("dashboards_dir", text project.dashboardDirectory),
    ("schema_dir", text project.schemaDirectory),
    ("current_user", Json.orNull (project.user.map User.toJson)),
    ("limits", project.limits.toJson)]

def ofDocument? (document : Document) : Option Project := do
  let fields ← document.fields?
    ["project", "resources", "apps", "dashboards", "resources_dir", "apps_dir", "dashboards_dir",
     "schema_dir", "current_user", "limits"]
  let name ← fields.perhaps? "project" Document.text?
  let resources ← fields.given? "resources" [] (Document.listOf? Resource.ofDocument?)
  let apps ← fields.given? "apps" [] (Document.listOf? App.ofDocument?)
  let dashboards ← fields.given? "dashboards" [] (Document.listOf? Dashboard.ofDocument?)
  let resourceDirectory ← fields.perhaps? "resources_dir" Document.text?
  let appDirectory ← fields.perhaps? "apps_dir" Document.text?
  let dashboardDirectory ← fields.perhaps? "dashboards_dir" Document.text?
  let schemaDirectory ← fields.perhaps? "schema_dir" Document.text?
  let user ← fields.perhaps? "current_user" User.ofDocument?
  let limits ← fields.given? "limits" Limits.standard Limits.ofDocument?
  return ⟨name, resources, apps, dashboards, resourceDirectory, appDirectory, dashboardDirectory,
    schemaDirectory, user, limits⟩

def resource? (project : Project) (id : String) : Option Resource :=
  project.resources.find? (·.id == id)

def app? (project : Project) (id : String) : Option App := project.apps.find? (·.id == id)

def dashboard? (project : Project) (id : String) : Option Dashboard :=
  project.dashboards.find? (·.id == id)

def normalize (project : Project) : Project :=
  { project with dashboards := project.dashboards.map Dashboard.normalize }

def duplicateIds (kind : String) (ids : List String) : List Finding :=
  (repeated [] ids).map fun id =>
    .error kind ("Duplicate id '" ++ id ++ "'") (kind ++ "." ++ id)

def resourceProblems (project : Project) (app : App) : List String :=
  match project.resource? app.resourceId with
  | none => ["App references unknown resource '" ++ app.resourceId ++ "'"]
  | some resource =>
    (if app.operation.suits resource.connection then []
      else ["App operation does not match " ++ resource.connection.kind ++ " resource '" ++
        resource.id ++ "'"]) ++
    match app.operation with
    | .http ⟨none, _, _, _, _, _⟩ => ["HTTP app has no method"]
    | _ => []

def appFindings (project : Project) (app : App) : List Finding :=
  let location := "apps." ++ app.id
  Field.check (location ++ ".inputs") app.inputs ++
    (project.resourceProblems app).map fun message => .error "apps" message location

def missingApps (project : Project) (location : String) (board : Board) : List Finding :=
  (match board.prepareAppId with
    | some id =>
      if (project.app? id).isNone then
        [.error "dashboards" ("Prepare app '" ++ id ++ "' does not exist") location]
      else []
    | none => []) ++
  (board.actions.filter fun action => (project.app? action.appId).isNone).map fun action =>
    .error "dashboards"
      ("Action '" ++ action.id ++ "' targets unknown app '" ++ action.appId ++ "'")
      (location ++ ".actions." ++ action.id)

def dashboardFindings (project : Project) (dashboard : Dashboard) : List Finding :=
  let location := "dashboards." ++ dashboard.id
  dashboard.board.check location ++ project.missingApps location dashboard.board

def check (project : Project) : List Finding :=
  duplicateIds "resources" (project.resources.map (·.id)) ++
    duplicateIds "apps" (project.apps.map (·.id)) ++
    duplicateIds "dashboards" (project.dashboards.map (·.id)) ++
    project.apps.flatMap project.appFindings ++
    project.dashboards.flatMap project.dashboardFindings

end Project

end Runbook
