import Runbook.Postgres.Address
import Runbook.Postgres.Binding
import Runbook.Postgres.Introspection
import Runbook.Postgres.Wrapping
import Runbook.Runner

namespace Runbook.Postgres

structure Databases (m : Type → Type) where
  value : Address → String → List Value → m (Except Fault Json)
  affected : Address → String → List Value → m (Except Fault Nat)
  catalog : Address → Catalog m

def values (statement : Sql.Statement) : Except BindFault (List Value) :=
  statement.parameters.mapM fun parameter => Value.ofTyped parameter.value

variable {m : Type → Type} [Monad m]

/-- The URL of a connection, for which the variable that it names is looked up. -/
def source (environment : String → m (Option String)) (connection : PostgresResource) :
    m (Option String) := do
  let found ← match connection.urlVariable with
    | none => pure none
    | some name => environment name
  return connection.address? fun _ => found

def address (environment : String → m (Option String)) (resource : Resource) :
    m (Except Failure Address) := do
  match resource.connection with
  | .postgres connection =>
    match ← source environment connection with
    | some source => return (Address.parse source).mapError AddressError.failure
    | none => return .error (.ofMessage ("resource '" ++ resource.id ++ "' has no connection url"))
  | connection =>
    return .error (.ofMessage
      ("resource '" ++ resource.id ++ "' is a " ++ connection.kind ++ " resource, not postgres"))

/-- The response: the rows if the statement returns any, else how many it affected. -/
def ask (databases : Databases m) (address : Address) (statement : Sql.Statement)
    (values : List Value) : m (Except Fault String) := do
  if returnsRows statement.text then
    let rows ← databases.value address (rowsAsJson statement.text) values
    return rows.map fun rows => rows.canonical.compact
  else
    let count ← databases.affected address statement.text values
    return count.map fun n => (Json.object [("rowsAffected", .natural n)]).compact

/-- A refusal is an outcome; whatever else goes wrong is a failure. -/
def outcome (resource : Resource) : Except Fault String → Except Failure Outcome
  | .ok response => .ok (.success response)
  | .error (.refused message) => .ok (.error message)
  | .error (.other failure) =>
    .error (failure.within ("failed to execute on resource '" ++ resource.id ++ "'"))

def executor (environment : String → m (Option String)) (databases : Databases m) : Executor m :=
  fun resource artifact => do
    match artifact with
    | .sql statement =>
      match ← address environment resource with
      | .error failure => return .error failure
      | .ok address =>
        match values statement with
        | .error fault => return .error (.ofMessage fault.message)
        | .ok values => return outcome resource (← ask databases address statement values)
    | artifact =>
      return .error (.ofMessage ("postgres executor cannot run " ++ artifact.kind ++ " artifacts"))

def introspect (databases : Databases m) (source : String) : m (Except Failure Schema) := do
  match Address.parse source with
  | .error e => return .error e.failure
  | .ok address =>
    let schema ← (databases.catalog address).schema.run
    return schema.mapError Fault.failure

end Runbook.Postgres
