import Runbook.RunError

namespace Runbook

inductive Artifact where
  | http (request : HttpRequest)
  | sql (statement : Sql.Statement)
  deriving DecidableEq, Repr

namespace Artifact

def kind : Artifact → String
  | http _ => "http"
  | sql _ => "sql"

def toJson (artifact : Artifact) : Json :=
  .object (("kind", .string artifact.kind) :: match artifact with
    | http request => request.members
    | sql statement => statement.members)

def suits : Artifact → Connection → Bool
  | http _, .http _ => true
  | sql _, .postgres _ => true
  | _, _ => false

end Artifact

def Operation.connectionKind : Operation → String
  | http _ => "http"
  | sql _ => "postgres"

def App.compile (app : App) (resource : Resource) (values : Dict String) (user : User)
    (body : List Pair) (mostPairs : Nat) (schema : Option Schema) : Except RunError Artifact :=
  match app.operation, resource.connection with
  | .http operation, .http service =>
    match Http.compile service operation app.inputs values user body mostPairs with
    | .ok request => .ok (.http request)
    | .error e => .error (.httpCompile e)
  | .sql query, .postgres _ =>
    match Sql.compile query app.inputs values user schema with
    | .ok statement => .ok (.sql statement)
    | .error e => .error (.sqlCompile e)
  | operation, connection =>
    .error (.resourceMismatch app.id resource.id operation.connectionKind connection.kind)

theorem App.suits_of_compile {app : App} {resource : Resource} {values : Dict String} {user : User}
    {body : List Pair} {mostPairs : Nat} {schema : Option Schema} {artifact : Artifact}
    (h : app.compile resource values user body mostPairs schema = .ok artifact) :
    artifact.suits resource.connection = true := by
  unfold App.compile at h
  split at h
  next hc =>
    split at h <;> cases h
    simp [Artifact.suits, hc]
  next hc =>
    split at h <;> cases h
    simp [Artifact.suits, hc]
  next => cases h

end Runbook
