import Runbook.Http.Exchange
import Runbook.Postgres.Exchange

namespace Runbook

structure Network (m : Type → Type) where
  http : Http.Transport m
  databases : Postgres.Databases m

namespace Network

variable {m : Type → Type} [Monad m]

def executors (environment : String → m (Option String)) (network : Network m) : Executors m :=
  ⟨some (Http.executor network.http), some (Postgres.executor environment network.databases)⟩

def unreachable : String := "Network is unreachable (os error 101)"

def hostReason : Host → String
  | .name "localhost" => unreachable
  | .name _ => "failed to lookup address information: Temporary failure in name resolution"
  | _ => unreachable

def httpFailure (outgoing : Http.Outgoing) : Failure :=
  let reason := hostReason (outgoing.url.host.getD (.name ""))
  let stage := if reason = unreachable then "tcp connect error" else "dns error"
  ⟨"client error (Connect)", [stage, reason]⟩

def databaseReason (address : Postgres.Address) : String :=
  if address.socket.isSome || Text.startsWith address.host "/" then
    "No such file or directory (os error 2)"
  else if (Host.ipv4? address.host.toList).isSome || Host.isNumeric address.host.toList then
    unreachable
  else hostReason (.name address.host)

def databaseFault (address : Postgres.Address) : Postgres.Fault :=
  let reason := databaseReason address
  .other ⟨"error communicating with database: " ++ reason, [reason]⟩

/-- No service can be reached. -/
def isolated : Network m where
  http := fun outgoing => return .error (httpFailure outgoing)
  databases := {
    value := fun address _ _ => return .error (databaseFault address)
    affected := fun address _ _ => return .error (databaseFault address)
    catalog := fun address => {
      tables := return .error (databaseFault address)
      key := fun _ _ => return .error (databaseFault address)
      columns := fun _ _ => return .error (databaseFault address) } }

end Network

end Runbook
