import Runbook.Http.Outgoing
import Runbook.Runner

namespace Runbook.Http

structure Reply where
  status : Nat
  body : String
  deriving DecidableEq, Repr

def reason? (status : Nat) : Option String :=
  match status with
  | 100 => "Continue"
  | 101 => "Switching Protocols"
  | 102 => "Processing"
  | 103 => "Early Hints"
  | 200 => "OK"
  | 201 => "Created"
  | 202 => "Accepted"
  | 203 => "Non Authoritative Information"
  | 204 => "No Content"
  | 205 => "Reset Content"
  | 206 => "Partial Content"
  | 207 => "Multi-Status"
  | 208 => "Already Reported"
  | 226 => "IM Used"
  | 300 => "Multiple Choices"
  | 301 => "Moved Permanently"
  | 302 => "Found"
  | 303 => "See Other"
  | 304 => "Not Modified"
  | 305 => "Use Proxy"
  | 307 => "Temporary Redirect"
  | 308 => "Permanent Redirect"
  | 400 => "Bad Request"
  | 401 => "Unauthorized"
  | 402 => "Payment Required"
  | 403 => "Forbidden"
  | 404 => "Not Found"
  | 405 => "Method Not Allowed"
  | 406 => "Not Acceptable"
  | 407 => "Proxy Authentication Required"
  | 408 => "Request Timeout"
  | 409 => "Conflict"
  | 410 => "Gone"
  | 411 => "Length Required"
  | 412 => "Precondition Failed"
  | 413 => "Payload Too Large"
  | 414 => "URI Too Long"
  | 415 => "Unsupported Media Type"
  | 416 => "Range Not Satisfiable"
  | 417 => "Expectation Failed"
  | 418 => "I'm a teapot"
  | 421 => "Misdirected Request"
  | 422 => "Unprocessable Entity"
  | 423 => "Locked"
  | 424 => "Failed Dependency"
  | 425 => "Too Early"
  | 426 => "Upgrade Required"
  | 428 => "Precondition Required"
  | 429 => "Too Many Requests"
  | 431 => "Request Header Fields Too Large"
  | 451 => "Unavailable For Legal Reasons"
  | 500 => "Internal Server Error"
  | 501 => "Not Implemented"
  | 502 => "Bad Gateway"
  | 503 => "Service Unavailable"
  | 504 => "Gateway Timeout"
  | 505 => "HTTP Version Not Supported"
  | 506 => "Variant Also Negotiates"
  | 507 => "Insufficient Storage"
  | 508 => "Loop Detected"
  | 510 => "Not Extended"
  | 511 => "Network Authentication Required"
  | _ => none

namespace Reply

def statusText (reply : Reply) : String :=
  Text.decimal reply.status ++ " " ++ (reason? reply.status).getD "<unknown status code>"

def isSuccess (reply : Reply) : Bool := 200 ≤ reply.status && reply.status < 300

def mostQuoted : Nat := 200

/-- A code between 200 and 299 is a success with the body as response. -/
def outcome (reply : Reply) : Outcome :=
  if reply.isSuccess then .success reply.body
  else {
    status := "error"
    response := some reply.body
    errorMessage := some ("HTTP " ++ reply.statusText ++ ": " ++
      .ofList (reply.body.toList.take mostQuoted)) }

end Reply

abbrev Transport (m : Type → Type) : Type := Outgoing → m (Except Failure Reply)

variable {m : Type → Type} [Monad m]

/-- Only two schemes are spoken; a failure names the address. -/
def deliver (transport : Transport m) (outgoing : Outgoing) : m (Except Failure Reply) := do
  let address := " for url (" ++ outgoing.url.text ++ ")"
  if outgoing.url.scheme = "http" || outgoing.url.scheme = "https" then
    return (← transport outgoing).mapError (Failure.within ("error sending request" ++ address))
  else return .error ⟨"builder error" ++ address, ["URL scheme is not allowed"]⟩

def send (transport : Transport m) (request : HttpRequest) : m (Except Failure Outcome) := do
  match request.outgoing with
  | .error fault => return .error (fault.failure request.baseUrl)
  | .ok outgoing =>
    let result ← deliver transport outgoing
    return (result.map Reply.outcome).mapError
      (Failure.within ("Failed to reach " ++ request.baseUrl))

def executor (transport : Transport m) : Executor m := fun _ artifact =>
  match artifact with
  | .http request => send transport request
  | artifact =>
    return .error (.ofMessage ("http executor cannot run " ++ artifact.kind ++ " artifacts"))

end Runbook.Http
