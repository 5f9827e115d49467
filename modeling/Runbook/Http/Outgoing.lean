import Runbook.Failure
import Runbook.Http.Compile
import Runbook.Json.Printer
import Runbook.Text.Base64
import Runbook.Url.Reader

namespace Runbook.Http

structure Outgoing where
  method : String
  url : Url
  /-- In the order in which they are sent; names may repeat. -/
  headers : List (String × String)
  body : Option String
  deriving DecidableEq, Repr

inductive RequestFault where
  | method (name : String)
  | address (e : UrlError)
  | noHost (url : Url)
  | headerName
  | headerValue

namespace RequestFault

def failure (baseUrl : String) : RequestFault → Failure
  | method name => ⟨"invalid HTTP method '" ++ name ++ "'", ["invalid HTTP method"]⟩
  | address e => ⟨"invalid request to " ++ baseUrl, ["builder error", e.message]⟩
  | noHost url => ⟨"invalid request to " ++ baseUrl,
      ["builder error for url (" ++ url.text ++ ")", "URL scheme is not allowed"]⟩
  | headerName => ⟨"invalid request to " ++ baseUrl, ["builder error", "invalid HTTP header name"]⟩
  | headerValue =>
    ⟨"invalid request to " ++ baseUrl, ["builder error", "failed to parse header value"]⟩

end RequestFault

def isToken (s : String) : Bool :=
  let inToken (c : Char) : Bool :=
    Text.isLetter c || Text.isDigit c || "!#$%&'*+-.^_\x60|~".contains c
  s != "" && s.toList.all inToken

def isHeaderValue (s : String) : Bool :=
  s.toList.all fun c => c = '\t' || (0x20 ≤ c.toNat && c.toNat ≠ 0x7F)

def header (pair : Pair) : Except RequestFault (String × String) :=
  if !isToken pair.key then .error .headerName
  else if !isHeaderValue pair.value then .error .headerValue
  else .ok (Text.lower pair.key, pair.value)

/-- The header that carries the credentials of an address. -/
def credentialsHeader (url : Url) : List (String × String) :=
  match Text.percentDecodeText? url.user.toList with
  | none => []
  | some user =>
    let password := url.password.bind fun password => Text.percentDecodeText? password.toList
    if user = "" ∧ password = none then []
    else [("authorization", "Basic " ++ Text.base64 (user ++ ":" ++ password.getD ""))]

def withoutCredentials (url : Url) : Url :=
  if credentialsHeader url = [] then url else { url with user := "", password := none }

def bodyJson (body : List Pair) : Json :=
  (Json.object (body.map fun pair => (pair.key, .string pair.value))).canonical

/-- A body is announced as JSON unless a header says what it is. -/
def contentHeader (headers : List (String × String)) (body : List Pair) : List (String × String) :=
  if body = [] || headers.any (·.1 == "content-type") then []
  else [("content-type", "application/json")]

end Http

namespace HttpRequest

open Http

def outgoing (request : HttpRequest) : Except RequestFault Outgoing := do
  if !isToken request.method then throw (.method request.method)
  let url ← (Url.parse request.baseUrl).mapError .address
  if !url.hasHost then throw (.noHost url)
  let given ← request.headers.mapM header
  let headers := credentialsHeader url ++ given
  return {
    method := request.method
    url := (withoutCredentials url).addQuery (request.parameters.map fun p => (p.key, p.value))
    headers := headers ++ contentHeader headers request.body
    body := if request.body = [] then none else some (bodyJson request.body).compact }

end HttpRequest

end Runbook
