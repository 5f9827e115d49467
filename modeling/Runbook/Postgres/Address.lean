import Runbook.Failure
import Runbook.Text.Digits
import Runbook.Text.Quoted
import Runbook.Text.Utf8
import Runbook.Url.Reader

namespace Runbook.Postgres

inductive Encryption where
  | disable | allow | prefer | require | verifyAuthority | verifyHost
  deriving DecidableEq, Repr

def Encryption.ofText? (s : String) : Option Encryption :=
  match Text.lower s with
  | "disable" => some disable
  | "allow" => some allow
  | "prefer" => some prefer
  | "require" => some require
  | "verify-ca" => some verifyAuthority
  | "verify-full" => some verifyHost
  | _ => none

structure Address where
  host : String
  /-- The directory of a local socket, which goes before the host. -/
  socket : Option String
  port : Nat
  user : Option String
  password : Option String
  database : Option String
  encryption : Encryption
  deriving DecidableEq, Repr

inductive NumberFault where
  | empty | digit | tooLarge
  deriving DecidableEq, Repr

def NumberFault.message : NumberFault → String
  | empty => "cannot parse integer from empty string"
  | digit => "invalid digit found in string"
  | tooLarge => "number too large to fit in target type"

inductive AddressError where
  | url (e : UrlError)
  | encoding (fault : Text.Utf8.Fault)
  | encryption (word : String)
  | number (fault : NumberFault)
  | hostNumber

namespace AddressError

def messages : AddressError → List String
  | url e => [e.message]
  | encoding fault => [fault.message]
  | encryption word =>
    let message := "unknown value " ++ Text.quoted word ++ " for \x60ssl_mode\x60"
    ["error with configuration: " ++ message, message]
  | number fault => [fault.message]
  | hostNumber => ["invalid IP address syntax"]

def failure (e : AddressError) : Failure :=
  ⟨"error with configuration: " ++ e.messages.headD "", e.messages⟩

end AddressError

namespace Address

def standard : Address := ⟨"localhost", none, 5432, none, none, none, .prefer⟩

def decoded (s : String) : Except AddressError String :=
  (Text.Utf8.decode (Text.percentDecode s.toList)).mapError .encoding

/-- A number below the bound of words of the given width, with at most a plus in front. The first
fault from the left counts. -/
def numberOf (bits : Nat) (s : String) : Except AddressError Nat :=
  let digits := match s.toList with
    | ['+'] => ['+']
    | '+' :: digits => digits
    | digits => digits
  let isTooLarge := Nat.pow 2 bits ≤ Text.digitsFrom 0 (digits.takeWhile Text.isDigit)
  if s = "" then .error (.number .empty)
  else if isTooLarge then .error (.number .tooLarge)
  else match Text.natural? digits with
    | some n => .ok n
    | none => .error (.number .digit)

/-- A part of a query, in which a plus stands for a blank. -/
def formDecode (s : List Char) : String :=
  Text.Utf8.decodeAnyway (Text.percentDecode (s.map fun c => if c = '+' then ' ' else c))

def queryPairs (query : String) : List (String × String) :=
  ((Text.pieces '&' query.toList).filter (· ≠ [])).map fun part =>
    let (name, value) := Url.atMark '=' part
    (formDecode name, formDecode (value.getD []))

/-- The address at a host or, if its name begins with a slash, at a local socket. -/
def withHost (address : Address) (host : String) : Address :=
  if Text.startsWith host "/" then { address with socket := some host }
  else { address with host := host }

/-- What the query says goes before the rest; what it says about anything else is left. -/
def withSetting (address : Address) (setting : String × String) : Except AddressError Address :=
  let (name, value) := setting
  if name = "sslmode" ∨ name = "ssl-mode" then
    match Encryption.ofText? value with
    | some encryption => .ok { address with encryption := encryption }
    | none => .error (.encryption value)
  else if name = "statement-cache-capacity" then (numberOf 64 value).map fun _ => address
  else if name = "port" then do return { address with port := ← numberOf 16 value }
  else if name = "host" then .ok (address.withHost value)
  else if name = "hostaddr" then
    if Host.isNumeric value.toList then .ok { address with host := value } else .error .hostNumber
  else if name = "dbname" then .ok { address with database := some value }
  else if name = "user" then .ok { address with user := some value }
  else if name = "password" then .ok { address with password := some value }
  else .ok address

/-- The standard address at the host of a URL. One that begins with a slash when decoded is a
directory. -/
def atHost (host : Host) : Except AddressError Address :=
  match Text.percentDecode host.text.toList with
  | [] => .ok standard
  | 47 :: _ => do return { standard with socket := some (← decoded host.text) }
  | _ => .ok { standard with host := host.text }

def ofUrl (url : Url) : Except AddressError Address := do
  let place ← atHost (url.host.getD (.name ""))
  let user ← if url.user = "" then pure none else some <$> decoded url.user
  let password ← match url.password with
    | some password => some <$> decoded password
    | none => pure none
  let path := String.ofList (url.path.toList.dropWhile (· == '/'))
  let database ← if path = "" then pure none else some <$> decoded path
  let address := { place with
    port := url.port.getD standard.port, user := user, password := password, database := database }
  (queryPairs (url.query.getD "")).foldlM withSetting address

def parse (source : String) : Except AddressError Address := do
  let url ← (Url.parse source).mapError .url
  ofUrl url

end Address

end Runbook.Postgres
