import Runbook.Url.Host

namespace Runbook

structure Url where
  scheme : String
  user : String
  password : Option String
  /-- Absent when nothing stands for a host; the empty name when its place is empty. -/
  host : Option Host
  /-- Absent when it is the usual one of the scheme. -/
  port : Option Nat
  path : String
  query : Option String
  fragment : Option String
  deriving DecidableEq, Repr

namespace Url

/-- The schemes whose paths are lists of segments even without a host, with their usual ports. -/
def usualPort? (scheme : String) : Option Nat :=
  match scheme with
  | "http" | "ws" => some 80
  | "https" | "wss" => some 443
  | "ftp" => some 21
  | _ => none

def isSpecial (scheme : String) : Bool := (usualPort? scheme).isSome || scheme == "file"

def hasHost (url : Url) : Bool :=
  match url.host with
  | none => false
  | some host => host ≠ .name ""

def credentialsText (url : Url) : String :=
  let password := match url.password with
    | none => ""
    | some password => ":" ++ password
  if url.user = "" ∧ password = "" then "" else url.user ++ password ++ "@"

def authorityText (url : Url) : String :=
  match url.host with
  | none => if Text.startsWith url.path "//" then "/." else ""
  | some host => "//" ++ url.credentialsText ++ host.text ++
      match url.port with
      | none => ""
      | some port => ":" ++ Text.decimal port

def markedText (mark : String) : Option String → String
  | none => ""
  | some part => mark ++ part

def text (url : Url) : String :=
  url.scheme ++ ":" ++ url.authorityText ++ url.path ++ markedText "?" url.query ++
    markedText "#" url.fragment

/-- Names and values behind the query that is there; a query that stays empty is dropped. -/
def addQuery (pairs : List (String × String)) (url : Url) : Url :=
  let added := pairs.map fun pair => Text.formEncode pair.1 ++ "=" ++ Text.formEncode pair.2
  let known := (url.query.toList).filter (· ≠ "")
  let query := "&".intercalate (known ++ added)
  { url with query := if query = "" then none else some query }

end Url

end Runbook
