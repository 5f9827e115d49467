import Runbook.Url

namespace Runbook.Url

/-- The set of characters that a part of a URL keeps as they are, given by the others. -/
def keeps (others : String) (c : Char) : Bool := !Host.isControl c && !others.contains c

def keepsInFragment : Char → Bool := keeps " \"<>\x60"

def keepsInPath : Char → Bool := keeps " \"<>\x60#?\x7b\x7d"

def keepsInUser : Char → Bool := keeps " \"<>\x60#?\x7b\x7d/:;=@[\\]^|"

def keepsInQuery (scheme : String) : Char → Bool :=
  if isSpecial scheme then keeps " \"#<>'" else keeps " \"#<>"

def encoded (keeps : Char → Bool) (s : List Char) : String := .ofList (Text.percentEncode keeps s)

/-- What does not count: blanks and control characters at the ends, tabs and line breaks. -/
def clean (s : List Char) : List Char :=
  let outer (c : Char) : Bool := c.toNat ≤ 0x20
  ((s.dropWhile outer).reverse.dropWhile outer).reverse.filter
    fun c => c ≠ '\t' ∧ c ≠ '\n' ∧ c ≠ '\r'

def scheme? (s : List Char) : Option (String × List Char) := do
  let (scheme, rest) ← Text.cut? ':' s
  let isInner (c : Char) : Bool := Text.isLetter c || Text.isDigit c || "+-.".contains c
  if scheme.head?.any Text.isLetter && scheme.all isInner then
    some (Text.lower (.ofList scheme), rest)
  else none

def atMark (mark : Char) (s : List Char) : List Char × Option (List Char) :=
  match Text.cut? mark s with
  | none => (s, none)
  | some (before, after) => (before, some after)

def atPort (within : Bool) : List Char → List Char × Option (List Char)
  | [] => ([], none)
  | c :: rest =>
    if c = ':' ∧ !within then ([], some rest)
    else
      let within := if c = '[' then true else if c = ']' then false else within
      let (host, port) := atPort within rest
      (c :: host, port)

def port? (scheme : String) (s : List Char) : Except UrlError (Option Nat × List Char) :=
  let rest := s.dropWhile Text.isDigit
  if rest.head?.any (· ≠ '\\') then .error .port
  else match Text.natural? (s.takeWhile Text.isDigit) with
    | none => .ok (none, rest)
    | some n =>
      if 65535 < n then .error .port
      else .ok (if usualPort? scheme = some n then none else some n, rest)

structure Credentials where
  user : String
  password : Option String

/-- What stands before the last at sign. A colon parts the password, which is absent when empty. -/
def Credentials.ofChars (s : List Char) : Credentials :=
  let (user, password) := atMark ':' s
  ⟨encoded keepsInUser user, (password.filter (· ≠ [])).map (encoded keepsInUser)⟩

def atLastAt (s : List Char) : Option (List Char) × List Char :=
  match Text.cut? '@' s.reverse with
  | none => (none, s)
  | some (host, credentials) => (some credentials.reverse, host.reverse)

/-- Credentials, host and port, and what follows the port. Credentials need a host. -/
def authority (scheme : String) (s : List Char) (followed : Bool) :
    Except UrlError (Credentials × Host × Option Nat × List Char) := do
  let (before, rest) := atLastAt s
  let credentials := Credentials.ofChars (before.getD [])
  if before = some [] ∧ rest = [] ∧ followed then throw .emptyHost
  let (hostText, portText) := atPort false rest
  if hostText = [] ∧ isSpecial scheme then throw .emptyHost
  let host ← if isSpecial scheme then Host.parse hostText else Host.parseOpaque hostText
  if hostText = [] ∧ portText.isSome then throw .emptyHost
  let (port, rest) ← port? scheme (portText.getD [])
  if hostText = [] ∧ (credentials.user ≠ "" ∨ credentials.password.isSome) then throw .emptyHost
  return (credentials, host, port, rest)

def isSinglePoint (segment : String) : Bool := segment == "." || Text.lower segment == "%2e"

def isDoublePoint (segment : String) : Bool :=
  ["..", "%2e.", ".%2e", "%2e%2e"].contains (Text.lower segment)

def isVolume : List Char → Bool
  | [c, d] => Text.isLetter c && (d = ':' || d = '|')
  | _ => false

/-- Two points lead out of a segment, but not out of a volume. -/
def leave : List String → List String
  | [] => []
  | segment :: rest => if isVolume segment.toList then segment :: rest else rest

/-- Adds a segment. A volume that comes first in the path of a file is written with a colon. -/
def enter (file : Bool) (segment : String) (done : List String) : List String :=
  if file && done.isEmpty && isVolume segment.toList then
    [.ofList (segment.toList.take 1 ++ [':'])]
  else segment :: done

/-- The segments that remain when points have been followed; the first list is in reverse. -/
def walk (file : Bool) (done : List String) : List String → List String
  | [] => done.reverse
  | [last] =>
    if isDoublePoint last then ("" :: leave done).reverse
    else if isSinglePoint last then ("" :: done).reverse
    else (enter file last done).reverse
  | segment :: rest =>
    if isDoublePoint segment then walk file (leave done) rest
    else if isSinglePoint segment then walk file done rest
    else walk file (enter file segment done) rest

def isSlash (special : Bool) (c : Char) : Bool := c = '/' || (special && c = '\\')

def segments (scheme : String) (s : List Char) : List String :=
  let s := if isSpecial scheme then s.map fun c => if c = '\\' then '/' else c else s
  walk (scheme == "file") [] ((Text.pieces '/' s).map (encoded keepsInPath))

def pathText (segments : List String) : String := "/" ++ "/".intercalate segments

def withoutSlash (scheme : String) : List Char → List Char
  | [] => []
  | c :: rest => if isSlash (isSpecial scheme) c then rest else c :: rest

def pathOf (scheme : String) (s : List Char) : String :=
  if s = [] then if isSpecial scheme then "/" else ""
  else pathText (segments scheme (withoutSlash scheme s))

structure Stem where
  credentials : Credentials
  host : Option Host
  port : Option Nat
  path : String

def noCredentials : Credentials := ⟨"", none⟩

def withAuthority (scheme : String) (s : List Char) (followed : Bool) : Except UrlError Stem := do
  let inside (c : Char) : Bool := !isSlash (isSpecial scheme) c
  let path := s.dropWhile inside
  let (credentials, host, port, rest) ←
    authority scheme (s.takeWhile inside) (path ≠ [] || followed)
  return ⟨credentials, host, port, pathOf scheme (rest ++ path)⟩

/-- A file on a host, which may be empty. A path has one slash in front, and one that begins with a
volume has no host. -/
def fileOn (host : Host) (path : List Char) : Stem :=
  let segments := segments "file" (withoutSlash "file" path)
  let isHere := host = .name "localhost" || segments.head?.any (isVolume ·.toList)
  let host := if isHere then .name "" else host
  let text := (pathText segments).toList.dropWhile (· == '/')
  ⟨noCredentials, some host, none, .ofList ('/' :: text)⟩

def fileStem (s : List Char) : Except UrlError Stem :=
  match s with
  | a :: b :: rest =>
    if isSlash true a && isSlash true b then
      let name := rest.takeWhile (!isSlash true ·)
      if isVolume name || name = [] then .ok (fileOn (.name "") rest)
      else (Host.parse name).map (fileOn · (rest.dropWhile (!isSlash true ·)))
    else .ok (fileOn (.name "") s)
  | s => .ok (fileOn (.name "") s)

def stem (scheme : String) (s : List Char) (followed : Bool) : Except UrlError Stem :=
  if scheme = "file" then fileStem s
  else if isSpecial scheme then withAuthority scheme (s.dropWhile (isSlash true)) followed
  else match s with
    | '/' :: '/' :: rest => withAuthority scheme rest followed
    | '/' :: rest => .ok ⟨noCredentials, none, none, pathText (segments scheme rest)⟩
    | s => .ok ⟨noCredentials, none, none, encoded (!Host.isControl ·) s⟩

def parse (source : String) : Except UrlError Url := do
  let some (scheme, rest) := scheme? (clean source.toList) | throw .relative
  let (rest, fragment) := atMark '#' rest
  let (rest, query) := atMark '?' rest
  let stem ← stem scheme rest (query.isSome || fragment.isSome)
  return {
    scheme := scheme
    user := stem.credentials.user
    password := stem.credentials.password
    host := stem.host
    port := stem.port
    path := stem.path
    query := query.map (encoded (keepsInQuery scheme))
    fragment := fragment.map (encoded keepsInFragment) }

end Runbook.Url
