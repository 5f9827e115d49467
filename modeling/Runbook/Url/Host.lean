import Runbook.Text.Percent
import Runbook.Url.Domain

namespace Runbook

inductive Host where
  | name (text : String)
  | ipv4 (address : UInt32)
  | ipv6 (groups : List Nat)
  deriving DecidableEq, Repr

inductive UrlError where
  | relative | emptyHost | port | ipv4 | ipv6 | international | hostCharacter
  deriving DecidableEq, Repr

def UrlError.message : UrlError → String
  | relative => "relative URL without a base"
  | emptyHost => "empty host"
  | port => "invalid port number"
  | ipv4 => "invalid IPv4 address"
  | ipv6 => "invalid IPv6 address"
  | international => "invalid international domain name"
  | hostCharacter => "invalid domain character"

namespace Host

def inBase? (base : Nat) (digits : List Char) : Option Nat :=
  digits.foldlM (fun n c => do
    let value ← Text.hexValue? c
    if value < base then some (base * n + value) else none) 0

/-- A part of an address: hexadecimal after `0x`, octal after a zero, else decimal. -/
def ipv4Part? : List Char → Option Nat
  | [] => none
  | '0' :: 'x' :: digits => inBase? 16 digits
  | '0' :: 'X' :: digits => inBase? 16 digits
  | '0' :: digits => inBase? 8 digits
  | digits => inBase? 10 digits

/-- The parts between points; one point may follow the last. -/
def parts (s : List Char) : List (List Char) :=
  let parts := Text.pieces '.' s
  if parts.getLast? = some [] then parts.dropLast else parts

/-- Such a name is an address, or an error. -/
def endsInNumber (s : List Char) : Bool :=
  match (parts s).getLast? with
  | none => false
  | some part => (part ≠ [] && part.all Text.isDigit) || (ipv4Part? part).isSome

/-- Every part but the last is a byte; the last takes all the remaining bytes. -/
def ipv4Value? : Nat → List Nat → Option Nat
  | 0, _ => none
  | _ + 1, [] => none
  | bytes + 1, [n] => if n < Nat.pow 256 (bytes + 1) then some n else none
  | bytes + 1, n :: rest => do
    let value ← ipv4Value? bytes rest
    if n < 256 then some (n * Nat.pow 256 bytes + value) else none

def ipv4? (s : List Char) : Option Host := do
  let numbers ← (parts s).mapM ipv4Part?
  return ipv4 (.ofNat (← ipv4Value? 4 numbers))

def group? (s : List Char) : Option Nat := do
  let n ← inBase? 16 s
  if 0 < s.length ∧ s.length ≤ 4 then some n else none

def byte? (s : List Char) : Option Nat := do
  let n ← Text.natural? s
  if n < 256 ∧ (s.head? = some '0' → s = ['0']) then some n else none

/-- Groups between colons, of which the last two may be written as four bytes. -/
def groups? : List (List Char) → Option (List Nat)
  | [] => some []
  | [last] =>
    if '.' ∈ last then do
      match ← (Text.pieces '.' last).mapM byte? with
      | [a, b, c, d] => some [256 * a + b, 256 * c + d]
      | _ => none
    else (group? last).map fun n => [n]
  | group :: rest => do return (← group? group) :: (← groups? rest)

def atDoubleColon? : List Char → Option (List Char × List Char)
  | ':' :: ':' :: after => some ([], after)
  | c :: rest => (atDoubleColon? rest).map fun (before, after) => (c :: before, after)
  | [] => none

def colonGroups? (s : List Char) : Option (List Nat) :=
  if s = [] then some [] else groups? (Text.pieces ':' s)

/-- Eight groups, or fewer with a pair of colons for groups of zero, at least one. -/
def ipv6? (s : List Char) : Option Host := do
  match atDoubleColon? s with
  | none =>
    let groups ← colonGroups? s
    if groups.length = 8 then some (ipv6 groups) else none
  | some (before, after) =>
    if '.' ∈ before then none
    let first ← colonGroups? before
    let last ← colonGroups? after
    let missing := 8 - (first.length + last.length)
    if 0 < missing then some (ipv6 (first ++ List.replicate missing 0 ++ last)) else none

def isNumeric (s : List Char) : Bool :=
  ((Text.pieces '.' s).length = 4 && (Text.pieces '.' s).all fun part => (byte? part).isSome) ||
    (ipv6? s).isSome

def bracketed (s : List Char) : Except UrlError Host :=
  if s.getLast? = some ']' then
    match ipv6? s.dropLast with
    | some host => .ok host
    | none => .error .ipv6
  else .error .ipv6

def parse : List Char → Except UrlError Host
  | '[' :: rest => bracketed rest
  | s => do
    let some text := Text.percentDecodeText? s | throw .international
    let some text := Domain.ascii? text.toList | throw .international
    if text = [] then throw .emptyHost
    if endsInNumber text then
      match ipv4? text with
      | some host => return host
      | none => throw .ipv4
    return name (.ofList text)

def isControl (c : Char) : Bool := c.toNat < 0x20 || 0x7F ≤ c.toNat

/-- The host of any other URL: it is kept as it is, but for control characters. -/
def parseOpaque : List Char → Except UrlError Host
  | '[' :: rest => bracketed rest
  | s =>
    if s.any Domain.isForbiddenInHost then .error .hostCharacter
    else .ok (name (.ofList (Text.percentEncode (!isControl ·) s)))

def groupText (n : Nat) : String := .ofList (Nat.toDigits 16 n)

def groupsText (groups : List Nat) : String := ":".intercalate (groups.map groupText)

def zeroRun (groups : List Nat) : Nat := (groups.takeWhile (· == 0)).length

def longestRun (groups : List Nat) : Nat :=
  (List.range groups.length).foldl (fun best i =>
    if zeroRun (groups.drop best) < zeroRun (groups.drop i) then i else best) 0

/-- The longest run of at least two groups of zero is left out. -/
def ipv6Text (groups : List Nat) : String :=
  let start := longestRun groups
  let run := zeroRun (groups.drop start)
  if run < 2 then groupsText groups
  else groupsText (groups.take start) ++ "::" ++ groupsText (groups.drop (start + run))

def ipv4Text (address : UInt32) : String :=
  let n := address.toNat
  ".".intercalate ([n / 16777216, n / 65536 % 256, n / 256 % 256, n % 256].map Text.decimal)

def text : Host → String
  | name text => text
  | ipv4 address => ipv4Text address
  | ipv6 groups => "[" ++ ipv6Text groups ++ "]"

end Host

end Runbook
