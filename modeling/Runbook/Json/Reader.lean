import Runbook.Json.Binary64
import Runbook.Json.Written

namespace Runbook.Json

def isBlankChar (c : Char) : Bool := c == ' ' || c == '\n' || c == '\t' || c == '\r'

def skipBlanks (s : List Char) : List Char := s.dropWhile isBlankChar

def hexCode? (a b c d : Char) : Option Nat := do
  let high := 16 * (← Text.hexValue? a) + (← Text.hexValue? b)
  let low := 16 * (← Text.hexValue? c) + (← Text.hexValue? d)
  return 256 * high + low

def simpleEscape? : Char → Option Char
  | '"' => some '"'
  | '\\' => some '\\'
  | '/' => some '/'
  | 'b' => some (Char.ofNat 8)
  | 'f' => some (Char.ofNat 12)
  | 'n' => some '\n'
  | 'r' => some '\r'
  | 't' => some '\t'
  | _ => none

def stringBody? : List Char → Option (List Nat × List Char)
  | [] => none
  | '"' :: rest => some ([], rest)
  | '\\' :: 'u' :: a :: b :: c :: d :: rest => do
    let code ← hexCode? a b c d
    let (codes, rest) ← stringBody? rest
    return (code :: codes, rest)
  | '\\' :: c :: rest => do
    let char ← simpleEscape? c
    let (codes, rest) ← stringBody? rest
    return (char.toNat :: codes, rest)
  | c :: rest =>
    if c.toNat < 32 then none
    else do
      let (codes, rest) ← stringBody? rest
      return (c.toNat :: codes, rest)

def isHighHalf (code : Nat) : Bool := 0xD800 ≤ code && code < 0xDC00

def isLowHalf (code : Nat) : Bool := 0xDC00 ≤ code && code < 0xE000

/-- The characters of codes, in which the halves of surrogate pairs have to stand together. -/
def chars? : List Nat → Option (List Char)
  | [] => some []
  | [code] => if isHighHalf code || isLowHalf code then none else some [Char.ofNat code]
  | high :: low :: rest =>
    if isHighHalf high && isLowHalf low then
      (chars? rest).map (Char.ofNat (0x10000 + (high - 0xD800) * 0x400 + (low - 0xDC00)) :: ·)
    else if isHighHalf high || isLowHalf high then none
    else (chars? (low :: rest)).map (Char.ofNat high :: ·)

def text? (codes : List Nat) : Option String := (chars? codes).map String.ofList

/-- Appends digits to a significand as long as it fits 64 bits; the digits that do not fit
remain. -/
def significand (n : Nat) : List Char → Nat × List Char
  | [] => (n, [])
  | c :: rest =>
    let next := 10 * n + Text.digitValue c
    if next < Nat.pow 2 64 then significand next rest else (n, c :: rest)

def fraction? : List Char → Option (Option (List Char) × List Char)
  | '.' :: rest =>
    match rest.takeWhile Text.isDigit with
    | [] => none
    | digits => some (some digits, rest.dropWhile Text.isDigit)
  | rest => some (none, rest)

def exponent? (s : List Char) : Option (Option Int × List Char) :=
  let digits (negative : Bool) (rest : List Char) : Option (Option Int × List Char) := do
    let n ← Text.natural? (rest.takeWhile Text.isDigit)
    return (some (if negative then -n else n), rest.dropWhile Text.isDigit)
  let signed : List Char → Option (Option Int × List Char)
    | '-' :: rest => digits true rest
    | '+' :: rest => digits false rest
    | rest => digits false rest
  match s with
  | 'e' :: rest => signed rest
  | 'E' :: rest => signed rest
  | rest => some (none, rest)

def numberOf? (negative : Bool) (whole : List Char) (fraction : Option (List Char))
    (exponent : Option Int) : Option JsonNumber :=
  let (n, dropped) := significand 0 whole
  let double (n : Nat) (e : Int) := (Binary64.ofDecimal? negative n e).map JsonNumber.double
  match fraction, exponent, dropped with
  | none, none, [] =>
    if !negative then some (.integer n)
    else if n ≠ 0 ∧ n ≤ Nat.pow 2 63 then some (.integer (-n))
    else double n 0
  | _, _, _ =>
    let places := fraction.getD []
    let (n, rest) := significand n places
    double n (dropped.length - (places.length - rest.length : Nat) + exponent.getD 0)

def number? (s : List Char) : Option (Option JsonNumber × List Char) := do
  let (negative, s) := match s with
    | '-' :: rest => (true, rest)
    | rest => (false, rest)
  let whole := s.takeWhile Text.isDigit
  match whole with
  | [] => none
  | '0' :: _ :: _ => none
  | _ =>
    let (fraction, rest) ← fraction? (s.dropWhile Text.isDigit)
    let (exponent, rest) ← exponent? rest
    return (numberOf? negative whole fraction exponent, rest)

namespace Written

mutual

/-- A value and the text behind it. The number bounds the steps. -/
def value? : Nat → List Char → Option (Written × List Char)
  | 0, _ => none
  | steps + 1, s =>
    match skipBlanks s with
    | 'n' :: 'u' :: 'l' :: 'l' :: rest => some (null, rest)
    | 't' :: 'r' :: 'u' :: 'e' :: rest => some (bool true, rest)
    | 'f' :: 'a' :: 'l' :: 's' :: 'e' :: rest => some (bool false, rest)
    | '"' :: rest => (stringBody? rest).map fun (codes, rest) => (text (text? codes), rest)
    | '[' :: rest =>
      match skipBlanks rest with
      | ']' :: rest => some (array [], rest)
      | rest => (items? steps rest).map fun (items, rest) => (array items, rest)
    | '\x7b' :: rest =>
      match skipBlanks rest with
      | '\x7d' :: rest => some (object [], rest)
      | rest => (members? steps rest).map fun (members, rest) => (object members, rest)
    | rest => (number? rest).map fun (n, rest) => (number n, rest)

def items? : Nat → List Char → Option (List Written × List Char)
  | 0, _ => none
  | steps + 1, s => do
    let (item, rest) ← value? steps s
    match skipBlanks rest with
    | ',' :: rest =>
      let (items, rest) ← items? steps rest
      return (item :: items, rest)
    | ']' :: rest => return ([item], rest)
    | _ => none

def members? : Nat → List Char → Option (List (Option String × Written) × List Char)
  | 0, _ => none
  | steps + 1, s =>
    match skipBlanks s with
    | '"' :: rest => do
      let (codes, rest) ← stringBody? rest
      match skipBlanks rest with
      | ':' :: rest =>
        let (value, rest) ← value? steps rest
        match skipBlanks rest with
        | ',' :: rest =>
          let (members, rest) ← members? steps rest
          return ((text? codes, value) :: members, rest)
        | '\x7d' :: rest => return ([(text? codes, value)], rest)
        | _ => none
      | _ => none
    | _ => none

end

/-- What a whole text says. Every level of nesting takes two steps. -/
def ofText? (text : String) : Option Written := do
  let s := text.toList
  let (written, rest) ← value? (2 * s.length + 2) s
  if skipBlanks rest = [] then some written else none

end Written

def parse? (text : String) : Option Json := do (← Written.ofText? text).json? nestingLimit

end Runbook.Json
