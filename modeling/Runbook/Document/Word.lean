import Runbook.Text.Digits

namespace Runbook.Word

def isNull (s : String) : Bool := s ∈ ["null", "Null", "NULL", "~"]

def bool? (s : String) : Option Bool :=
  if s ∈ ["true", "True", "TRUE"] then some true
  else if s ∈ ["false", "False", "FALSE"] then some false
  else none

def digitIn? (base : Nat) (c : Char) : Option Nat :=
  let n :=
    if Text.isDigit c then c.toNat - 48
    else if 'a' ≤ c ∧ c ≤ 'z' then c.toNat - 87
    else if 'A' ≤ c ∧ c ≤ 'Z' then c.toNat - 55
    else base
  if n < base then some n else none

def naturalIn? (base : Nat) : List Char → Option Nat
  | [] => none
  | digits => digits.foldlM (fun n c => (digitIn? base c).map fun d => n * base + d) 0

/-- Digits with a superfluous zero in front, which are no number. -/
def isPadded (s : List Char) : Bool :=
  match s with
  | '0' :: c :: rest => (c :: rest).all Text.isDigit
  | _ => false

/-- A magnitude in base ten, or in base 16, 8 or 2 behind `0x`, `0o` or `0b`. -/
def magnitude? : List Char → Option Nat
  | '0' :: 'x' :: digits => naturalIn? 16 digits
  | '0' :: 'o' :: digits => naturalIn? 8 digits
  | '0' :: 'b' :: digits => naturalIn? 2 digits
  | digits => if isPadded digits then none else Text.natural? digits

def unsigned? : List Char → Option Nat
  | '+' :: s => magnitude? s
  | s => magnitude? s

def negative? : List Char → Option Nat
  | '-' :: s => magnitude? s
  | _ => none

def withoutSign : List Char → List Char
  | '-' :: s => s
  | '+' :: s => s
  | s => s

/-- The significand and power of ten of a decimal number; a digit on one side of the point is
enough. -/
def decimal? (s : List Char) : Option (Nat × Int) := do
  let s := withoutSign s
  let whole := s.takeWhile Text.isDigit
  let (places, rest) := match s.dropWhile Text.isDigit with
    | '.' :: rest => (rest.takeWhile Text.isDigit, rest.dropWhile Text.isDigit)
    | rest => ([], rest)
  let n ← Text.natural? (whole ++ places)
  match rest with
  | [] => return (n, -places.length)
  | e :: rest =>
    if e = 'e' ∨ e = 'E' then
      let exponent ← Text.integer? rest
      return (n, exponent - places.length)
    else none

/-- Below the numbers that round to infinity in double precision. -/
def isFinite (significand : Nat) (exponent : Int) : Bool :=
  if significand = 0 then true
  else if exponent + (Nat.toDigits 10 significand).length ≤ 0 then true
  else if 400 < exponent + (Nat.toDigits 10 significand).length then false
  else significand * Nat.pow 10 exponent.toNat <
    (Nat.pow 2 1024 - Nat.pow 2 970) * Nat.pow 10 (-exponent).toNat

def isReal (s : List Char) : Bool :=
  String.ofList (withoutSign s) ∈ [".inf", ".Inf", ".INF"] ||
    String.ofList s ∈ [".nan", ".NaN", ".NAN"] ||
    (decimal? s).any fun (n, e) => isFinite n e

end Runbook.Word
