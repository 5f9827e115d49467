import Runbook.Text.Digits

namespace Runbook

/-- The number `coefficient · 10 ^ (-scale)`. -/
structure Decimal where
  coefficient : Int
  scale : Int
  deriving DecidableEq, Repr

namespace Decimal

/-- Equality of the numbers, whatever their places. -/
def same (a b : Decimal) : Prop :=
  a.coefficient * Nat.pow 10 (b.scale - a.scale).toNat =
    b.coefficient * Nat.pow 10 (a.scale - b.scale).toNat

instance (a b : Decimal) : Decidable (same a b) := by unfold same; infer_instance

/-- Digits, of which the first is no separator, with separators left out. -/
def digits? : List Char → Option Nat
  | [] => none
  | '_' :: _ => none
  | s => Text.natural? (s.filter (· != '_'))

def coefficient? : List Char → Option Int
  | '-' :: s => (digits? s).map fun n => -(n : Int)
  | '+' :: s => (digits? s).map Int.ofNat
  | s => (digits? s).map Int.ofNat

/-- The digits without the first point, and the number of places behind it; a point at the very end
is no point. -/
def joined (s : List Char) : List Char × Nat :=
  match Text.cut? '.' s with
  | none => (s, 0)
  | some (whole, []) => (whole, 0)
  | some (whole, places) => (whole ++ places, (places.filter (· != '_')).length)

/-- The text before the exponent, and the exponent, which is a word of 128 bits. -/
def withoutExponent? (s : List Char) : Option (List Char × Int) :=
  match s.dropWhile fun c => c != 'e' && c != 'E' with
  | [] => some (s, 0)
  | _ :: exponent =>
    (Text.signedWord? 128 exponent).map fun e => (s.takeWhile fun c => c != 'e' && c != 'E', e)

/-- The decimal number of a text; its scale is a word of 64 bits. -/
def ofChars? (s : List Char) : Option Decimal := do
  let (mantissa, exponent) ← withoutExponent? s
  let (digits, places) := joined mantissa
  let scale := (places : Int) - exponent
  let coefficient ← coefficient? digits
  if -Nat.pow 2 63 ≤ scale ∧ scale < Nat.pow 2 63 then some ⟨coefficient, scale⟩ else none

def ofText? (s : String) : Option Decimal := ofChars? s.toList

/-- Digits of a magnitude and scale: plain, unless more than five zeros would follow the point or
more than fifteen would stand at the end. -/
def magnitudeChars (digits : List Char) (scale : Int) : List Char :=
  let zeros (n : Int) := List.replicate n.toNat '0'
  if 0 < scale then
    if 5 < scale - digits.length then
      (match digits with
        | d :: next :: rest => d :: '.' :: next :: rest
        | digits => digits) ++ ['E', '-'] ++ Nat.toDigits 10 (scale - digits.length + 1).toNat
    else if digits.length ≤ scale then '0' :: '.' :: zeros (scale - digits.length) ++ digits
    else
      digits.take (digits.length - scale.toNat) ++ '.' ::
        digits.drop (digits.length - scale.toNat)
  else if scale < -15 then digits ++ ['e', '+'] ++ Nat.toDigits 10 (-scale).toNat
  else digits ++ zeros (-scale)

def chars (n : Decimal) : List Char :=
  if n.coefficient = 0 then ['0']
  else
    let magnitude := magnitudeChars (Nat.toDigits 10 n.coefficient.natAbs) n.scale
    if n.coefficient < 0 then '-' :: magnitude else magnitude

def text (n : Decimal) : String := .ofList n.chars

end Decimal

end Runbook
