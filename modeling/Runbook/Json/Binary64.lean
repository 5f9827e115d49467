import Runbook.Text.Digits

namespace Runbook.Binary64

def isNegative (bits : UInt64) : Bool := bits.toNat ≥ Nat.pow 2 63

/-- The magnitude as `m · 2 ^ q`. -/
def magnitude (bits : UInt64) : Nat × Int :=
  let exponent : Nat := bits.toNat / Nat.pow 2 52 % Nat.pow 2 11
  let fraction : Nat := bits.toNat % Nat.pow 2 52
  if exponent = 0 then (fraction, -1074) else (fraction + Nat.pow 2 52, (exponent : Int) - 1075)

/-- `x · 2 ^ (q - 2)` as a multiple of `10 ^ k`: a numerator over `unit q k`. -/
def quarters (x : Nat) (q k : Int) : Nat := x * Nat.pow 2 (q - 2).toNat * Nat.pow 10 (-k).toNat

def unit (q k : Int) : Nat := Nat.pow 2 (2 - q).toNat * Nat.pow 10 k.toNat

/-- The multiple of `10 ^ k` nearest to `m · 2 ^ q` among those that round to it; of two equally
near ones the even one. -/
def onGrid? (m : Nat) (q k : Int) : Option Nat :=
  let low := quarters (if m = Nat.pow 2 52 ∧ -1074 < q then 4 * m - 1 else 4 * m - 2) q k
  let here := quarters (4 * m) q k
  let high := quarters (4 * m + 2) q k
  let one := unit q k
  let reads (d : Nat) : Bool :=
    if m % 2 = 0 then low ≤ d * one && d * one ≤ high else low < d * one && d * one < high
  let d := here / one
  let below := here - d * one
  let above := (d + 1) * one - here
  if reads d && reads (d + 1) then
    some (if below < above ∨ (below = above ∧ d % 2 = 0) then d else d + 1)
  else if reads d then some d
  else if reads (d + 1) then some (d + 1)
  else none

/-- The first grid, from coarse to fine, with a point that rounds to `m · 2 ^ q`. -/
def firstGrid (m : Nat) (q : Int) : Nat → Int → Nat × Int
  | 0, k => (quarters (4 * m) q k / unit q k, k)
  | steps + 1, k =>
    match onGrid? m q k with
    | some d => (d, k)
    | none => firstGrid m q steps (k - 1)

/-- The fewest digits that read back as `m · 2 ^ q`, with their power of ten. -/
def shortest (m : Nat) (q : Int) : Nat × Int :=
  firstGrid m q 24 (((Nat.log2 m : Int) + 1 + q) * 30103 / 100000 + 2)

def digitsText (d : Nat) (k : Int) : String :=
  let digits := Nat.toDigits 10 d
  let exponent := (digits.length : Int) + k - 1
  let zeros (n : Int) := List.replicate n.toNat '0'
  if -5 ≤ exponent ∧ exponent < 16 then
    if 0 ≤ k then .ofList (digits ++ zeros k ++ ['.', '0'])
    else if 0 ≤ exponent then
      .ofList (digits.take (exponent + 1).toNat ++ '.' :: digits.drop (exponent + 1).toNat)
    else .ofList ('0' :: '.' :: zeros (-exponent - 1) ++ digits)
  else
    let mantissa := match digits with
      | [d] => [d]
      | d :: rest => d :: '.' :: rest
      | [] => []
    .ofList mantissa ++ "e" ++ (if exponent < 0 then "-" else "+") ++ Text.decimal exponent.natAbs

def text (bits : UInt64) : String :=
  let (m, q) := magnitude bits
  let body := if m = 0 then "0.0" else let (d, k) := shortest m q; digitsText d k
  if isNegative bits then "-" ++ body else body

def tenTo (n : Nat) : Float := Float.ofScientific 1 false n

/-- The significand is rounded, then multiplied or divided by rounded powers of ten of at most
`1e308`; nothing when the product overflows. -/
def scale? : Nat → Float → Int → Option Float
  | 0, _, _ => none
  | steps + 1, f, e =>
    if e.natAbs ≤ 308 then
      if 0 ≤ e then
        let product := f * tenTo e.natAbs
        if product.isInf then none else some product
      else some (f / tenTo e.natAbs)
    else if f == 0 then some f
    else if 0 ≤ e then none
    else scale? steps (f / tenTo 308) (e + 308)

/-- The bits of a decimal number; a significand of 64 bits vanishes after two divisions by
`1e308`. -/
def ofDecimal? (negative : Bool) (significand : Nat) (exponent : Int) : Option UInt64 :=
  (scale? 4 (Float.ofNat significand) exponent).map fun f => (if negative then -f else f).toBits

end Runbook.Binary64
