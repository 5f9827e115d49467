import Runbook.Text.Digits

namespace Runbook.Text

/-- The first and the last code point of each range. -/
abbrev Ranges : Type := List (Nat × Nat)

def hexNatural? (s : List Char) : Option Nat :=
  if s = [] then none
  else s.foldlM (fun n c => (hexValue? c).map fun value => 16 * n + value) 0

def range? (s : List Char) : Option (Nat × Nat) :=
  match cut? '-' s with
  | some (first, last) => do return (← hexNatural? first, ← hexNatural? last)
  | none => (hexNatural? s).map fun n => (n, n)

namespace Ranges

def ofRows (rows : List String) : Ranges :=
  rows.flatMap fun row => (pieces ' ' row.toList).filterMap range?

def covers (ranges : Ranges) (c : Char) : Bool :=
  ranges.any fun (first, last) => first ≤ c.toNat && c.toNat ≤ last

end Ranges

end Runbook.Text
