import Runbook.Text.Ranges

namespace Runbook.Text

/-- What stands for the characters of a range that are so many steps behind the first: the target,
moved by as much. -/
structure Replacement where
  range : Nat × Nat
  step : Nat
  target : List Nat
  deriving DecidableEq, Repr

namespace Replacement

def form? (replacement : Replacement) (c : Char) : Option (List Char) :=
  let (first, last) := replacement.range
  let distance := c.toNat - first
  if first ≤ c.toNat ∧ c.toNat ≤ last ∧ distance % replacement.step = 0 then
    some (replacement.target.map fun n => .ofNat (n + distance))
  else none

def ofText? (s : List Char) : Option Replacement := do
  let (source, target) ← cut? ':' s
  let target ← (pieces ',' target).mapM hexNatural?
  match cut? '/' source with
  | some (range, step) => return ⟨← range? range, ← hexNatural? step, target⟩
  | none => return ⟨← range? source, 1, target⟩

/-- The replacements in rows, between blanks. -/
def ofRows (rows : List String) : List Replacement :=
  rows.flatMap fun row => (pieces ' ' row.toList).filterMap ofText?

def find? (replacements : List Replacement) (c : Char) : Option (List Char) :=
  replacements.findSome? (·.form? c)

end Replacement

end Runbook.Text
