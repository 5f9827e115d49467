import Runbook.Text

namespace Runbook.Text.Punycode

structure State where
  /-- The code point that is next to be inserted. -/
  next : Nat
  /-- The positions passed since the last insertion. -/
  delta : Nat
  bias : Nat
  placed : Nat

def State.start (placed : Nat) : State := ⟨128, 0, 72, placed⟩

def biasFrom (delta k : Nat) : Nat :=
  if h : 455 < delta then biasFrom (delta / 35) (k + 36) else k + 36 * delta / (delta + 38)
termination_by delta

/-- The bias after a number, of which the first one counts less. -/
def adapt (delta placed : Nat) (first : Bool) : Nat :=
  let delta := if first then delta / 700 else delta / 2
  biasFrom (delta + delta / placed) 0

/-- The least value of a digit that another digit follows, at the weight of step `k`. -/
def threshold (k bias : Nat) : Nat :=
  if k ≤ bias + 1 then 1 else if bias + 26 ≤ k then 26 else k - bias

theorem threshold_pos (k bias : Nat) : 0 < threshold k bias := by
  unfold threshold
  split
  · omega
  · split <;> omega

def digit (n : Nat) : Char := if n < 26 then .ofNat (97 + n) else .ofNat (22 + n)

def digitValue? (c : Char) : Option Nat :=
  if 'a' ≤ c ∧ c ≤ 'z' then some (c.toNat - 97)
  else if 'A' ≤ c ∧ c ≤ 'Z' then some (c.toNat - 65)
  else if isDigit c then some (c.toNat - 22)
  else none

/-- A number in digits, the least weight first. -/
def number (bias k n : Nat) : List Char :=
  let t := threshold k bias
  if n < t then [digit n]
  else digit (t + (n - t) % (36 - t)) :: number bias (k + 36) ((n - t) / (36 - t))
termination_by n
decreasing_by
  have := threshold_pos k bias
  exact Nat.lt_of_le_of_lt (Nat.div_le_self _ _) (by omega)

/-- One character of the label, at a time when those below a code point are in place. -/
def pass (start : Nat) (run : State × List Char) (c : Char) : State × List Char :=
  let (state, written) := run
  if c.toNat < state.next then ({ state with delta := state.delta + 1 }, written)
  else if c.toNat = state.next then
    ({ state with
        delta := 0
        bias := adapt state.delta (state.placed + 1) (state.placed == start)
        placed := state.placed + 1 },
      written ++ number state.bias 36 state.delta)
  else run

def insertAll (label : List Char) (start : Nat) (run : State × List Char) (point : Nat) :
    State × List Char :=
  let (state, written) := run
  let reached := { state with
    delta := state.delta + (point - state.next) * (state.placed + 1), next := point }
  let (state, written) := label.foldl (pass start) (reached, written)
  ({ state with delta := state.delta + 1, next := point + 1 }, written)

def isBasic (c : Char) : Bool := c.toNat < 128

/-- The label without the mark in front. The characters beyond ASCII are inserted in the order of
their code points, each by the number of positions passed since the one before. -/
def encode (label : List Char) : List Char :=
  let basic := label.filter isBasic
  let points := ((label.filter (!isBasic ·)).map Char.toNat).mergeSort.eraseDups
  let lead := if basic.isEmpty then [] else basic ++ ['-']
  (points.foldl (insertAll label basic.length) (State.start basic.length, lead)).2

/-- A number read from digits: what it adds, the weight of its next digit, and the step. -/
structure Reading where
  label : List Char
  state : State
  weight : Nat
  step : Nat
  number : Nat

/-- Inserts the character that a complete number leads to. -/
def Reading.place? (reading : Reading) : Option Reading := do
  let total := reading.state.delta + reading.number
  let places := reading.state.placed + 1
  let point := reading.state.next + total / places
  if point.isValidChar then
    let position := total % places
    return {
      label := reading.label.take position ++ Char.ofNat point :: reading.label.drop position
      state := ⟨point, position + 1, adapt reading.number places (reading.state.delta == 0), places⟩
      weight := 1
      step := 36
      number := 0 }
  else none

def Reading.digit? (reading : Reading) (c : Char) : Option Reading := do
  let value ← digitValue? c
  let t := threshold reading.step reading.state.bias
  let number := reading.number + value * reading.weight
  let reading := { reading with number := number }
  if value < t then reading.place?
  else return { reading with weight := reading.weight * (36 - t), step := reading.step + 36 }

def decode? (text : List Char) : Option (List Char) := do
  let tail := (text.reverse.takeWhile (· != '-')).reverse
  let (basic, digits) :=
    if tail.length = text.length then ([], text)
    else (text.take (text.length - tail.length - 1), tail)
  let reading ← digits.foldlM Reading.digit?
    ⟨basic, State.start basic.length, 1, 36, 0⟩
  if reading.weight = 1 then some reading.label else none

end Runbook.Text.Punycode
