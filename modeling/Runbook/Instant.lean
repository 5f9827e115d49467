import Runbook.Date

namespace Runbook

/-- Nanoseconds since the beginning of 1970. -/
abbrev Instant : Type := Int

namespace Instant

def second : Int := 1000000000

/-- The beginning of the year -262143. -/
def earliest : Instant := -8334601228800 * second

/-- The last nanosecond of the year 262142. -/
def latest : Instant := 8210266876800 * second - 1

def after? (seconds : Int) (now : Instant) : Option Instant :=
  let later := now + seconds * second
  if earliest ≤ later ∧ later ≤ latest then some later else none

/-- Year, month and day by the days since the beginning of 1970. Years are counted from their March
on, so that a leap day is the last day of a year. -/
def civil (days : Int) : Int × Nat × Nat :=
  let era := (days + 719468) / 146097
  let inEra := ((days + 719468) % 146097).toNat
  let century := min (inEra / 36524) 3
  let inCentury := inEra - 36524 * century
  let year := min (inCentury % 1461 / 365) 3
  let inYear := inCentury % 1461 - 365 * year
  let month := (5 * inYear + 2) / 153
  let march : Int := 400 * era + 100 * century + 4 * (inCentury / 1461 : Nat) + year
  (if month < 10 then march else march + 1, if month < 10 then month + 3 else month - 9,
    inYear - (153 * month + 2) / 5 + 1)

/-- As few of three, six or nine digits as there are needed. -/
def fraction (nanoseconds : Nat) : List Char :=
  if nanoseconds = 0 then []
  else if nanoseconds % 1000000 = 0 then '.' :: Date.padded 3 (nanoseconds / 1000000)
  else if nanoseconds % 1000 = 0 then '.' :: Date.padded 6 (nanoseconds / 1000)
  else '.' :: Date.padded 9 nanoseconds

def text (instant : Instant) : String :=
  let (year, month, day) := civil (instant / (86400 * second))
  let seconds := (instant / second % 86400).toNat
  .ofList (Date.yearChars year ++ '-' :: Date.padded 2 month ++ '-' :: Date.padded 2 day ++
    'T' :: Date.padded 2 (seconds / 3600) ++ ':' :: Date.padded 2 (seconds / 60 % 60) ++
    ':' :: Date.padded 2 (seconds % 60) ++ fraction (instant % second).toNat ++ ['Z'])

end Instant

end Runbook
