import Runbook.Text.Digits

namespace Runbook

namespace Date

def isLeapYear (year : Int) : Bool := year % 4 = 0 && (year % 100 ≠ 0 || year % 400 = 0)

def daysInMonth (year : Int) (month : Nat) : Nat :=
  if month = 2 then if isLeapYear year then 29 else 28
  else if month ∈ [4, 6, 9, 11] then 30
  else 31

def isDay (year : Int) (month day : Nat) : Bool :=
  -262143 ≤ year && year ≤ 262142 && 1 ≤ month && month ≤ 12 && 1 ≤ day &&
    day ≤ daysInMonth year month

end Date

structure Date where
  year : Int
  month : Nat
  day : Nat
  valid : Date.isDay year month day = true
  deriving DecidableEq, Repr

namespace Date

def ofParts? (year : Int) (month day : Nat) : Option Date :=
  if h : isDay year month day = true then some ⟨year, month, day, h⟩ else none

/-- A number of at most the given count of digits, with white space allowed before it. -/
def number? (most : Nat) (s : List Char) : Option (Nat × List Char) :=
  let s := Text.trimStartChars s
  let digits := (s.takeWhile Text.isDigit).take most
  (Text.natural? digits).map fun n => (n, s.drop digits.length)

/-- A year: four digits at most, or any number of digits behind a sign. -/
def year? (s : List Char) : Option (Int × List Char) :=
  let signed (s : List Char) : Option (Nat × List Char) :=
    (Text.natural? (s.takeWhile Text.isDigit)).map fun n => (n, s.dropWhile Text.isDigit)
  match Text.trimStartChars s with
  | '-' :: s => (signed s).map fun (n, rest) => (-(n : Int), rest)
  | '+' :: s => (signed s).map fun (n, rest) => ((n : Int), rest)
  | s => (number? 4 s).map fun (n, rest) => ((n : Int), rest)

def hyphen? : List Char → Option (List Char)
  | '-' :: rest => some rest
  | _ => none

def ofChars? (s : List Char) : Option Date := do
  let (year, s) ← year? s
  let (month, s) ← number? 2 (← hyphen? s)
  let (day, s) ← number? 2 (← hyphen? s)
  if s = [] then ofParts? year month day else none

def ofText? (s : String) : Option Date := ofChars? s.toList

def padded (width n : Nat) : List Char :=
  let digits := Nat.toDigits 10 n
  List.replicate (width - digits.length) '0' ++ digits

def yearChars (year : Int) : List Char :=
  if year < 0 then '-' :: padded 4 year.natAbs
  else if 9999 < year then '+' :: padded 4 year.natAbs
  else padded 4 year.natAbs

def chars (date : Date) : List Char :=
  yearChars date.year ++ '-' :: padded 2 date.month ++ '-' :: padded 2 date.day

def text (date : Date) : String := .ofList date.chars

end Date

end Runbook
