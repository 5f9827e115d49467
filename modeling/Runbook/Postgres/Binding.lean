import Runbook.TypedValue

namespace Runbook.Postgres

inductive Value where
  /-- Bound as an absent text. -/
  | null
  | text (value : String)
  | int8 (value : Int)
  | numeric (value : Decimal)
  | boolean (value : Bool)
  | date (value : Date)
  deriving DecidableEq, Repr

inductive BindFault where
  | digits | numericRange
  deriving DecidableEq, Repr

def BindFault.message : BindFault → String
  | digits => "invalid digit found in string"
  | numericRange => "out of range integral type conversion attempted"

namespace Value

def typeName : Value → String
  | null => "text"
  | text _ => "text"
  | int8 _ => "int8"
  | numeric _ => "numeric"
  | boolean _ => "bool"
  | date _ => "date"

/-- The place of the first group of four digits before the point, counted from the group that ends
at the point. -/
def weight (n : Decimal) : Int :=
  let places := (Nat.toDigits 10 n.coefficient.natAbs).length - n.scale
  if places ≤ 0 then places.tdiv 4 - 1 else (places - 1).tdiv 4

/-- Places and weight are words of sixteen bits. -/
def ofDecimal (n : Decimal) : Except BindFault Value :=
  if n.scale < Nat.pow 2 15 ∧ -Nat.pow 2 15 ≤ weight n ∧ weight n < Nat.pow 2 15 then
    .ok (numeric n)
  else .error .numericRange

/-- Integers beyond 64 bits are bound as decimal numbers. -/
def ofTyped (value : TypedValue) : Except BindFault Value :=
  match value with
  | .null => .ok null
  | .text s => .ok (text s)
  | .email s => .ok (text s)
  | .choice s => .ok (text s)
  | .date d => .ok (date d)
  | .boolean b => .ok (boolean b)
  | .currency n => ofDecimal n
  | .decimal n => ofDecimal n
  | .integer digits =>
    match value.int64? with
    | some n => .ok (int8 n)
    | none =>
      match Decimal.ofText? digits with
      | some n => ofDecimal n
      | none => .error .digits

end Value

end Runbook.Postgres
