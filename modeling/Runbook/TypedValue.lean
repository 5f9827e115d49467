import Runbook.Date
import Runbook.Decimal
import Runbook.Json

namespace Runbook

inductive TypedValue where
  | null
  | text (value : String)
  | email (value : String)
  | date (value : Date)
  /-- The digits as they were entered. -/
  | integer (digits : String)
  | currency (value : Decimal)
  | decimal (value : Decimal)
  | boolean (value : Bool)
  | choice (value : String)
  deriving DecidableEq, Repr

namespace TypedValue

def render : TypedValue → String
  | null => ""
  | text s => s
  | email s => s
  | choice s => s
  | integer digits => digits
  | date d => d.text
  | currency n => n.text
  | decimal n => n.text
  | boolean b => if b then "true" else "false"

def int64? : TypedValue → Option Int
  | integer digits => Text.signedWord? 64 digits.toList
  | _ => none

def isNull (value : TypedValue) : Bool := value = null

def typeName : TypedValue → String
  | null => "null"
  | text _ => "text"
  | email _ => "email"
  | date _ => "date"
  | integer _ => "integer"
  | currency _ => "currency"
  | decimal _ => "decimal"
  | boolean _ => "boolean"
  | choice _ => "choice"

/-- The value beside its type; only booleans are not written as text. -/
def toJson (value : TypedValue) : Json :=
  .object (("type", .string value.typeName) :: match value with
    | null => []
    | boolean b => [("value", .bool b)]
    | value => [("value", .string value.render)])

end TypedValue

end Runbook
