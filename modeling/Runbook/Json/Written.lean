import Runbook.Json

namespace Runbook.Json

inductive Written where
  | null
  | bool (value : Bool)
  | number (value : Option JsonNumber)
  | text (value : Option String)
  | array (items : List Written)
  | object (members : List (Option String × Written))
  deriving Repr

def nestingLimit : Nat := 127

namespace Written

mutual

/-- The value that is said, if all of it has a meaning and is nested no deeper than allowed. -/
def json? : Nat → Written → Option Json
  | _, null => some .null
  | _, bool b => some (.bool b)
  | _, number n => n.map .number
  | _, text s => s.map .string
  | 0, array _ => none
  | levels + 1, array items => (jsonItems? levels items).map .array
  | 0, object _ => none
  | levels + 1, object members => (jsonMembers? levels members).map .object

def jsonItems? : Nat → List Written → Option (List Json)
  | _, [] => some []
  | levels, item :: rest => do return (← json? levels item) :: (← jsonItems? levels rest)

def jsonMembers? : Nat → List (Option String × Written) → Option (List (String × Json))
  | _, [] => some []
  | levels, (name, value) :: rest => do
    return (← name, ← json? levels value) :: (← jsonMembers? levels rest)

end

end Written

end Runbook.Json
