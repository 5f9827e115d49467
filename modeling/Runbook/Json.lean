import Runbook.Text

namespace Runbook

/-- A JSON number: an integer that fits a signed or unsigned word of 64 bits, or the bits of a
double-precision number. -/
inductive JsonNumber where
  | integer (value : Int)
  | double (bits : UInt64)
  deriving DecidableEq, Repr

/-- An object keeps its members as they were written, repetitions included. -/
inductive Json where
  | null
  | bool (value : Bool)
  | number (value : JsonNumber)
  | string (text : String)
  | array (items : List Json)
  | object (members : List (String × Json))
  deriving Repr

namespace Json

instance : Inhabited Json := ⟨null⟩

def integer (n : Int) : Json := number (.integer n)

def natural (n : Nat) : Json := integer n

def member? (name : String) (value : Option Json) : List (String × Json) :=
  match value with
  | none => []
  | some v => [(name, v)]

def orNull : Option Json → Json
  | none => null
  | some v => v

def strings (texts : List String) : Json := array (texts.map string)

/-- Writes a member at its place among members sorted by name, unless the name is there already. -/
def insertMember (name : String) (value : Json) : List (String × Json) → List (String × Json)
  | [] => [(name, value)]
  | (n, v) :: rest =>
    if name < n then (name, value) :: (n, v) :: rest
    else if name = n then (n, v) :: rest
    else (n, v) :: insertMember name value rest

mutual

/-- The value without the accidents of its notation: members sorted by name, and of members of one
name the last. -/
def canonical : Json → Json
  | array items => array (canonicalItems items)
  | object members => object (canonicalMembers members)
  | null => null
  | bool b => bool b
  | number n => number n
  | string s => string s

def canonicalItems : List Json → List Json
  | [] => []
  | item :: rest => canonical item :: canonicalItems rest

def canonicalMembers : List (String × Json) → List (String × Json)
  | [] => []
  | (name, value) :: rest => insertMember name (canonical value) (canonicalMembers rest)

end

def member (name : String) : List (String × Json) → Option Json
  | [] => none
  | (n, v) :: rest => (member name rest).or (if n = name then some v else none)

end Json

end Runbook
