import Runbook.Json
import Runbook.Text.Digits

namespace Runbook.Json

def bracketed? : List Char → Option (List String)
  | [] => some []
  | '[' :: s =>
    match _h : Text.cut? ']' s with
    | some (c :: key, rest) => (bracketed? rest).map (.ofList (c :: key) :: ·)
    | _ => none
  | _ => none
termination_by s => s.length
decreasing_by
  have := Text.cut?_length _h
  simp
  omega

def partKeys? (part : List Char) : Option (List String) :=
  match part.takeWhile (· != '['), part.dropWhile (· != '[') with
  | [], [] => none
  | [], brackets => bracketed? brackets
  | name, brackets => (bracketed? brackets).map (.ofList name :: ·)

/-- The keys of a path from the outermost on; the empty path has none. -/
def pathKeys? (path : String) : Option (List String) :=
  if path = "" then some []
  else ((Text.pieces '.' path.toList).mapM partKeys?).map List.flatten

/-- The member of an object, or the item of an array whose number the key is. -/
def step? (json : Json) (key : String) : Option Json :=
  match json with
  | object members => member key members
  | array items => (Text.unsignedWord? 64 key.toList).bind (items[·]?)
  | _ => none

def walk? (json : Json) (keys : List String) : Option Json := keys.foldlM step? json

def lookup? (json : Json) (path : String) : Option Json := (pathKeys? path).bind json.walk?

end Runbook.Json
