import Runbook.Field
import Runbook.Finding

namespace Runbook.Field

/-- The mistakes of a field that stands behind the given ones. -/
def findings (location : String) (earlier : List Field) (field : Field) : List Finding :=
  let report (message : String) := Finding.error "fields" message (location ++ "." ++ field.id)
  (if Text.isBlank field.label then [report ("Field '" ++ field.id ++ "' has an empty label")]
    else if field.label ∈ earlier.map label then
      [report ("Duplicate field label '" ++ field.label ++ "'")]
    else []) ++
  (if field.id ∈ earlier.map id then
      [report ("Duplicate field id '" ++ field.id ++ "'")]
    else []) ++
  match field.kind with
  | .radio choices =>
    if choices.length < 2 then
      [report ("Radio field '" ++ field.label ++ "' needs at least two options (has " ++
        Text.decimal choices.length ++ ")")]
    else []
  | _ => []

def checkFrom (location : String) (earlier : List Field) : List Field → List Finding
  | [] => []
  | field :: rest =>
    findings location earlier field ++ checkFrom location (earlier ++ [field]) rest

def check (location : String) (fields : List Field) : List Finding := checkFrom location [] fields

end Runbook.Field
