import Runbook.Text

namespace Runbook

/-- A failure and its causes, the nearest first. -/
structure Failure where
  message : String
  causes : List String
  deriving DecidableEq, Repr

namespace Failure

def ofMessage (message : String) : Failure := ⟨message, []⟩

def within (context : String) (failure : Failure) : Failure :=
  ⟨context, failure.message :: failure.causes⟩

def chain (failure : Failure) : List String := failure.message :: failure.causes

def line (failure : Failure) : String := ": ".intercalate failure.chain

/-- A message of several lines, of which the first stands behind a label and the others below it. -/
def hanging (label : String) (message : String) : String :=
  let indent := "\n" ++ .ofList (List.replicate label.length ' ')
  label ++ indent.intercalate ((Text.pieces '\n' message.toList).map String.ofList)

def causesText : List String → String
  | [] => ""
  | [cause] => "\n\nCaused by:\n" ++ hanging "    " cause
  | causes => "\n\nCaused by:\n" ++ "\n".intercalate
      (causes.zipIdx.map fun (cause, i) =>
        let number := Text.decimal i
        hanging (.ofList (List.replicate (5 - number.length) ' ') ++ number ++ ": ") cause)

def report (failure : Failure) : String :=
  "Error: " ++ failure.message ++ causesText failure.causes ++ "\n"

end Failure

end Runbook
