import Runbook.Dashboard.Binding
import Runbook.Failure
import Runbook.Http.Compile
import Runbook.Limits
import Runbook.Sql.Compile

namespace Runbook

/-- Load inputs can be changed before loading, action inputs after it. -/
inductive Phase where
  | preLoad | postLoad
  deriving DecidableEq, Repr

def Phase.name : Phase → String
  | preLoad => "pre_load"
  | postLoad => "post_load"

def Phase.label : Phase → String
  | preLoad => "PreLoad"
  | postLoad => "PostLoad"

inductive RunError where
  | appNotFound (id : String)
  | resourceNotFound (id : String)
  | resourceMismatch (appId resourceId expected actual : String)
  | notPermitted (appId : String)
  | invalidRunInput (e : RunInputError)
  | validation (errors : FieldErrors)
  | httpCompile (e : Http.CompileError)
  | sqlCompile (e : Sql.CompileError)
  | binding (e : BindingError)
  | wrongPhase (expected actual : Phase)
  | unknownAction (id : String)
  | unknownField (id : String)
  | runInFlight
  | confirmationNotFound (id : String)
  | confirmationExpired (id : String)
  /-- The confirmation would expire later than any instant that can be represented. -/
  | expiryOutOfRange
  | sessionReset
  | collaborator (failure : Failure)

namespace RunError

def message : RunError → String
  | appNotFound id => "app not found: " ++ id
  | resourceNotFound id => "resource not found: " ++ id
  | resourceMismatch appId resourceId expected actual =>
    "app '" ++ appId ++ "' needs a " ++ expected ++ " resource but '" ++ resourceId ++ "' is " ++
      actual
  | notPermitted appId => "not permitted to run app '" ++ appId ++ "'"
  | invalidRunInput e => e.message
  | validation errors => "invalid inputs: " ++ errors.message
  | httpCompile e => e.message
  | sqlCompile e => e.message
  | binding e => e.message
  | wrongPhase expected actual =>
    "operation needs phase " ++ expected.label ++ ", session is in " ++ actual.label
  | unknownAction id => "unknown action: " ++ id
  | unknownField id => "unknown field: " ++ id
  | runInFlight => "another run is already in flight for this session"
  | confirmationNotFound id => "no pending confirmation with id " ++ id
  | confirmationExpired id => "confirmation " ++ id ++ " has expired"
  | expiryOutOfRange => "the confirmation would expire after the last representable instant"
  | sessionReset => "session was reset while the run was in flight"
  | collaborator failure => failure.message

def kind : RunError → String
  | appNotFound _ => "AppNotFound"
  | resourceNotFound _ => "ResourceNotFound"
  | resourceMismatch _ _ _ _ => "ResourceMismatch"
  | notPermitted _ => "NotPermitted"
  | invalidRunInput e => "InvalidRunInput." ++ e.kind
  | validation _ => "Validation"
  | httpCompile e => "HttpCompile." ++ e.kind
  | sqlCompile e => "SqlCompile." ++ e.kind
  | binding e => "Binding." ++ e.kind
  | wrongPhase _ _ => "WrongPhase"
  | unknownAction _ => "UnknownAction"
  | unknownField _ => "UnknownField"
  | runInFlight => "RunInFlight"
  | confirmationNotFound _ => "ConfirmationNotFound"
  | confirmationExpired _ => "ConfirmationExpired"
  | expiryOutOfRange => "ExpiryOutOfRange"
  | sessionReset => "SessionReset"
  | collaborator _ => "Collaborator"

def fieldErrors? : RunError → Option FieldErrors
  | validation errors => some errors
  | httpCompile (.validation errors) => some errors
  | sqlCompile (.validation errors) => some errors
  | _ => none

def failure : RunError → Failure
  | collaborator failure => failure
  | binding (.unresolved input names) =>
    ⟨(BindingError.unresolved input names).message, [names.message]⟩
  | e => .ofMessage e.message

end RunError

end Runbook
