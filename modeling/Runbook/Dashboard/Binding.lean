import Runbook.Dashboard
import Runbook.Field.Validate
import Runbook.Json.Path
import Runbook.Json.Printer
import Runbook.Template

namespace Runbook

structure Scope where
  load : List Validated
  action : List Validated
  output : Option Json
  user : User

inductive BindingError where
  | unknownField (input id : String)
  | missingPath (input path : String)
  | unresolved (input : String) (names : Unresolved)
  deriving DecidableEq, Repr

def BindingError.message : BindingError → String
  | unknownField input id => "binding for '" ++ input ++ "' references unknown field '" ++ id ++ "'"
  | missingPath input path =>
    "binding for '" ++ input ++ "' found nothing at prepare output path '" ++ path ++ "'"
  | unresolved input names => "binding for '" ++ input ++ "': " ++ names.message

def BindingError.kind : BindingError → String
  | unknownField _ _ => "UnknownField"
  | missingPath _ _ => "MissingPath"
  | unresolved _ _ => "Unresolved"

/-- The values of placeholders: action inputs count before load inputs, and those before
the user. -/
def Scope.values (scope : Scope) : Values :=
  (Validated.placeholders scope.user scope.load).override (Validated.rendered scope.action)

namespace Binding

def fieldText (input id : String) (fields : List Validated) : Except BindingError String :=
  match Validated.byId? fields id with
  | some value => .ok value.render
  | none => .error (.unknownField input id)

def text (scope : Scope) (binding : Binding) : Except BindingError String :=
  match binding.source with
  | .literal template =>
    ((Template.parse template).resolve scope.values).mapError (.unresolved binding.input)
  | .loadInput id => fieldText binding.input id scope.load
  | .actionInput id => fieldText binding.input id scope.action
  | .prepareOutput path =>
    match (scope.output.bind (·.lookup? path)).bind Json.rendered? with
    | some text => .ok text
    | none => .error (.missingPath binding.input path)

def bindInto (scope : Scope) (inputs : Dict String) :
    List Binding → Except BindingError (Dict String)
  | [] => .ok inputs
  | binding :: rest => do
    let text ← binding.text scope
    bindInto scope (inputs.insert binding.input text) rest

end Binding

def Board.boundInputs (board : Board) (actionId : String) (scope : Scope) :
    Except BindingError (Dict String) :=
  Binding.bindInto scope ∅ (board.bindingsOf actionId)

end Runbook
