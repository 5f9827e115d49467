import Runbook.Dashboard
import Runbook.Field.Check

namespace Runbook.Board

def duplicateActions (location : String) (board : Board) : List Finding :=
  (repeated [] (board.actions.map (·.id))).map fun id =>
    .error "actions" ("Duplicate action id '" ++ id ++ "'") (location ++ ".actions." ++ id)

def sourceProblems (board : Board) : Source → List String
  | .literal _ => []
  | .loadInput key =>
    if (Field.find? board.loadInputs key).isNone then
      ["Binding references unknown load input '" ++ key ++ "'"]
    else []
  | .actionInput key =>
    if (Field.find? board.actionInputs key).isNone then
      ["Binding references unknown action input '" ++ key ++ "'"]
    else []
  | .prepareOutput key =>
    (if board.prepareAppId.isNone then
      ["Binding reads prepare output '" ++ key ++ "' but no prepare app is configured"]
    else []) ++
    (if Text.isBlank key then ["Prepare output binding has an empty path"] else [])

def bindingProblems (board : Board) (binding : Binding) : List String :=
  (if (board.action? binding.actionId).isNone then
    ["Binding for input '" ++ binding.input ++ "' references unknown action '" ++
      binding.actionId ++ "'"]
  else []) ++ sourceProblems board binding.source

def bindingFindings (location : String) (board : Board) : List Finding :=
  board.bindings.zipIdx.flatMap fun (binding, i) =>
    (bindingProblems board binding).map fun message =>
      .error "bindings" message (location ++ ".bindings[" ++ Text.decimal i ++ "]")

def unboundActions (location : String) (board : Board) : List Finding :=
  (board.actions.filter fun action => (board.bindingsOf action.id).isEmpty).map fun action =>
    .warning "bindings" ("Action '" ++ action.id ++ "' has no input bindings")
      (location ++ ".actions." ++ action.id)

def check (location : String) (board : Board) : List Finding :=
  Field.check (location ++ ".loadInputs") board.loadInputs ++
    Field.check (location ++ ".actionInputs") board.actionInputs ++
    duplicateActions location board ++ bindingFindings location board ++
    unboundActions location board

end Runbook.Board
