import Runbook.Arguments
import Runbook.Pair

namespace Runbook

inductive Command where
  | check
  | compile (appId : String) (inputs body : List Pair)
  | run (appId : String) (inputs body : List Pair)
  | dashboard (id : String) (load : List Pair) (action : Option String) (actionInputs : List Pair)
      (confirmed : Bool)
  | snapshot (resourceId : String)
  deriving DecidableEq, Repr

structure Invocation where
  path : Option String
  command : Command
  deriving DecidableEq, Repr

namespace Invocation

/-- A name and a value with an equals sign between; only the name is trimmed. -/
def pair? (argument : String) : Option Pair := do
  let (name, value) ← Text.cut? '=' argument.toList
  let name := Text.trimChars name
  if name = [] then none else some ⟨.ofList name, .ofList value⟩

def common : List String := ["config", "log-level"]

def known (single repeatable flags : List String) : Arguments.Known :=
  ⟨common ++ single, repeatable, flags⟩

def arguments? (known : Arguments.Known) (words : Nat) (arguments : List String) :
    Option Arguments := do
  let arguments ← Arguments.all? known arguments
  if arguments.words.length = words ∧ arguments.isOnce known = true then some arguments else none

def pairs? (name : String) (arguments : Arguments) : Option (List Pair) :=
  (arguments.values name).mapM pair?

def appArguments? (arguments : List String) :
    Option (Arguments × String × List Pair × List Pair) := do
  let arguments ← arguments? (known [] ["input", "body"] []) 1 arguments
  let appId ← arguments.words.head?
  return (arguments, appId, ← pairs? "input" arguments, ← pairs? "body" arguments)

def dashboard? (arguments : List String) : Option (Arguments × Command) := do
  let arguments ← arguments? (known ["action"] ["load", "action-input"] ["yes"]) 1 arguments
  let id ← arguments.words.head?
  let load ← pairs? "load" arguments
  let inputs ← pairs? "action-input" arguments
  return (arguments,
    .dashboard id load (arguments.value? "action") inputs (arguments.flags.contains "yes"))

/-- The command of a name, with its arguments. The path is looked for at the innermost place. -/
def named? (name : String) (rest : List String) : Option (List Arguments × Command) := do
  match name with
  | "check" => return ([← arguments? (known [] [] []) 0 rest], .check)
  | "compile" =>
    let (arguments, appId, inputs, body) ← appArguments? rest
    return ([arguments], .compile appId inputs body)
  | "run" =>
    let (arguments, appId, inputs, body) ← appArguments? rest
    return ([arguments], .run appId inputs body)
  | "dashboard" =>
    let (arguments, command) ← dashboard? rest
    return ([arguments], command)
  | "schema" =>
    let (outer, rest) ← Arguments.leading? (known [] [] []) rest
    match rest with
    | "snapshot" :: rest =>
      let arguments ← arguments? (known ["resource"] [] []) 0 rest
      if outer.isOnce (known [] [] []) then
        return ([arguments, outer], .snapshot (← arguments.value? "resource"))
      else none
    | _ => none
  | _ => none

def ofArguments? (arguments : List String) : Option Invocation := do
  let (outer, rest) ← Arguments.leading? (known [] [] []) arguments
  match rest with
  | name :: rest =>
    let (inner, command) ← named? name rest
    let places := inner ++ [outer]
    let paths := places.flatMap (Arguments.values "config")
    if outer.isOnce (known [] [] []) && paths.all (· ≠ "") then
      return ⟨paths.head?, command⟩
    else none
  | [] => none

end Invocation

end Runbook
