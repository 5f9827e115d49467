import Runbook.Files.Tree
import Runbook.System
import Runbook.Text.Uuid

namespace Runbook

structure Memory where
  tree : Tree
  environment : Dict String
  input : String
  out : String
  err : String
  ids : Nat
  clock : Instant

namespace Memory

def start (tree : Tree) (environment : Dict String) (input : String) : Memory :=
  ⟨tree, environment, input, "", "", 0, 0⟩

def readLine : StateM Memory String := do
  let memory ← get
  let text := memory.input.toList
  let line := match Text.cut? '\n' text with
    | some (line, _) => line ++ ['\n']
    | none => text
  set { memory with input := .ofList (text.drop line.length) }
  return .ofList line

def write (path text : String) : StateM Memory (Except String Unit) := do
  let memory ← get
  match memory.tree.write path text with
  | .ok tree =>
    set { memory with tree := tree }
    return .ok ()
  | .error reason => return .error reason

def freshId : StateM Memory String := do
  let memory ← get
  set { memory with ids := memory.ids + 1 }
  return Text.uuid memory.ids

def now : StateM Memory Instant := do
  let memory ← get
  set { memory with clock := memory.clock + 1 }
  return memory.clock

def system : System (StateM Memory) where
  files := {
    read := fun path => return (← get).tree.read path
    names := fun path => return (← get).tree.names path }
  present := fun path => return (← get).tree.present path
  createDirectory := fun _ => return .ok ()
  write := write
  environment := fun name => return (← get).environment[name]?
  readLine := readLine
  out := fun text => modify fun memory => { memory with out := memory.out ++ text }
  err := fun text => modify fun memory => { memory with err := memory.err ++ text }
  freshId := freshId
  now := now
  network := .isolated

end Memory

end Runbook
