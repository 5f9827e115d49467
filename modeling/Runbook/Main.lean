import Runbook.Command.Run
import Runbook.Files.Tree
import Runbook.Text.Uuid

namespace Runbook

def caught {α : Type} (act : IO α) : IO (Except String α) := do
  try
    return .ok (← act)
  catch
    | .noFileOrDirectory .. => return .error Tree.noSuchFile
    | e => return .error (toString e)

def listedNames (path : String) : IO (List String) := do
  let directory ← IO.FS.realPath path
  return (← directory.readDir).toList.map (·.fileName)

def processSystem : System IO where
  files := {
    read := fun path => caught (IO.FS.readFile path)
    names := fun path => return (← caught (listedNames path)).toOption }
  present := fun path => return (← caught (IO.FS.realPath path)).toBool
  createDirectory := fun path =>
    if path = "" then return .ok () else caught (IO.FS.createDirAll path)
  write := fun path text => caught (IO.FS.writeFile path text)
  environment := fun name => IO.getEnv name
  readLine := do (← IO.getStdin).getLine
  out := fun text => IO.print text
  err := fun text => IO.eprint text
  freshId := return Text.uuid ((← IO.getRandomBytes 16).foldl (fun n b => 256 * n + b.toNat) 0)
  now := return Int.ofNat (← IO.monoNanosNow)
  network := .isolated

end Runbook

def main (arguments : List String) : IO UInt32 := do
  return (← Runbook.Invocation.main Runbook.processSystem arguments).toUInt32
