import Runbook.Confirmation
import Runbook.Files
import Runbook.Network

namespace Runbook

structure System (m : Type → Type) where
  files : Files m
  present : String → m Bool
  /-- Makes a directory, and those that lead to it. -/
  createDirectory : String → m (Except String Unit)
  write : String → String → m (Except String Unit)
  environment : String → m (Option String)
  readLine : m String
  out : String → m Unit
  err : String → m Unit
  freshId : m String
  now : m Instant
  network : Network m

end Runbook
