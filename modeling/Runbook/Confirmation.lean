import Runbook.Dashboard
import Runbook.Instant
import Runbook.RunError

namespace Runbook

/-- An action that waits for the user to confirm it. -/
structure Confirmation where
  id : String
  actionId : String
  title : String
  message : String
  created : Instant
  expires : Instant
  deriving DecidableEq, Repr

namespace Confirmation

def open? (id : String) (action : Action) (now : Instant) (seconds : Int) : Option Confirmation :=
  (now.after? seconds).map fun expires =>
    { id := id
      actionId := action.id
      title := action.confirmTitle.getD "Confirm"
      message := action.confirmMessage.getD
        ("Run " ++ (if action.label = "" then action.id else action.label) ++ "?")
      created := now
      expires := expires }

def isExpired (now : Instant) (confirmation : Confirmation) : Bool := confirmation.expires < now

def members (confirmation : Confirmation) : List (String × Json) :=
  [("id", .string confirmation.id), ("actionId", .string confirmation.actionId),
   ("title", .string confirmation.title), ("message", .string confirmation.message),
   ("createdAt", .string confirmation.created.text),
   ("expiresAt", .string confirmation.expires.text)]

end Confirmation

structure Gate where
  lifetime : Int
  pending : Option Confirmation
  deriving DecidableEq, Repr

namespace Gate

def start (lifetime : Int) : Gate := ⟨lifetime, none⟩

/-- Opens a confirmation, which replaces the one that is pending. -/
def request (id : String) (action : Action) (now : Instant) (gate : Gate) :
    Except RunError (Confirmation × Gate) :=
  match Confirmation.open? id action now gate.lifetime with
  | some confirmation => .ok (confirmation, { gate with pending := some confirmation })
  | none => .error .expiryOutOfRange

def clear (gate : Gate) : Gate := { gate with pending := none }

/-- The pending confirmation of an id, which goes on pending; an expired one is dropped. -/
def check (id : String) (now : Instant) (gate : Gate) : Except RunError Confirmation × Gate :=
  match gate.pending with
  | some confirmation =>
    if confirmation.id ≠ id then (.error (.confirmationNotFound id), gate)
    else if confirmation.isExpired now then (.error (.confirmationExpired id), gate.clear)
    else (.ok confirmation, gate)
  | none => (.error (.confirmationNotFound id), gate)

/-- Uses up the pending confirmation of an id. -/
def take (id : String) (now : Instant) (gate : Gate) : Except RunError Confirmation × Gate :=
  match gate.check id now with
  | (.ok confirmation, gate) => (.ok confirmation, gate.clear)
  | (.error e, gate) => (.error e, gate)

end Gate

end Runbook
