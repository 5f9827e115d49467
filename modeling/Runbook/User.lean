import Runbook.Document

namespace Runbook

structure User where
  id : String
  name : String
  email : String
  deriving DecidableEq, Repr

namespace User

def anonymous : User := ⟨"", "", ""⟩

def placeholders (user : User) : List (String × String) :=
  [("current_user.id", user.id), ("current_user.name", user.name),
   ("current_user.email", user.email)]

def toJson (user : User) : Json :=
  .object [("id", .string user.id), ("name", .string user.name), ("email", .string user.email)]

def ofDocument? (document : Document) : Option User := do
  let fields ← document.fields? ["id", "name", "email"]
  let id ← fields.required? "id" Document.text?
  let name ← fields.given? "name" "" Document.text?
  let email ← fields.given? "email" "" Document.text?
  return ⟨id, name, email⟩

end User

end Runbook
