import Runbook.Document

namespace Runbook

/-- A named value whose order and repetitions matter. -/
structure Pair where
  key : String
  value : String
  deriving DecidableEq, Repr

namespace Pair

def toJson (pair : Pair) : Json :=
  .object [("key", .string pair.key), ("value", .string pair.value)]

def ofDocument? (document : Document) : Option Pair := do
  let fields ← document.fields? ["key", "value"]
  let key ← fields.required? "key" Document.text?
  let value ← fields.required? "value" Document.text?
  return ⟨key, value⟩

end Pair

def pairsToJson (pairs : List Pair) : Json := .array (pairs.map Pair.toJson)

def pairsIn? (fields : Document.Fields) (name : String) : Option (List Pair) :=
  fields.given? name [] (Document.listOf? Pair.ofDocument?)

end Runbook
