import Runbook.Document

namespace Runbook

structure Choice where
  value : String
  label : Option String
  deriving DecidableEq, Repr

inductive FieldKind where
  | text (maxLength : Option UInt64)
  | email
  | date
  | integer
  | currency
  | boolean
  | radio (choices : List Choice)
  deriving DecidableEq, Repr

structure Field where
  id : String
  label : String
  kind : FieldKind
  required : Bool
  default : Option String
  deriving DecidableEq, Repr

namespace Choice

def toJson (choice : Choice) : Json :=
  .object (("value", .string choice.value) :: Json.member? "label" (choice.label.map .string))

def ofDocument? (document : Document) : Option Choice := do
  let fields ← document.fields? ["value", "label"]
  let value ← fields.required? "value" Document.text?
  let label ← fields.perhaps? "label" Document.text?
  return ⟨value, label⟩

end Choice

namespace FieldKind

def name : FieldKind → String
  | text _ => "text"
  | email => "email"
  | date => "date"
  | integer => "integer"
  | currency => "currency"
  | boolean => "boolean"
  | radio _ => "radio"

def members (kind : FieldKind) : List (String × Json) :=
  ("type", .string kind.name) :: match kind with
    | text maxLength => Json.member? "maxLength" (maxLength.map fun n => Json.natural n.toNat)
    | radio choices => [("options", .array (choices.map Choice.toJson))]
    | _ => []

def variants : List (String × Document.Variant FieldKind) :=
  [("text", ⟨["maxLength"], fun fields => (fields.perhaps? "maxLength" Document.word64?).map text⟩),
   ("email", ⟨[], fun _ => some email⟩),
   ("date", ⟨[], fun _ => some date⟩),
   ("integer", ⟨[], fun _ => some integer⟩),
   ("currency", ⟨[], fun _ => some currency⟩),
   ("boolean", ⟨[], fun _ => some boolean⟩),
   ("radio", ⟨["options"], fun fields =>
      (fields.given? "options" [] (Document.listOf? Choice.ofDocument?)).map radio⟩)]

def toJson (kind : FieldKind) : Json := .object kind.members

def ofDocument? : Document → Option FieldKind := Document.tagged? "type" variants

end FieldKind

namespace Field

def initial (field : Field) : String := field.default.getD ""

def toJson (field : Field) : Json :=
  .object ([("id", .string field.id), ("label", .string field.label)] ++ field.kind.members ++
    [("required", .bool field.required)] ++
    Json.member? "defaultValue" (field.default.map .string))

def ofDocument? (document : Document) : Option Field := do
  let (fields, rest) ← document.openFields? ["id", "label", "required", "defaultValue"]
  let id ← fields.required? "id" Document.text?
  let label ← fields.required? "label" Document.text?
  let kind ← Document.variantIn? "type" (Document.variantOrNumber? FieldKind.variants) rest
  let required ← fields.given? "required" false Document.bool?
  let default ← fields.perhaps? "defaultValue" Document.text?
  return ⟨id, label, kind, required, default⟩

def find? (fields : List Field) (id : String) : Option Field := fields.find? (·.id == id)

def listToJson (fields : List Field) : Json := .array (fields.map toJson)

end Field

end Runbook
