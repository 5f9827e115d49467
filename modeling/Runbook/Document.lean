import Runbook.Document.Word
import Runbook.Json.Reader

namespace Runbook

/-- How a scalar is written, as far as its meaning depends on it. -/
inductive Scalar.Style where
  | plain | quoted | literal
  deriving DecidableEq, Repr

inductive Scalar.Tag where
  | null | bool | integer | real | other
  deriving DecidableEq, Repr

/-- A scalar keeps its text, because what it means depends on what is expected in its place. -/
structure Scalar where
  style : Scalar.Style
  tag : Option Scalar.Tag
  text : String
  deriving DecidableEq, Repr

/-- Where a collection stands, which decides what it may be read as. -/
inductive Document.Form where
  | json | yaml | settled
  deriving DecidableEq, Repr

inductive Document where
  | null
  | bool (value : Bool)
  | whole (value : Nat)
  | minus (magnitude : Nat)
  /-- A number that is no integer of 64 bits; no stored type has one, so its value is not kept. -/
  | real
  | text (value : String)
  | scalar (scalar : Scalar)
  | list (form : Document.Form) (items : List Document)
  | record (form : Document.Form) (members : List (Document × Document))
  /-- A value under a tag of the document's own. -/
  | tagged (tag : String) (content : Document)
  /-- What has no meaning, such as a number out of range or a list nested too deep. -/
  | unreadable
  deriving Repr

namespace Scalar

def isEmpty (scalar : Scalar) : Bool := scalar.style = .plain && scalar.text = ""

def isWordOf (tag : Tag) (scalar : Scalar) : Bool :=
  scalar.style = .plain || (scalar.style = .literal && scalar.tag = some tag)

/-- What a number denotes; one of 128 bits that does not fit 64 is no value. -/
def number? (s : List Char) : Option Document :=
  match Word.unsigned? s, Word.negative? s with
  | some n, _ =>
    if n < Nat.pow 2 64 then some (.whole n)
    else if n < Nat.pow 2 128 then some .unreadable else none
  | none, some n =>
    if n ≤ Nat.pow 2 63 then some (.minus n)
    else if n ≤ Nat.pow 2 127 then some .unreadable else none
  | none, none => none

/-- What a plain scalar denotes where nothing particular is expected. -/
def ofPlain (s : String) : Document :=
  if s = "" || Word.isNull s then .null
  else match Word.bool? s with
    | some b => .bool b
    | none =>
      match number? s.toList with
      | some n => n
      | none =>
        if !Word.isPadded (Word.withoutSign s.toList) && Word.isReal s.toList then .real
        else .text s

def settled (scalar : Scalar) : Document :=
  match scalar.tag with
  | none => if scalar.style = .plain then ofPlain scalar.text else .text scalar.text
  | some .null => if Word.isNull scalar.text then .null else .unreadable
  | some .bool => ((Word.bool? scalar.text).map Document.bool).getD .unreadable
  | some .integer => (number? scalar.text.toList).getD .unreadable
  | some .real => if Word.isReal scalar.text.toList then .real else .unreadable
  | some .other => .text scalar.text

end Scalar

namespace Document

mutual

def ofJson : Json → Document
  | .null => null
  | .bool b => bool b
  | .number (.integer n) => if 0 ≤ n then whole n.toNat else minus n.natAbs
  | .number (.double _) => real
  | .string s => text s
  | .array items => list .json (ofJsonItems items)
  | .object members => record .json (ofJsonMembers members)

def ofJsonItems : List Json → List Document
  | [] => []
  | item :: rest => ofJson item :: ofJsonItems rest

def ofJsonMembers : List (String × Json) → List (Document × Document)
  | [] => []
  | (name, value) :: rest => (text name, ofJson value) :: ofJsonMembers rest

end

mutual

def ofWritten : Nat → Json.Written → Document
  | _, .null => null
  | _, .bool b => bool b
  | _, .number (some (.integer n)) => if 0 ≤ n then whole n.toNat else minus n.natAbs
  | _, .number (some (.double _)) => real
  | _, .text (some s) => text s
  | levels + 1, .array items => list .json (ofWrittenItems levels items)
  | levels + 1, .object members =>
    match ofWrittenMembers levels members with
    | some members => record .json members
    | none => unreadable
  | _, _ => unreadable

def ofWrittenItems : Nat → List Json.Written → List Document
  | _, [] => []
  | levels, item :: rest => ofWritten levels item :: ofWrittenItems levels rest

def ofWrittenMembers : Nat → List (Option String × Json.Written) →
    Option (List (Document × Document))
  | _, [] => some []
  | levels, (name, value) :: rest => do
    return (text (← name), ofWritten levels value) :: (← ofWrittenMembers levels rest)

end

def ofJsonText? (text : String) : Option Document :=
  (Json.Written.ofText? text).map (ofWritten Json.nestingLimit)

mutual

/-- Decides every open scalar, if all of the document has a meaning. -/
def settle? : Document → Option Document
  | scalar s =>
    match s.settled with
    | unreadable => none
    | document => some document
  | list _ items => (settleItems? items).map (list .settled)
  | record _ members => (settleMembers? members).map (record .settled)
  | tagged _ _ => none
  | unreadable => none
  | null => some null
  | bool b => some (bool b)
  | whole n => some (whole n)
  | minus n => some (minus n)
  | real => some real
  | text s => some (text s)

def settleItems? : List Document → Option (List Document)
  | [] => some []
  | item :: rest => do return (← settle? item) :: (← settleItems? rest)

def settleMembers? : List (Document × Document) → Option (List (Document × Document))
  | [] => some []
  | (name, value) :: rest => do
    return (← settle? name, ← settle? value) :: (← settleMembers? rest)

end

def untagged : Document → Document
  | tagged _ content => content
  | document => document

def isEmpty (document : Document) : Bool :=
  match document.untagged with
  | scalar s => s.isEmpty
  | _ => false

def text? (document : Document) : Option String :=
  match document.untagged with
  | text s => some s
  | scalar s => some s.text
  | _ => none

def bool? (document : Document) : Option Bool :=
  match document.untagged with
  | bool b => some b
  | scalar s => if s.isWordOf .bool then Word.bool? s.text else none
  | _ => none

def word64? (document : Document) : Option UInt64 := do
  let n ← match document.untagged with
    | whole n => some n
    | minus 0 => some 0
    | scalar s => if s.isWordOf .integer then Word.unsigned? s.text.toList else none
    | _ => none
  if n < Nat.pow 2 64 then some (.ofNat n) else none

def optional? {α : Type} (read : Document → Option α) (document : Document) : Option (Option α) :=
  match document with
  | null => some none
  | scalar ⟨.plain, none, s⟩ =>
    if s = "" || Word.isNull s then some none else (read document).map some
  | scalar ⟨.plain, some .null, s⟩ => if Word.isNull s then some none else none
  | _ => (read document).map some

def items? (document : Document) : Option (List Document) :=
  match document.untagged with
  | list _ items => some items
  | _ => if document.isEmpty then some [] else none

def listOf? {α : Type} (read : Document → Option α) (document : Document) : Option (List α) := do
  (← document.items?).mapM read

def isNothing : Document → Bool
  | scalar s => s.style = .plain && (s.text = "" || Word.isNull s.text)
  | _ => false

/-- A word out of a table. It is a text, a tag of nothing, or the name of a member that is
nothing. -/
def word? {α : Type} (table : List (String × α)) : Document → Option α
  | text s => table.lookup s
  | scalar s => table.lookup s.text
  | tagged name content => if content.isNothing then table.lookup name else none
  | record .json [(text name, null)] => table.lookup name
  | record .settled [(text name, null)] => table.lookup name
  | record .settled [(text name, record _ [])] => table.lookup name
  | _ => none

abbrev Members : Type := List (Document × Document)

abbrev Fields : Type := List (String × Document)

def isClear (names : List String) (fields : Fields) : Bool :=
  decide ((fields.map (·.1)).filter (· ∈ names)).Nodup

/-- The field that a member's name stands for; a number counts the fields. -/
def fieldName? (names : List String) (name : Document) : Option String :=
  match name with
  | whole n => some (names.getD n "")
  | _ => name.text?

def fieldsIn? (names : List String) (members : Members) : Option Fields := do
  let fields ← members.mapM fun (name, value) => (fieldName? names name).map (·, value)
  if isClear names fields then some fields else none

/-- The fields of a record with the given names. A list stands for a record whose values it holds
in the order of the names. -/
def fields? (names : List String) (document : Document) : Option Fields :=
  match document.untagged with
  | record _ members => fieldsIn? names members
  | list form items =>
    if form ≠ .yaml ∧ items.length ≤ names.length then some (names.zip items) else none
  | _ => if document.isEmpty then some [] else none

def entries? (document : Document) : Option Fields :=
  match document.untagged with
  | record _ members => members.mapM fun (name, value) => name.text?.map (·, value)
  | _ => if document.isEmpty then some [] else none

/-- The name of a member that is kept for a later reader. -/
def keptName? (name : Document) : Option Document :=
  match name with
  | whole n => some (whole n)
  | _ => name.text?.map text

def isNamed (names : List String) (member : Document × Document) : Bool :=
  match member.1 with
  | text name => names.contains name
  | _ => false

def fieldsNamed? (names : List String) (members : Members) : Option Fields :=
  fieldsIn? names (members.filter (isNamed names))

/-- The fields of a record that are read as they are, and the settled rest. -/
def openFields? (names : List String) (document : Document) : Option (Fields × Members) :=
  match document.untagged with
  | record _ members => do
    let members ← members.mapM fun (name, value) => (keptName? name).map (·, value)
    let fields ← fieldsNamed? names members
    return (fields, ← settleMembers? (members.filter (!isNamed names ·)))
  | _ => if document.isEmpty then some ([], []) else none

def only? : Document → Option (String × Document)
  | record _ [(name, value)] => name.text?.map (·, value)
  | _ => none

namespace Fields

variable {α : Type}

def required? (fields : Fields) (name : String) (read : Document → Option α) : Option α :=
  (fields.lookup name).bind read

def given? (fields : Fields) (name : String) (absent : α) (read : Document → Option α) : Option α :=
  match fields.lookup name with
  | none => some absent
  | some document => read document

def perhaps? (fields : Fields) (name : String) (read : Document → Option α) : Option (Option α) :=
  fields.given? name none (optional? read)

end Fields

/-- One of the forms that a tag tells apart: its own fields, and how they are read. -/
structure Variant (α : Type) where
  fieldNames : List String
  read : Fields → Option α

def variant? {α : Type} (table : List (String × Variant α)) (document : Document) :
    Option (Variant α) :=
  document.text?.bind fun word => table.lookup word

/-- The variant that a word names, or its number in the table. -/
def variantOrNumber? {α : Type} (table : List (String × Variant α)) :
    Document → Option (Variant α)
  | whole n => (table[n]?).map (·.2)
  | document => variant? table document

/-- Reads members of which one is the tag. A variant without fields does not look at the others. -/
def variantIn? {α : Type} (tag : String) (which : Document → Option (Variant α))
    (members : Members) : Option α :=
  match members.filter (isNamed [tag]) with
  | [(_, word)] => do
    let variant ← which word
    if variant.fieldNames = [] then variant.read []
    else variant.read (← fieldsIn? variant.fieldNames members)
  | _ => none

/-- Reads a document whose tag is a field, or the head of a list; all but the tag is settled. -/
def tagged? {α : Type} (tag : String) (table : List (String × Variant α)) :
    Document → Option α
  | record _ members => do
    let members ← members.mapM fun (name, value) => do
      let name ← name.settle?
      let value ← if isNamed [tag] (name, value) then some value else value.settle?
      return (name, value)
    variantIn? tag (variant? table) members
  | list _ (word :: rest) => do
    let variant ← variant? table word
    let rest ← settleItems? rest
    if rest.length ≤ variant.fieldNames.length then variant.read (variant.fieldNames.zip rest)
    else none
  | _ => none

end Document

end Runbook
