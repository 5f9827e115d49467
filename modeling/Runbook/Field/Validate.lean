import Runbook.Dict
import Runbook.Field
import Runbook.TypedValue
import Runbook.User

namespace Runbook

inductive FieldError where
  | required
  | invalidEmail
  | invalidInteger
  | invalidCurrency
  | invalidOption
  | invalidDate
  | tooLong (most : Nat)
  deriving DecidableEq, Repr

def FieldError.message : FieldError → String
  | required => "required"
  | invalidEmail => "invalid email"
  | invalidInteger => "invalid integer"
  | invalidCurrency => "invalid currency"
  | invalidOption => "invalid option"
  | invalidDate => "invalid date"
  | tooLong most => "too long (max " ++ Text.decimal most ++ " characters)"

def FieldError.kind : FieldError → String
  | required => "Required"
  | invalidEmail => "InvalidEmail"
  | invalidInteger => "InvalidInteger"
  | invalidCurrency => "InvalidCurrency"
  | invalidOption => "InvalidOption"
  | invalidDate => "InvalidDate"
  | tooLong _ => "TooLong"

abbrev FieldErrors : Type := Dict FieldError

namespace FieldErrors

def message (errors : FieldErrors) : String :=
  "; ".intercalate (errors.toList.map fun (id, e) => id ++ ": " ++ e.message)

def toJson (errors : FieldErrors) : Json :=
  .object (errors.toList.map fun (id, e) => (id, .string e.message))

end FieldErrors

structure Validated where
  id : String
  label : String
  value : TypedValue
  deriving DecidableEq, Repr

namespace Field

/-- One `@` with a name before it, and a domain of two or more parts behind it, none of them empty;
white space nowhere. -/
def isEmail (s : List Char) : Bool :=
  match Text.cut? '@' s with
  | none => false
  | some (name, domain) =>
    let parts := Text.pieces '.' domain
    name ≠ [] && name.all (!Text.isSpace ·) && 2 ≤ parts.length &&
      parts.all fun part => part ≠ [] && part.all fun c => !Text.isSpace c && c != '@'

/-- Digits of any script, with at most a minus in front. -/
def isInteger : List Char → Bool
  | '-' :: digits => digits ≠ [] && digits.all Text.isAnyDigit
  | digits => digits ≠ [] && digits.all Text.isAnyDigit

def isWhole : List Char → Bool
  | ['0'] => true
  | c :: rest => '1' ≤ c && c ≤ '9' && rest.all Text.isAnyDigit
  | [] => false

/-- A whole number, with at most a point and one or two places. -/
def isAmount (s : List Char) : Bool :=
  match Text.cut? '.' s with
  | none => isWhole s
  | some (whole, places) =>
    isWhole whole && 1 ≤ places.length && places.length ≤ 2 && places.all Text.isAnyDigit

def isDatePattern : List Char → Bool
  | [a, b, c, d, '-', e, f, '-', g, h] => [a, b, c, d, e, f, g, h].all Text.isAnyDigit
  | _ => false

def validateText (kind : FieldKind) (raw : String) : Except FieldError TypedValue :=
  match kind with
  | .email => if isEmail raw.toList then .ok (.email raw) else .error .invalidEmail
  | .integer => if isInteger raw.toList then .ok (.integer raw) else .error .invalidInteger
  | .currency =>
    if isAmount raw.toList then
      match Decimal.ofText? raw with
      | some n => .ok (.currency n)
      | none => .error .invalidCurrency
    else .error .invalidCurrency
  | .radio choices =>
    if choices.any (·.value == raw) then .ok (.choice raw) else .error .invalidOption
  | .date =>
    if isDatePattern raw.toList then
      match Date.ofText? raw with
      | some d => .ok (.date d)
      | none => .error .invalidDate
    else .error .invalidDate
  | .text (some most) =>
    if most.toNat < raw.length then .error (.tooLong most.toNat) else .ok (.text raw)
  | .text none => .ok (.text raw)
  | .boolean => .ok (.boolean (raw == "true"))

/-- The value that a text denotes for a field. A boolean takes any text. -/
def validate (field : Field) (raw : String) : Except FieldError TypedValue :=
  if field.kind = .boolean then .ok (.boolean (raw == "true"))
  else if Text.isBlank raw then if field.required then .error .required else .ok .null
  else validateText field.kind raw

def rawValue (supplied : Field → Option String) (field : Field) : String :=
  (supplied field).getD field.initial

/-- The failures of a list of fields; of fields with one id the last failure counts. -/
def errorsOf (raw : Field → String) (fields : List Field) : FieldErrors :=
  fields.foldl (fun errors field =>
    match field.validate (raw field) with
    | .error e => errors.insert field.id e
    | .ok _ => errors) ∅

def valuesOf (raw : Field → String) (fields : List Field) : List Validated :=
  fields.filterMap fun field =>
    match field.validate (raw field) with
    | .ok value => some ⟨field.id, field.label, value⟩
    | .error _ => none

def validateAll (supplied : Field → Option String) (fields : List Field) :
    Except FieldErrors (List Validated) :=
  let raw := rawValue supplied
  let errors := errorsOf raw fields
  if errors.isEmpty then .ok (valuesOf raw fields) else .error errors

def validateByLabel (fields : List Field) (values : Dict String) :
    Except FieldErrors (List Validated) :=
  validateAll (fun field => values[field.label]?) fields

def validateById (fields : List Field) (values : Dict String) :
    Except FieldErrors (List Validated) :=
  validateAll (fun field => values[field.id]?) fields

end Field

namespace Validated

def byLabel? (fields : List Validated) (label : String) : Option TypedValue :=
  (fields.find? (·.label == label)).map value

def byId? (fields : List Validated) (id : String) : Option TypedValue :=
  (fields.find? (·.id == id)).map value

def rendered (fields : List Validated) : Dict String :=
  .ofPairs (fields.map fun field => (field.label, field.value.render))

/-- The values of placeholders: those of the user, and the fields by label, which count first. -/
def placeholders (user : User) (fields : List Validated) : Dict String :=
  (Dict.ofPairs user.placeholders).override (rendered fields)

end Validated

end Runbook
