import Runbook.Dict
import Runbook.Document

namespace Runbook

structure Limits where
  dynamicBodyPairs : UInt64
  inputTitleLength : UInt64
  inputValueLength : UInt64
  confirmationSeconds : UInt64
  deriving DecidableEq, Repr

namespace Limits

def standard : Limits := ⟨10, 255, 1000, 600⟩

def toJson (limits : Limits) : Json :=
  .object [("max_dynamic_body_pairs", .natural limits.dynamicBodyPairs.toNat),
    ("max_run_input_title_len", .natural limits.inputTitleLength.toNat),
    ("max_run_input_value_len", .natural limits.inputValueLength.toNat),
    ("confirmation_ttl_secs", .natural limits.confirmationSeconds.toNat)]

def ofDocument? (document : Document) : Option Limits := do
  let fields ← document.fields?
    ["max_dynamic_body_pairs", "max_run_input_title_len", "max_run_input_value_len",
     "confirmation_ttl_secs"]
  let pairs ← fields.given? "max_dynamic_body_pairs" standard.dynamicBodyPairs Document.word64?
  let title ← fields.given? "max_run_input_title_len" standard.inputTitleLength Document.word64?
  let value ← fields.given? "max_run_input_value_len" standard.inputValueLength Document.word64?
  let seconds ← fields.given? "confirmation_ttl_secs" standard.confirmationSeconds Document.word64?
  return ⟨pairs, title, value, seconds⟩

end Limits

structure RunInput where
  title : String
  value : String
  deriving DecidableEq, Repr

inductive RunInputError where
  | invalidTitle (title : String) (most : Nat)
  | valueTooLong (title : String) (most : Nat)
  | duplicateTitle (title : String)
  deriving DecidableEq, Repr

def RunInputError.message : RunInputError → String
  | invalidTitle title most =>
    "input title '" ++ title ++ "' must be between 1 and " ++ Text.decimal most ++ " characters"
  | valueTooLong title most =>
    "value for '" ++ title ++ "' exceeds " ++ Text.decimal most ++ " characters"
  | duplicateTitle title => "input '" ++ title ++ "' was supplied more than once"

def RunInputError.kind : RunInputError → String
  | invalidTitle _ _ => "InvalidTitle"
  | valueTooLong _ _ => "ValueTooLong"
  | duplicateTitle _ => "DuplicateTitle"

namespace RunInput

def toJson (input : RunInput) : Json :=
  .object [("title", .string input.title), ("value", .string input.value)]

def ofDocument? (document : Document) : Option RunInput := do
  let fields ← document.fields? ["title", "value"]
  let title ← fields.required? "title" Document.text?
  let value ← fields.required? "value" Document.text?
  return ⟨title, value⟩

def validate (limits : Limits) (input : RunInput) : Except RunInputError Unit :=
  if input.title.length = 0 ∨ limits.inputTitleLength.toNat < input.title.length then
    .error (.invalidTitle input.title limits.inputTitleLength.toNat)
  else if limits.inputValueLength.toNat < input.value.length then
    .error (.valueTooLong input.title limits.inputValueLength.toNat)
  else .ok ()

def collectInto (limits : Limits) (values : Dict String) :
    List RunInput → Except RunInputError (Dict String)
  | [] => .ok values
  | input :: rest => do
    input.validate limits
    if values.contains input.title then throw (.duplicateTitle input.title)
    collectInto limits (values.insert input.title input.value) rest

/-- The values by title, unless an input is invalid or repeats a title. -/
def collect (limits : Limits) (inputs : List RunInput) : Except RunInputError (Dict String) :=
  collectInto limits ∅ inputs

end RunInput

end Runbook
