import Runbook.App
import Runbook.Field.Validate
import Runbook.Template

namespace Runbook

structure HttpRequest where
  baseUrl : String
  parameters : List Pair
  headers : List Pair
  body : List Pair
  method : String
  deriving DecidableEq, Repr

namespace HttpRequest

def members (request : HttpRequest) : List (String × Json) :=
  [("baseUrl", .string request.baseUrl), ("urlParameters", pairsToJson request.parameters),
   ("headers", pairsToJson request.headers), ("body", pairsToJson request.body),
   ("httpMethod", .string request.method)]

def toJson (request : HttpRequest) : Json := .object request.members

def ofDocument? (document : Document) : Option HttpRequest := do
  let fields ← document.fields? ["baseUrl", "urlParameters", "headers", "body", "httpMethod"]
  let baseUrl ← fields.required? "baseUrl" Document.text?
  let pairs (name : String) := fields.required? name (Document.listOf? Pair.ofDocument?)
  let parameters ← pairs "urlParameters"
  let headers ← pairs "headers"
  let body ← pairs "body"
  let method ← fields.required? "httpMethod" Document.text?
  return ⟨baseUrl, parameters, headers, body, method⟩

end HttpRequest

namespace Http

inductive CompileError where
  | validation (errors : FieldErrors)
  | unresolved (names : Unresolved)
  | missingMethod
  | missingBaseUrl
  | dynamicBodyTooLarge (count most : Nat)

def CompileError.message : CompileError → String
  | validation errors => "invalid inputs: " ++ errors.message
  | unresolved names => names.message
  | missingMethod => "http method is not set"
  | missingBaseUrl => "resource base url is empty"
  | dynamicBodyTooLarge count most =>
    "dynamic body has " ++ Text.decimal count ++ " pairs (max " ++ Text.decimal most ++ ")"

def CompileError.kind : CompileError → String
  | validation _ => "Validation"
  | unresolved _ => "Unresolved"
  | missingMethod => "MissingMethod"
  | missingBaseUrl => "MissingBaseUrl"
  | dynamicBodyTooLarge _ _ => "DynamicBodyTooLarge"

/-- An address and a path with one slash between them; an empty path adds nothing. -/
def joinUrl (base path : String) : String :=
  if path = "" then base
  else
    let base := base.toList
    let stem := if base.getLast? = some '/' then base.dropLast else base
    let tail := match path.toList with
      | '/' :: tail => tail
      | tail => tail
    .ofList (stem ++ '/' :: tail)

structure Parts where
  path : String
  parameters : List Pair
  headers : List Pair
  resourceBody : List Pair
  appBody : List Pair

/-- The parts in the order in which missing names are reported. A dynamic body has no templates. -/
def resolveParts (values : Values) (resource : HttpResource) (app : HttpApp) :
    StateM Batch Parts := do
  let path ← Batch.resolve values app.path
  let parameters ← Batch.resolvePairs values (resource.parameters ++ app.parameters)
  let headers ← Batch.resolvePairs values (resource.headers ++ app.headers)
  let resourceBody ← Batch.resolvePairs values resource.body
  let appBody ← if app.dynamicBody then pure [] else Batch.resolvePairs values app.body
  return ⟨path, parameters, headers, resourceBody, appBody⟩

def compile (resource : HttpResource) (app : HttpApp) (inputs : List Field)
    (supplied : Dict String) (user : User) (dynamicBody : List Pair) (mostPairs : Nat) :
    Except CompileError HttpRequest := do
  let some method := app.method | throw .missingMethod
  if Text.isBlank resource.baseUrl then throw .missingBaseUrl
  let validated ← (Field.validateByLabel inputs supplied).mapError .validation
  let values := Validated.placeholders user validated
  if app.dynamicBody && mostPairs < dynamicBody.length then
    throw (.dynamicBodyTooLarge dynamicBody.length mostPairs)
  let run := (resolveParts values resource app).run Batch.start
  let parts := run.1
  (run.2.finish).mapError .unresolved
  return {
    baseUrl := joinUrl resource.baseUrl parts.path
    parameters := parts.parameters
    headers := parts.headers
    body := parts.resourceBody ++ if app.dynamicBody then dynamicBody else parts.appBody
    method := method.name }

end Http

end Runbook
