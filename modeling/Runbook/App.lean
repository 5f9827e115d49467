import Runbook.Field
import Runbook.Query

namespace Runbook

inductive HttpMethod where
  | get | post | put | patch | delete | head | options
  deriving DecidableEq, Repr

namespace HttpMethod

def name : HttpMethod → String
  | get => "GET"
  | post => "POST"
  | put => "PUT"
  | patch => "PATCH"
  | delete => "DELETE"
  | head => "HEAD"
  | options => "OPTIONS"

def all : List HttpMethod := [get, post, put, patch, delete, head, options]

def words : List (String × HttpMethod) := all.map fun method => (method.name, method)

end HttpMethod

structure HttpApp where
  method : Option HttpMethod
  path : String
  parameters : List Pair
  headers : List Pair
  body : List Pair
  /-- The body comes from the caller instead of the app. -/
  dynamicBody : Bool
  deriving DecidableEq, Repr

inductive Operation where
  | http (app : HttpApp)
  | sql (query : Query)
  deriving DecidableEq, Repr

structure App where
  id : String
  name : String
  resourceId : String
  inputs : List Field
  operation : Operation
  deriving DecidableEq, Repr

structure HttpResource where
  baseUrl : String
  parameters : List Pair
  headers : List Pair
  body : List Pair
  deriving DecidableEq, Repr

structure PostgresResource where
  url : Option String
  /-- An environment variable with the address, which counts before `url`. -/
  urlVariable : Option String
  deriving DecidableEq, Repr

inductive Connection where
  | http (resource : HttpResource)
  | postgres (resource : PostgresResource)
  deriving DecidableEq, Repr

structure Resource where
  id : String
  name : String
  connection : Connection
  deriving DecidableEq, Repr

def Operation.suits : Operation → Connection → Bool
  | http _, .http _ => true
  | sql _, .postgres _ => true
  | _, _ => false

namespace HttpApp

def toJson (app : HttpApp) : Json :=
  .object (Json.member? "method" (app.method.map fun method => .string method.name) ++
    [("urlPath", .string app.path), ("urlParameters", pairsToJson app.parameters),
     ("headers", pairsToJson app.headers), ("body", pairsToJson app.body),
     ("dynamicBody", .bool app.dynamicBody)])

def ofDocument? (document : Document) : Option HttpApp := do
  let fields ← document.fields?
    ["method", "urlPath", "urlParameters", "headers", "body", "dynamicBody"]
  let method ← fields.perhaps? "method" (Document.word? HttpMethod.words)
  let path ← fields.given? "urlPath" "" Document.text?
  let parameters ← pairsIn? fields "urlParameters"
  let headers ← pairsIn? fields "headers"
  let body ← pairsIn? fields "body"
  let dynamicBody ← fields.given? "dynamicBody" false Document.bool?
  return ⟨method, path, parameters, headers, body, dynamicBody⟩

end HttpApp

namespace Operation

def kind : Operation → String
  | http _ => "http"
  | sql _ => "sql"

def toJson : Operation → Json
  | http app => .object [("http", app.toJson)]
  | sql query => .object [("sql", query.toJson)]

def ofDocument? (document : Document) : Option Operation :=
  match document.only? with
  | some ("http", value) => (HttpApp.ofDocument? value).map http
  | some ("sql", value) => (Query.ofDocument? value).map sql
  | _ => none

end Operation

namespace App

def displayName (app : App) : String := if app.name = "" then app.id else app.name

def toJson (app : App) : Json :=
  .object [("id", .string app.id), ("name", .string app.name),
    ("resourceId", .string app.resourceId), ("inputs", Field.listToJson app.inputs),
    ("operation", app.operation.toJson)]

def ofDocument? (document : Document) : Option App := do
  let fields ← document.fields? ["id", "name", "resourceId", "inputs", "operation"]
  let id ← fields.required? "id" Document.text?
  let name ← fields.given? "name" "" Document.text?
  let resourceId ← fields.required? "resourceId" Document.text?
  let inputs ← fields.given? "inputs" [] (Document.listOf? Field.ofDocument?)
  let operation ← fields.required? "operation" Operation.ofDocument?
  return ⟨id, name, resourceId, inputs, operation⟩

end App

namespace HttpResource

def toJson (resource : HttpResource) : Json :=
  .object [("baseUrl", .string resource.baseUrl),
    ("urlParameters", pairsToJson resource.parameters),
    ("headers", pairsToJson resource.headers), ("body", pairsToJson resource.body)]

def ofDocument? (document : Document) : Option HttpResource := do
  let fields ← document.fields? ["baseUrl", "urlParameters", "headers", "body"]
  let baseUrl ← fields.required? "baseUrl" Document.text?
  let parameters ← pairsIn? fields "urlParameters"
  let headers ← pairsIn? fields "headers"
  let body ← pairsIn? fields "body"
  return ⟨baseUrl, parameters, headers, body⟩

end HttpResource

namespace PostgresResource

def toJson (resource : PostgresResource) : Json :=
  .object (Json.member? "url" (resource.url.map .string) ++
    Json.member? "urlEnv" (resource.urlVariable.map .string))

def ofDocument? (document : Document) : Option PostgresResource := do
  let fields ← document.fields? ["url", "urlEnv"]
  let url ← fields.perhaps? "url" Document.text?
  let urlVariable ← fields.perhaps? "urlEnv" Document.text?
  return ⟨url, urlVariable⟩

def address? (lookup : String → Option String) (resource : PostgresResource) : Option String :=
  (resource.urlVariable.bind lookup).or resource.url

end PostgresResource

namespace Connection

def kind : Connection → String
  | http _ => "http"
  | postgres _ => "postgres"

def toJson : Connection → Json
  | http resource => .object [("http", resource.toJson)]
  | postgres resource => .object [("postgres", resource.toJson)]

def ofDocument? (document : Document) : Option Connection :=
  match document.only? with
  | some ("http", value) => (HttpResource.ofDocument? value).map http
  | some ("postgres", value) => (PostgresResource.ofDocument? value).map postgres
  | _ => none

end Connection

namespace Resource

def toJson (resource : Resource) : Json :=
  .object [("id", .string resource.id), ("name", .string resource.name),
    ("connection", resource.connection.toJson)]

def ofDocument? (document : Document) : Option Resource := do
  let fields ← document.fields? ["id", "name", "connection"]
  let id ← fields.required? "id" Document.text?
  let name ← fields.given? "name" "" Document.text?
  let connection ← fields.required? "connection" Connection.ofDocument?
  return ⟨id, name, connection⟩

end Resource

end Runbook
