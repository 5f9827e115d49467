import Runbook.Field

namespace Runbook

structure Action where
  id : String
  appId : String
  label : String
  group : Option String
  confirms : Bool
  confirmTitle : Option String
  confirmMessage : Option String
  successMessage : Option String
  errorMessage : Option String
  deriving DecidableEq, Repr

inductive Source where
  | literal (template : String)
  | loadInput (id : String)
  | actionInput (id : String)
  | prepareOutput (path : String)
  deriving DecidableEq, Repr

structure Binding where
  actionId : String
  input : String
  source : Source
  deriving DecidableEq, Repr

structure Group where
  name : String
  actionIds : List String
  deriving DecidableEq, Repr

structure Layout where
  groups : List Group
  deriving DecidableEq, Repr

structure Board where
  prepareAppId : Option String
  loadInputs : List Field
  actionInputs : List Field
  actions : List Action
  bindings : List Binding
  layout : Layout
  deriving DecidableEq, Repr

structure Dashboard where
  id : String
  name : String
  board : Board
  deriving DecidableEq, Repr

namespace Action

def defaultGroup : String := "default"

def groupName (action : Action) : String := action.group.getD defaultGroup

def toJson (action : Action) : Json :=
  .object ([("id", .string action.id), ("appId", .string action.appId),
      ("label", .string action.label)] ++
    Json.member? "section" (action.group.map .string) ++
    [("confirmEnabled", .bool action.confirms)] ++
    Json.member? "confirmTitle" (action.confirmTitle.map .string) ++
    Json.member? "confirmMessage" (action.confirmMessage.map .string) ++
    Json.member? "successMessage" (action.successMessage.map .string) ++
    Json.member? "errorMessage" (action.errorMessage.map .string))

def ofDocument? (document : Document) : Option Action := do
  let fields ← document.fields?
    ["id", "appId", "label", "section", "confirmEnabled", "confirmTitle", "confirmMessage",
     "successMessage", "errorMessage"]
  let id ← fields.required? "id" Document.text?
  let appId ← fields.required? "appId" Document.text?
  let label ← fields.given? "label" "" Document.text?
  let group ← fields.perhaps? "section" Document.text?
  let confirms ← fields.given? "confirmEnabled" false Document.bool?
  let confirmTitle ← fields.perhaps? "confirmTitle" Document.text?
  let confirmMessage ← fields.perhaps? "confirmMessage" Document.text?
  let successMessage ← fields.perhaps? "successMessage" Document.text?
  let errorMessage ← fields.perhaps? "errorMessage" Document.text?
  return ⟨id, appId, label, group, confirms, confirmTitle, confirmMessage, successMessage,
    errorMessage⟩

end Action

namespace Source

def kind : Source → String
  | literal _ => "literal"
  | loadInput _ => "load_input"
  | actionInput _ => "action_input"
  | prepareOutput _ => "prepare_output"

def members (source : Source) : List (String × Json) :=
  ("sourceType", .string source.kind) :: match source with
    | literal template => [("literalValue", .string template)]
    | loadInput key => [("sourceKey", .string key)]
    | actionInput key => [("sourceKey", .string key)]
    | prepareOutput key => [("sourceKey", .string key)]

def keyed (source : String → Source) : Document.Variant Source :=
  ⟨["sourceKey"], fun fields => (fields.required? "sourceKey" Document.text?).map source⟩

def variants : List (String × Document.Variant Source) :=
  [("literal", ⟨["literalValue"], fun fields =>
      (fields.given? "literalValue" "" Document.text?).map literal⟩),
   ("load_input", keyed loadInput),
   ("action_input", keyed actionInput),
   ("prepare_output", keyed prepareOutput)]

def toJson (source : Source) : Json := .object source.members

def ofDocument? : Document → Option Source := Document.tagged? "sourceType" variants

end Source

namespace Binding

def toJson (binding : Binding) : Json :=
  .object ([("actionId", .string binding.actionId), ("inputName", .string binding.input)] ++
    binding.source.members)

def ofDocument? (document : Document) : Option Binding := do
  let (fields, rest) ← document.openFields? ["actionId", "inputName"]
  let actionId ← fields.required? "actionId" Document.text?
  let input ← fields.required? "inputName" Document.text?
  let source ← Document.variantIn? "sourceType" (Document.variantOrNumber? Source.variants) rest
  return ⟨actionId, input, source⟩

end Binding

namespace Group

def toJson (group : Group) : Json :=
  .object [("name", .string group.name), ("actionIds", Json.strings group.actionIds)]

def ofDocument? (document : Document) : Option Group := do
  let fields ← document.fields? ["name", "actionIds"]
  let name ← fields.required? "name" Document.text?
  let actionIds ← fields.given? "actionIds" [] (Document.listOf? Document.text?)
  return ⟨name, actionIds⟩

end Group

namespace Layout

def place (action : Action) : List Group → List Group
  | [] => [⟨action.groupName, [action.id]⟩]
  | group :: rest =>
    if group.name = action.groupName then ⟨group.name, group.actionIds ++ [action.id]⟩ :: rest
    else group :: place action rest

/-- The groups of actions, in the order of their first appearance. -/
def ofActions (actions : List Action) : Layout :=
  ⟨actions.foldl (fun groups action => place action groups) []⟩

def toJson (layout : Layout) : Json :=
  .object [("sections", .array (layout.groups.map Group.toJson))]

def ofDocument? (document : Document) : Option Layout := do
  let fields ← document.fields? ["sections"]
  let groups ← fields.given? "sections" [] (Document.listOf? Group.ofDocument?)
  return ⟨groups⟩

end Layout

namespace Board

/-- The layout follows from the actions, whatever was stored. -/
def normalize (board : Board) : Board := { board with layout := .ofActions board.actions }

def action? (board : Board) (id : String) : Option Action := board.actions.find? (·.id == id)

def bindingsOf (board : Board) (actionId : String) : List Binding :=
  board.bindings.filter (·.actionId == actionId)

def members (board : Board) : List (String × Json) :=
  Json.member? "prepareAppId" (board.prepareAppId.map .string) ++
    [("loadInputs", Field.listToJson board.loadInputs),
     ("actionInputs", Field.listToJson board.actionInputs),
     ("actions", .array (board.actions.map Action.toJson)),
     ("bindings", .array (board.bindings.map Binding.toJson)),
     ("layout", board.layout.toJson)]

def toJson (board : Board) : Json := .object board.members

def fieldNames : List String :=
  ["prepareAppId", "loadInputs", "actionInputs", "actions", "bindings", "layout"]

def ofFields? (fields : Document.Fields) : Option Board := do
  let prepareAppId ← fields.perhaps? "prepareAppId" Document.text?
  let loadInputs ← fields.given? "loadInputs" [] (Document.listOf? Field.ofDocument?)
  let actionInputs ← fields.given? "actionInputs" [] (Document.listOf? Field.ofDocument?)
  let actions ← fields.given? "actions" [] (Document.listOf? Action.ofDocument?)
  let bindings ← fields.given? "bindings" [] (Document.listOf? Binding.ofDocument?)
  let layout ← fields.given? "layout" ⟨[]⟩ Layout.ofDocument?
  return ⟨prepareAppId, loadInputs, actionInputs, actions, bindings, layout⟩

def ofDocument? (document : Document) : Option Board := do
  ofFields? (← document.fields? fieldNames)

def stored (board : Board) : Json := board.normalize.toJson

/-- The board that a document keeps; a layout kept with it does not count. -/
def ofStored? (document : Document) : Option Board := (ofDocument? document).map normalize

end Board

namespace Dashboard

def toJson (dashboard : Dashboard) : Json :=
  .object ([("id", .string dashboard.id), ("name", .string dashboard.name)] ++
    dashboard.board.members)

/-- Everything but the id and the name is settled before it is read. -/
def ofDocument? (document : Document) : Option Dashboard := do
  let (fields, rest) ← document.openFields? ["id", "name"]
  let id ← fields.required? "id" Document.text?
  let name ← fields.given? "name" "" Document.text?
  let board ← Board.ofFields? (← Document.fieldsNamed? Board.fieldNames rest)
  return ⟨id, name, board⟩

def normalize (dashboard : Dashboard) : Dashboard :=
  { dashboard with board := dashboard.board.normalize }

end Dashboard

end Runbook
