import Runbook.Dashboard
import Runbook.Finding
import Runbook.Json.Shape

namespace Runbook

namespace Shape

def text : Shape := kind .string

def filledText : Shape := both (minLength 1) text

def flag : Shape := kind .boolean

def listOf (shape : Shape) : Shape := both (each shape) (kind .array)

def record (properties : List (String × Shape)) (names : List String) : Shape :=
  both (all (properties.map fun (name, shape) => property name shape))
    (both (all (names.map required)) (kind .object))

end Shape

namespace Field

def choiceShape : Shape := .record [("label", .text), ("value", .text)] ["value"]

/-- Of the fields only those with choices need to have any, and at least two. -/
def shape : Shape :=
  .both
    (.conditional (.property "type" (.oneOf ["radio"]))
      (.both (.property "options" (.minItems 2)) (.required "options"))
      .anything)
    (.record
      [("defaultValue", .text), ("id", .text), ("label", .filledText),
       ("maxLength", .both (.minimum 0) (.kind .integer)), ("options", .listOf choiceShape),
       ("required", .flag),
       ("type", .oneOf ["text", "email", "date", "integer", "currency", "boolean", "radio"])]
      ["id", "label", "type", "required"])

end Field

def Action.shape : Shape :=
  .record
    [("appId", .text), ("confirmEnabled", .flag), ("confirmMessage", .text),
     ("confirmTitle", .text), ("errorMessage", .text), ("id", .text), ("label", .text),
     ("section", .text), ("successMessage", .text)]
    ["id", "appId", "label", "confirmEnabled"]

def Binding.shape : Shape :=
  .both
    (.conditional (.property "sourceType" (.oneOf ["literal"])) (.required "literalValue")
      (.required "sourceKey"))
    (.record
      [("actionId", .text), ("inputName", .text), ("literalValue", .text), ("sourceKey", .text),
       ("sourceType", .oneOf ["literal", "load_input", "action_input", "prepare_output"])]
      ["actionId", "inputName", "sourceType"])

def Layout.shape : Shape :=
  .record
    [("sections", .listOf (.record [("actionIds", .listOf .text), ("name", .text)]
      ["name", "actionIds"]))]
    ["sections"]

namespace Board

def shape : Shape :=
  .record
    [("actionInputs", .listOf Field.shape), ("actions", .listOf Action.shape),
     ("bindings", .listOf Binding.shape), ("layout", Layout.shape),
     ("loadInputs", .listOf Field.shape), ("prepareAppId", .filledText)]
    ["loadInputs", "actionInputs", "actions", "bindings", "layout"]

end Board

def Dashboard.shapeFindings (dashboard : Dashboard) : List Finding :=
  (Board.shape.violations "" dashboard.board.normalize.toJson).map fun violation =>
    .error "schema" violation.message ("dashboards." ++ dashboard.id ++ violation.pointer)

end Runbook
