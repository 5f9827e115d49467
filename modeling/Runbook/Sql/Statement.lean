import Runbook.Query
import Runbook.Sql.Schema

namespace Runbook.Sql

/-- A value to bind, with the name of the column or parameter it is for. -/
structure Parameter where
  name : String
  value : TypedValue
  deriving DecidableEq, Repr

structure Statement where
  text : String
  /-- The value of slot `$n` stands at position `n - 1`. -/
  parameters : List Parameter
  deriving DecidableEq, Repr

def Parameter.toJson (parameter : Parameter) : Json :=
  .object [("name", .string parameter.name), ("value", parameter.value.toJson)]

namespace Statement

def members (statement : Statement) : List (String × Json) :=
  [("statementText", .string statement.text),
   ("parameters", .array (statement.parameters.map Parameter.toJson))]

def toJson (statement : Statement) : Json := .object statement.members

end Statement

/-- A condition on a column, with its values: none for a test for NULL, the items of a list
operator, and one for every other. -/
structure Predicate where
  column : String
  operator : Operator
  values : List TypedValue
  deriving DecidableEq, Repr

structure Selection where
  /-- All columns if empty. -/
  columns : List String
  schema : Option String
  table : String
  predicates : List Predicate
  orderBy : List Order
  limit : Option Nat
  deriving DecidableEq, Repr

def slotText (n : Nat) : String := "$" ++ Text.decimal n

namespace Predicate

/-- The condition with slots from the given number on. -/
def text (first : Nat) (predicate : Predicate) : String :=
  let slots := (List.range' first predicate.values.length).map slotText
  quoteName predicate.column ++ " " ++ predicate.operator.sql ++
    if !predicate.operator.takesValue then ""
    else if predicate.operator.isList then " (" ++ ", ".intercalate slots ++ ")"
    else " " ++ ", ".intercalate slots

def texts (first : Nat) : List Predicate → List String
  | [] => []
  | predicate :: rest =>
    predicate.text first :: texts (first + predicate.values.length) rest

def parameters (predicate : Predicate) : List Parameter :=
  predicate.values.map fun value => ⟨predicate.column, value⟩

end Predicate

namespace Selection

def tableText (selection : Selection) : String :=
  match selection.schema with
  | some schema => quoteName schema ++ "." ++ quoteName selection.table
  | none => quoteName selection.table

def columnsText (selection : Selection) : String :=
  if selection.columns = [] then "*" else ", ".intercalate (selection.columns.map quoteName)

def orderText (order : Order) : String := quoteName order.column ++ " " ++ order.direction.sql

def clause (keyword separator : String) (parts : List String) : String :=
  if parts = [] then "" else keyword ++ separator.intercalate parts

def text (selection : Selection) : String :=
  "SELECT " ++ selection.columnsText ++ " FROM " ++ selection.tableText ++
    clause " WHERE " " AND " (Predicate.texts 1 selection.predicates) ++
    clause " ORDER BY " ", " (selection.orderBy.map orderText) ++
    match selection.limit with
    | some n => " LIMIT " ++ Text.decimal n
    | none => ""

def statement (selection : Selection) : Statement :=
  ⟨selection.text, selection.predicates.flatMap Predicate.parameters⟩

end Selection

end Runbook.Sql
