import Runbook.Pair

namespace Runbook

inductive Operator where
  | equal | notEqual | greater | greaterEqual | less | lessEqual
  | oneOf | noneOf | like | ilike | isNull | isNotNull
  deriving DecidableEq, Repr

structure Filter where
  column : String
  operator : Operator
  value : Option String
  deriving DecidableEq, Repr

inductive Direction where
  | ascending | descending
  deriving DecidableEq, Repr

structure Order where
  column : String
  direction : Direction
  deriving DecidableEq, Repr

inductive Limit where
  | number (value : Int64)
  | text (value : String)
  deriving DecidableEq, Repr

/-- A query over one table, put together from parts. -/
structure GuiQuery where
  table : Option String
  columns : List String
  filters : List Filter
  limit : Option Limit
  orderBy : List Order
  deriving DecidableEq, Repr

/-- A query written out in SQL, with a template for each parameter. -/
structure RawQuery where
  sql : String
  parameters : List Pair
  deriving DecidableEq, Repr

inductive Query where
  | gui (query : GuiQuery)
  | raw (query : RawQuery)
  deriving DecidableEq, Repr

namespace Operator

def sql : Operator → String
  | equal => "="
  | notEqual => "!="
  | greater => ">"
  | greaterEqual => ">="
  | less => "<"
  | lessEqual => "<="
  | oneOf => "IN"
  | noneOf => "NOT IN"
  | like => "LIKE"
  | ilike => "ILIKE"
  | isNull => "IS NULL"
  | isNotNull => "IS NOT NULL"

def all : List Operator :=
  [equal, notEqual, greater, greaterEqual, less, lessEqual, oneOf, noneOf, like, ilike, isNull,
   isNotNull]

def words : List (String × Operator) := all.map fun operator => (operator.sql, operator)

def takesValue (operator : Operator) : Bool := operator ≠ isNull && operator ≠ isNotNull

def isList (operator : Operator) : Bool := operator = oneOf || operator = noneOf

/-- The operators whose value is a pattern, and so not of the column's type. -/
def isPattern (operator : Operator) : Bool := operator = like || operator = ilike

end Operator

namespace Filter

def toJson (filter : Filter) : Json :=
  .object ([("column", .string filter.column), ("operator", .string filter.operator.sql)] ++
    Json.member? "value" (filter.value.map .string))

def ofDocument? (document : Document) : Option Filter := do
  let fields ← document.fields? ["column", "operator", "value"]
  let column ← fields.required? "column" Document.text?
  let operator ← fields.required? "operator" (Document.word? Operator.words)
  let value ← fields.perhaps? "value" Document.text?
  return ⟨column, operator, value⟩

end Filter

namespace Direction

def sql : Direction → String
  | ascending => "ASC"
  | descending => "DESC"

def words : List (String × Direction) :=
  [("ASC", ascending), ("asc", ascending), ("DESC", descending), ("desc", descending)]

end Direction

namespace Order

def toJson (order : Order) : Json :=
  .object [("column", .string order.column), ("direction", .string order.direction.sql)]

def ofDocument? (document : Document) : Option Order := do
  let fields ← document.fields? ["column", "direction"]
  let column ← fields.required? "column" Document.text?
  let direction ← fields.given? "direction" .ascending (Document.word? Direction.words)
  return ⟨column, direction⟩

end Order

namespace Limit

def toJson : Limit → Json
  | number n => .integer n.toInt
  | text s => .string s

def ofDocument? (document : Document) : Option Limit :=
  match document.settle? with
  | some (.whole n) => if n < Nat.pow 2 63 then some (number (.ofNat n)) else none
  | some (.minus n) => if n ≤ Nat.pow 2 63 then some (number (.ofInt (-n))) else none
  | some (.text s) => some (text s)
  | _ => none

end Limit

namespace GuiQuery

def members (query : GuiQuery) : List (String × Json) :=
  Json.member? "table" (query.table.map .string) ++
    [("columns", Json.strings query.columns),
     ("filters", .array (query.filters.map Filter.toJson))] ++
    Json.member? "limit" (query.limit.map Limit.toJson) ++
    [("orderBy", .array (query.orderBy.map Order.toJson))]

def fieldNames : List String := ["table", "columns", "filters", "limit", "orderBy"]

def ofFields? (fields : Document.Fields) : Option GuiQuery := do
  let table ← fields.perhaps? "table" Document.text?
  let columns ← fields.given? "columns" [] (Document.listOf? Document.text?)
  let filters ← fields.given? "filters" [] (Document.listOf? Filter.ofDocument?)
  let limit ← fields.perhaps? "limit" Limit.ofDocument?
  let orderBy ← fields.given? "orderBy" [] (Document.listOf? Order.ofDocument?)
  return ⟨table, columns, filters, limit, orderBy⟩

end GuiQuery

namespace RawQuery

def members (query : RawQuery) : List (String × Json) :=
  [("rawSql", .string query.sql), ("rawSqlParams", pairsToJson query.parameters)]

def fieldNames : List String := ["rawSql", "rawSqlParams"]

def ofFields? (fields : Document.Fields) : Option RawQuery := do
  let sql ← fields.given? "rawSql" "" Document.text?
  let parameters ← pairsIn? fields "rawSqlParams"
  return ⟨sql, parameters⟩

end RawQuery

namespace Query

def toJson : Query → Json
  | gui query => .object (("mode", .string "gui") :: query.members)
  | raw query => .object (("mode", .string "raw") :: query.members)

def variants : List (String × Document.Variant Query) :=
  [("gui", ⟨GuiQuery.fieldNames, fun fields => (GuiQuery.ofFields? fields).map gui⟩),
   ("raw", ⟨RawQuery.fieldNames, fun fields => (RawQuery.ofFields? fields).map raw⟩)]

def ofDocument? : Document → Option Query := Document.tagged? "mode" variants

end Query

end Runbook
