import Runbook.Field.Validate
import Runbook.Sql.Scan
import Runbook.Sql.Statement
import Runbook.Template

namespace Runbook.Sql

inductive CompileError where
  | validation (errors : FieldErrors)
  | unresolved (names : Unresolved)
  | schemaUnavailable
  | missingTable
  | unknownTable (name : String)
  | unknownColumn (table column : String)
  | invalidLimit (text : String)
  | missingFilterValue (column : String)
  | emptyList (column : String)
  | invalidParameter (column complaint : String)
  | emptyStatement
  | unboundParameter (names : List String)
  | ambiguousParameter (name : String)

def CompileError.message : CompileError → String
  | validation errors => "invalid inputs: " ++ errors.message
  | unresolved names => names.message
  | schemaUnavailable => "no schema snapshot is available for this resource"
  | missingTable => "query has no table"
  | unknownTable name => "unknown table: " ++ name
  | unknownColumn table column => "unknown column '" ++ column ++ "' in table " ++ table
  | invalidLimit text => "invalid limit '" ++ text ++ "': expected a non-negative integer"
  | missingFilterValue column => "filter on '" ++ column ++ "' needs a value"
  | emptyList column => "filter on '" ++ column ++ "' has an empty list"
  | invalidParameter column complaint => "invalid value for '" ++ column ++ "': " ++ complaint
  | emptyStatement => "raw sql is empty"
  | unboundParameter names => "unbound parameter(s): " ++ ", ".intercalate names
  | ambiguousParameter name => "parameter '" ++ name ++ "' is declared with conflicting values"

def CompileError.kind : CompileError → String
  | validation _ => "Validation"
  | unresolved _ => "Unresolved"
  | schemaUnavailable => "SchemaUnavailable"
  | missingTable => "MissingTable"
  | unknownTable _ => "UnknownTable"
  | unknownColumn _ _ => "UnknownColumn"
  | invalidLimit _ => "InvalidLimit"
  | missingFilterValue _ => "MissingFilterValue"
  | emptyList _ => "EmptyList"
  | invalidParameter _ _ => "InvalidParameter"
  | emptyStatement => "EmptyStatement"
  | unboundParameter _ => "UnboundParameter"
  | ambiguousParameter _ => "AmbiguousParameter"

/-- A filter whose column exists, with the template of its value if its operator takes one. -/
structure CheckedFilter where
  column : Column
  operator : Operator
  template : Option String

structure CheckedQuery where
  table : Table
  columns : List String
  filters : List CheckedFilter
  orderBy : List Order
  limit : Option Nat

def tableOf (schema : Option Schema) (name : Option String) : Except CompileError Table := do
  let some schema := schema | throw .schemaUnavailable
  let some name := name | throw .missingTable
  if Text.isBlank name then throw .missingTable
  match schema.table? name with
  | some table => return table
  | none => throw (.unknownTable name)

def columnOf (table : Table) (name : String) : Except CompileError Column :=
  match table.column? name with
  | some column => .ok column
  | none => .error (.unknownColumn table.qualifiedName name)

def checkFilter (table : Table) (filter : Filter) : Except CompileError CheckedFilter := do
  let template ←
    if filter.operator.takesValue then
      match filter.value with
      | some template => pure (some template)
      | none => throw (.missingFilterValue filter.column)
    else pure none
  return ⟨← columnOf table filter.column, filter.operator, template⟩

def checkOrder (table : Table) (order : Order) : Except CompileError Order := do
  return ⟨(← columnOf table order.column).name, order.direction⟩

/-- A natural number below `2 ^ 64`; as text, nothing but digits between white space. -/
def limitOf : Limit → Except CompileError Nat
  | .number n =>
    if 0 ≤ n then .ok n.toInt.toNat else .error (.invalidLimit (Text.signedDecimal n.toInt))
  | .text s =>
    match Text.natural? (Text.trimChars s.toList) with
    | some n => if n < Nat.pow 2 64 then .ok n else .error (.invalidLimit s)
    | none => .error (.invalidLimit s)

def checkQuery (schema : Option Schema) (query : GuiQuery) : Except CompileError CheckedQuery := do
  let table ← tableOf schema query.table
  let columns ← query.columns.mapM fun name => (columnOf table name).map Column.name
  let filters ← query.filters.mapM (checkFilter table)
  let orderBy ← query.orderBy.mapM (checkOrder table)
  let limit ← query.limit.mapM limitOf
  return ⟨table, columns, filters, orderBy, limit⟩

/-- The items of a list: what stands between commas, trimmed, unless blank. -/
def listItems (text : String) : List String :=
  (((Text.pieces ',' text.toList).map Text.trimChars).filter (· ≠ [])).map .ofList

/-- The value of a text for a filter; a pattern is text whatever the column. -/
def filterValue (filter : CheckedFilter) (text : String) : Except CompileError TypedValue :=
  if filter.operator.isPattern then .ok (.text text)
  else match filter.column.kind.coerce text with
    | .ok value => .ok value
    | .error complaint => .error (.invalidParameter filter.column.name complaint)

def filterValues (filter : CheckedFilter) (resolved : Option String) :
    Except CompileError (List TypedValue) :=
  match resolved with
  | none => .ok []
  | some text =>
    if filter.operator.isList then
      match listItems text with
      | [] => .error (.emptyList filter.column.name)
      | items => items.mapM (filterValue filter)
    else (filterValue filter text).map fun value => [value]

def predicateOf (filter : CheckedFilter) (resolved : Option String) :
    Except CompileError Predicate :=
  (filterValues filter resolved).map fun values => ⟨filter.column.name, filter.operator, values⟩

/-- The texts of the filters' values, all resolved or none. -/
def resolveFilters (values : Values) (filters : List CheckedFilter) :
    Except CompileError (List (Option String)) :=
  let run := (filters.mapM fun filter : CheckedFilter =>
    filter.template.mapM (Batch.resolve values)).run Batch.start
  match run.2.finish with
  | .ok () => .ok run.1
  | .error names => .error (.unresolved names)

def selectionOf (values : Values) (schema : Option Schema) (query : GuiQuery) :
    Except CompileError Selection := do
  let checked ← checkQuery schema query
  let texts ← resolveFilters values checked.filters
  let predicates ← (checked.filters.zip texts).mapM fun (filter, text) => predicateOf filter text
  return ⟨checked.columns, checked.table.schema, checked.table.name, predicates, checked.orderBy,
    checked.limit⟩

/-- The name that a declaration is for: its key, trimmed, without leading `@`. -/
def declaredName (pair : Pair) : String :=
  .ofList ((Text.trimChars pair.key.toList).dropWhile (· == '@'))

def templatesFor (parameters : List Pair) (name : String) : List Template :=
  (parameters.filter (declaredName · == name)).map fun pair => .parse pair.value

structure Bound where
  name : String
  templates : List Template
  texts : List String

def resolveNames (values : Values) (parameters : List Pair) (names : List String) :
    Except CompileError (List Bound) :=
  let run := (names.mapM fun name => do
    let templates := templatesFor parameters name
    return Bound.mk name templates (← templates.mapM (Batch.render values))).run Batch.start
  match run.2.finish with
  | .ok () => .ok run.1
  | .error e => .error (.unresolved e)

def conflicting (texts : List String) : Bool :=
  (texts.zip texts.tail).any fun adjacent => adjacent.1 != adjacent.2

/-- The value of a name: that of the field a lone placeholder stands for, or else the text. -/
def parameterOf (validated : List Validated) (bound : Bound) : Except CompileError Parameter :=
  match bound.templates, bound.texts with
  | template :: _, text :: _ =>
    if conflicting bound.texts then .error (.ambiguousParameter bound.name)
    else .ok ⟨bound.name, (template.single?.bind (Validated.byLabel? validated)).getD (.text text)⟩
  | _, _ => .error (.unboundParameter [bound.name])

def compileRaw (values : Values) (validated : List Validated) (query : RawQuery) :
    Except CompileError Statement := do
  if Text.isBlank query.sql then throw .emptyStatement
  let scan := Scan.ofText query.sql
  let bound ← resolveNames values query.parameters scan.names
  match scan.names.filter fun name => (templatesFor query.parameters name).isEmpty with
  | [] => return ⟨scan.text, ← bound.mapM (parameterOf validated)⟩
  | unbound => throw (.unboundParameter unbound)

def compile (query : Query) (inputs : List Field) (supplied : Dict String) (user : User)
    (schema : Option Schema) : Except CompileError Statement := do
  let validated ← (Field.validateByLabel inputs supplied).mapError .validation
  let values := Validated.placeholders user validated
  match query with
  | .gui query => return (← selectionOf values schema query).statement
  | .raw query => compileRaw values validated query

end Runbook.Sql
