import Runbook.Dict
import Runbook.Document
import Runbook.TypedValue

namespace Runbook

structure Column where
  name : String
  dataType : String
  nullable : Bool
  isPrimaryKey : Bool
  deriving DecidableEq, Repr

structure Table where
  name : String
  schema : Option String
  columns : List Column
  primaryKey : List String
  deriving DecidableEq, Repr

/-- Tables by the names under which they are found first. -/
structure Schema where
  tables : Dict Table

/-- What a column takes, as far as parameters are concerned. -/
inductive ColumnKind where
  | integer | numeric | boolean | date | text
  deriving DecidableEq, Repr

namespace Sql

def quoteName (name : String) : String :=
  "\"" ++ .ofList (name.toList.flatMap fun c => if c = '"' then ['"', '"'] else [c]) ++ "\""

end Sql

namespace ColumnKind

def ofDataType (dataType : String) : ColumnKind :=
  let name := Text.lower dataType
  let has := Text.contains name
  if has "[]" || has "array" then text
  else if name ∈ ["smallint", "integer", "bigint", "int", "int2", "int4", "int8"] ||
      has "serial" then
    integer
  else if ["numeric", "decimal", "float", "double", "real", "money"].any has then numeric
  else if has "bool" then boolean
  else if name = "date" then date
  else text

def name : ColumnKind → String
  | integer => "Integer"
  | numeric => "Numeric"
  | boolean => "Boolean"
  | date => "Date"
  | text => "Text"

def complaint (kind : ColumnKind) (raw : String) : String :=
  "'" ++ raw ++ "' is not " ++ match kind with
    | integer => "an integer"
    | numeric => "a number"
    | boolean => "a boolean"
    | date => "a date (YYYY-MM-DD)"
    | text => "a text"

/-- The value of a text without the white space around it; a text column takes it as it is. -/
def value? (kind : ColumnKind) (raw : String) : Option TypedValue :=
  let trimmed := Text.trimChars raw.toList
  match kind with
  | integer => (Text.signedWord? 64 trimmed).map fun _ => .integer (.ofList trimmed)
  | numeric => (Decimal.ofChars? trimmed).map .decimal
  | boolean =>
    match Text.lower (.ofList trimmed) with
    | "true" => some (.boolean true)
    | "t" => some (.boolean true)
    | "false" => some (.boolean false)
    | "f" => some (.boolean false)
    | _ => none
  | date => (Date.ofChars? trimmed).map .date
  | text => some (.text raw)

def coerce (kind : ColumnKind) (raw : String) : Except String TypedValue :=
  match kind.value? raw with
  | some value => .ok value
  | none => .error (kind.complaint raw)

end ColumnKind

namespace Column

def kind (column : Column) : ColumnKind := .ofDataType column.dataType

def toJson (column : Column) : Json :=
  .object [("name", .string column.name), ("data_type", .string column.dataType),
    ("nullable", .bool column.nullable), ("is_primary_key", .bool column.isPrimaryKey)]

def ofDocument? (document : Document) : Option Column := do
  let fields ← document.fields? ["name", "data_type", "nullable", "is_primary_key"]
  let name ← fields.required? "name" Document.text?
  let dataType ← fields.required? "data_type" Document.text?
  let nullable ← fields.given? "nullable" true Document.bool?
  let isPrimaryKey ← fields.given? "is_primary_key" false Document.bool?
  return ⟨name, dataType, nullable, isPrimaryKey⟩

end Column

namespace Table

def column? (table : Table) (name : String) : Option Column := table.columns.find? (·.name == name)

/-- The name behind the schema's, if it has one. -/
def qualifiedName (table : Table) : String :=
  match table.schema with
  | some schema => schema ++ "." ++ table.name
  | none => table.name

def sqlName (table : Table) : String :=
  match table.schema with
  | some schema => Sql.quoteName schema ++ "." ++ Sql.quoteName table.name
  | none => Sql.quoteName table.name

def toJson (table : Table) : Json :=
  .object ([("name", .string table.name)] ++
    Json.member? "schema" (table.schema.map .string) ++
    [("columns", .array (table.columns.map Column.toJson)),
     ("primary_key", Json.strings table.primaryKey)])

def ofDocument? (document : Document) : Option Table := do
  let fields ← document.fields? ["name", "schema", "columns", "primary_key"]
  let name ← fields.required? "name" Document.text?
  let schema ← fields.perhaps? "schema" Document.text?
  let columns ← fields.required? "columns" (Document.listOf? Column.ofDocument?)
  let primaryKey ← fields.given? "primary_key" [] (Document.listOf? Document.text?)
  return ⟨name, schema, columns, primaryKey⟩

end Table

namespace Schema

def empty : Schema := ⟨∅⟩

/-- Adds a table under its qualified name, in place of a table of the same. -/
def add (schema : Schema) (table : Table) : Schema :=
  ⟨schema.tables.insert table.qualifiedName table⟩

/-- The table of a name: the one filed under it, or else the only one with that bare name. -/
def table? (schema : Schema) (name : String) : Option Table :=
  match schema.tables[name]? with
  | some table => some table
  | none =>
    match (schema.tables.toList.map (·.2)).filter (·.name == name) with
    | [table] => some table
    | _ => none

def toJson (schema : Schema) : Json :=
  .object [("tables", .object (schema.tables.toList.map fun (name, table) => (name, table.toJson)))]

def tablesOf? (document : Document) : Option (Dict Table) := do
  let entries ← document.entries?
  return .ofPairs (← entries.mapM fun (name, value) => (Table.ofDocument? value).map (name, ·))

def ofDocument? (document : Document) : Option Schema := do
  let fields ← document.fields? ["tables"]
  let tables ← fields.required? "tables" tablesOf?
  return ⟨tables⟩

end Schema

end Runbook
