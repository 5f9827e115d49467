import Runbook.Failure
import Runbook.Sql.Schema

namespace Runbook.Postgres

inductive Fault where
  | refused (message : String)
  | other (failure : Failure)

def Fault.failure : Fault → Failure
  | refused message => ⟨"error returned from database: " ++ message, [message]⟩
  | other failure => failure

structure CatalogColumn where
  name : String
  dataType : String
  /-- `YES` if the column may be empty. -/
  nullable : String
  deriving DecidableEq, Repr

structure Catalog (m : Type → Type) where
  /-- The schemas and names of tables and views, but for those of the system itself. -/
  tables : m (Except Fault (List (String × String)))
  key : String → String → m (Except Fault (List String))
  columns : String → String → m (Except Fault (List CatalogColumn))

namespace Catalog

def column (key : List String) (column : CatalogColumn) : Column where
  name := column.name
  dataType := column.dataType
  nullable := column.nullable == "YES"
  isPrimaryKey := key.contains column.name

variable {m : Type → Type} [Monad m]

def table (catalog : Catalog m) (name : String × String) : ExceptT Fault m Table := do
  let key ← catalog.key name.1 name.2
  let columns ← catalog.columns name.1 name.2
  return ⟨name.2, some name.1, columns.map (column key), key⟩

/-- All tables; asking ends with the first fault. -/
def schema (catalog : Catalog m) : ExceptT Fault m Schema := do
  let names ← catalog.tables
  let tables ← names.mapM (table catalog)
  return tables.foldl Schema.add .empty

end Catalog

end Runbook.Postgres
