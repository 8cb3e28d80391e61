import SchemaChange.Schema.Column
import SchemaChange.Schema.Index

/-!
Tables as a schema change asks for them. Unless it declines, a table gets a column of its own to
count its rows, which then is its primary key whatever key the table names.
-/
namespace SchemaChange

inductive PrimaryKey where
  | single (column : String)
  | composite (columns : List String)
deriving DecidableEq, Repr

def PrimaryKey.columns : PrimaryKey → List String
  | single column => [column]
  | composite columns => columns

/-- What a table asks for beside its columns and indexes. -/
structure TableOptions where
  implicitId : Bool := true
  primaryKey? : Option PrimaryKey := none
  engine? : Option String := none
  collation? : Option String := none
deriving DecidableEq, Repr

structure Table where
  name : String
  columns : List Column := []
  indexes : List Index := []
  options : TableOptions := {}
deriving DecidableEq

namespace Table

def idColumn : Column := { name := "id", type := .primaryKey, autoIncrement := true }

/-- The columns of the table, with the implicit one in front. -/
def allColumns (table : Table) : List Column :=
  if table.options.implicitId then idColumn :: table.columns else table.columns

/-- The key of the table, which is the implicit column when there is one. -/
def key? (table : Table) : Option PrimaryKey :=
  if table.options.implicitId then some (.single idColumn.name) else table.options.primaryKey?

def uniqueIndexes (table : Table) : List Index := table.indexes.filter (·.unique)

def plainIndexes (table : Table) : List Index := table.indexes.filter (!·.unique)

/-- The table has a name, its columns and its indexes are in order, and a key that it lists has
columns. The first that does not hold is the failure. -/
def check (table : Table) : Except Failure Unit := do
  if table.name = "" then throw .unnamedTable
  table.columns.forM Column.check
  table.indexes.forM Index.check
  if table.options.primaryKey? = some (.composite []) then throw (.emptyKey table.name)

end Table

/-- What a new database asks for. -/
structure DatabaseOptions where
  charset? : Option String := none
  collation? : Option String := none
deriving DecidableEq, Repr

def defaultCharset : String := "utf8"

end SchemaChange
