import SchemaChange.Dialogue
import SchemaChange.Settings
import SchemaChange.Statement

/-!
A client speaks one dialect under given settings. Its lookups ask the catalog; a name of a table
with a schema is looked up in that schema, and any other in the schema of the settings. Names are
compared without regard to case.
-/
namespace SchemaChange

structure Client (δ : Type) where
  dialect : δ
  settings : Settings
deriving DecidableEq, Repr

namespace Client

variable {δ : Type} [Catalog δ] (client : Client δ)

def tablesIn (schema? : Option String) : Action (List String) :=
  Action.queryMap (Dialect.listTables client.dialect schema?) (Catalog.decodeTable client.dialect)

def tables : Action (List String) := client.tablesIn client.settings.database?

def hasTable (table : String) : Action Bool := do
  let schema? := (Text.QualifiedName.schema? table).or client.settings.database?
  let names ← client.tablesIn schema?
  return names.any fun name => Text.sameName name (Text.QualifiedName.table table)

def columns (table : String) : Action (List ListedColumn) :=
  Action.queryMap (Dialect.listColumns client.dialect table) (Catalog.decodeColumn client.dialect)

/-- The first listed column of a name. -/
def column? (table column : String) : Action (Option ListedColumn) := do
  let listed ← client.columns table
  return listed.find? fun c => Text.sameName c.name column

def hasColumn (table column : String) : Action Bool := do
  let found ← client.column? table column
  return found.isSome

def indexes (table : String) : Action (List ListedIndex) := do
  let parts ← Action.queryMap (Dialect.listIndexes client.dialect table)
    (Catalog.decodeIndexPart client.dialect)
  return ListedIndex.ofParts (parts.filterMap id)

/-- Some index has all of the columns. A lookup without columns is refused before any query. -/
def hasIndex (table : String) (columns : List String) : Action Bool := do
  if columns = [] then throw (.emptyLookup table)
  let listed ← client.indexes table
  return listed.any (·.covers columns)

end Client

end SchemaChange
