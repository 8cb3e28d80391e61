import SchemaChange.Dialect

/-!
SQLite. A column that counts has to be the key and say so itself; indexes are created beside their
table, in its schema; a renamed table stays in its schema. The catalog is read by functions that
take the names of a table and of its schema as string literals, and a database is a file, so that no
statement creates one.
-/
namespace SchemaChange

structure Sqlite where
deriving DecidableEq, Repr

namespace Sqlite

def quoteMark : Char := '"'

def quoteName (name : String) : String := Text.quote quoteMark name

def quoteTable (table : String) : String := Text.QualifiedName.quote quoteMark table

def sqlType : ColumnType → SqlType
  | .primaryKey => ⟨"integer", none⟩
  | .string => ⟨"varchar", some 255⟩
  | .text => ⟨"text", none⟩
  | .integer => ⟨"integer", none⟩
  | .float => ⟨"float", none⟩
  | .decimal => ⟨"decimal", none⟩
  | .datetime => ⟨"datetime", none⟩
  | .timestamp => ⟨"datetime", none⟩
  | .time => ⟨"time", none⟩
  | .date => ⟨"date", none⟩
  | .binary => ⟨"blob", none⟩
  | .boolean => ⟨"boolean", none⟩

/-- A name behind the schema of a table, when the table has one. -/
def besideTable (table name : String) : String :=
  match Text.QualifiedName.schema? table with
  | some schema => quoteName schema ++ "." ++ quoteName name
  | none => quoteName name

/-- Literals as arguments of a catalog function; the schema of the table comes last. -/
def arguments (first table : String) : String :=
  match Text.QualifiedName.schema? table with
  | some schema => Text.clauseList [first, Text.literal schema]
  | none => first

def tableArguments (table : String) : String :=
  arguments (Text.literal (Text.QualifiedName.table table)) table

end Sqlite

open Sqlite in
instance : Dialect Sqlite where
  name _ := "sqlite"
  quoteMark _ := quoteMark
  sqlType _ := sqlType
  autoIncrementKeyword _ := "AUTOINCREMENT"
  declaresKeyInline _ := true
  declaresIndexInline _ := false
  renameTable _ table newName :=
    Text.phrase ["ALTER TABLE", quoteTable table, "RENAME TO",
      quoteName (Text.QualifiedName.table newName)]
  renameColumn _ table column newName _ :=
    Text.phrase ["ALTER TABLE", quoteTable table, "RENAME COLUMN", quoteName column, "TO",
      quoteName newName]
  addIndex _ table name index :=
    Text.phrase ["CREATE", if index.unique then "UNIQUE INDEX" else "INDEX",
      besideTable table name, "ON", quoteName (Text.QualifiedName.table table),
      Text.parenthesized (Text.commaList (index.columns.map quoteName))]
  dropIndex _ table name := Text.phrase ["DROP INDEX", besideTable table name]
  createDatabase _ name _ := .error (.databaseCreation name)
  dropDatabase _ name := .error (.databaseRemoval name)
  listTables _ schema? :=
    Text.phrase ["SELECT name FROM",
      match schema? with
      | some schema => quoteName schema ++ ".sqlite_master"
      | none => "sqlite_master",
      "WHERE type = 'table' AND name NOT LIKE 'sqlite_%'"]
  listColumns _ table :=
    Text.phrase ["SELECT name, type, \"notnull\", dflt_value, pk FROM",
      Text.applied "pragma_table_info" (tableArguments table)]
  listIndexes _ table :=
    Text.phrase ["SELECT il.name AS index_name, il.\"unique\" AS is_unique,",
      "ii.name AS column_name FROM",
      Text.applied "pragma_index_list" (tableArguments table), "AS il,",
      Text.applied "pragma_index_info" (arguments "il.name" table), "AS ii",
      "ORDER BY il.seq, ii.seqno"]

instance : Catalog Sqlite where
  decodeTable _ row := row.get "name"
  decodeColumn _ row := do
    let name ← row.get "name"
    let type ← row.get "type"
    let notNull : Bool ← row.get "notnull"
    let default? ← row.get "dflt_value"
    let key : Int64 ← row.get "pk"
    let extra := if 0 < key then "primary key" else ""
    return { name, type, nullable := !notNull, default?, extra }
  decodeIndexPart _ row := do
    let column? : Option String ← row.get "column_name"
    match column? with
    | none => return none
    | some column =>
      let index ← row.get "index_name"
      let unique ← row.get "is_unique"
      return some { index, column, unique }

end SchemaChange
