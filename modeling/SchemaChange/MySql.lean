import SchemaChange.Dialect

/-!
MySQL. Tables have a storage engine; an index belongs to its table and is altered with it; a column
is renamed by stating its whole definition again. Statements of the catalog answer with columns of
fixed names, apart from the listing of tables, whose one column is named after the schema.
-/
namespace SchemaChange

def MySql.defaultEngine : String := "InnoDB"

/-- The engine stores the tables that name no other. -/
structure MySql where
  engine : String := MySql.defaultEngine
deriving DecidableEq, Repr

namespace MySql

def quoteMark : Char := '\x60'

def quoteName (name : String) : String := Text.quote quoteMark name

def quoteTable (table : String) : String := Text.QualifiedName.quote quoteMark table

def sqlType : ColumnType → SqlType
  | .primaryKey => ⟨"int", some 11⟩
  | .string => ⟨"varchar", some 255⟩
  | .text => ⟨"text", none⟩
  | .integer => ⟨"int", some 11⟩
  | .float => ⟨"float", none⟩
  | .decimal => ⟨"decimal", none⟩
  | .datetime => ⟨"datetime", none⟩
  | .timestamp => ⟨"datetime", none⟩
  | .time => ⟨"time", none⟩
  | .date => ⟨"date", none⟩
  | .binary => ⟨"blob", none⟩
  | .boolean => ⟨"tinyint", some 1⟩

def tableSuffix (d : MySql) (options : TableOptions) : String :=
  Text.phrase (["ENGINE", "=", options.engine?.getD d.engine] ++
    match options.collation? with
    | some collation => ["COLLATE", "=", collation]
    | none => [])

/-- The word by which the catalog marks a default that is an expression. -/
def isExpressionMark (word : List Char) : Bool :=
  Text.sameAsciiName (String.ofList word) "DEFAULT_GENERATED"

/-- The default is the current time, of whatever precision. -/
def isCurrentTime (default : String) : Bool :=
  let upper := Text.upper default.toList
  upper == "CURRENT_TIMESTAMP".toList || "CURRENT_TIMESTAMP(".toList.isPrefixOf upper

/-- How the default of a listed column is stated again. -/
def defaultText (isExpression : Bool) (default : String) : String :=
  if isCurrentTime default then default
  else if isExpression then Text.parenthesized default
  else Text.literal default

/-- What a listed column is, behind its name, as a definition states it. -/
def restate (column : ListedColumn) : String :=
  let words := Text.words column.extra.toList
  let kept := words.filter fun word => !isExpressionMark word
  let extra := [' '].intercalate kept
  Text.phrase ([column.type, if column.nullable then "NULL" else "NOT NULL"] ++
    (match column.default? with
      | some default => ["DEFAULT", defaultText (words.any isExpressionMark) default]
      | none => []) ++
    (if extra.isEmpty then [] else [String.ofList (Text.upper extra)]))

end MySql

open MySql in
instance : Dialect MySql where
  name _ := "mysql"
  quoteMark _ := quoteMark
  sqlType _ := sqlType
  autoIncrementKeyword _ := "AUTO_INCREMENT"
  tableSuffix d options := some (tableSuffix d options)
  columnPosition _ column := column.after?.map fun after => Text.phrase ["AFTER", quoteName after]
  renameTable _ table newName :=
    Text.phrase ["RENAME TABLE", quoteTable table, "TO", quoteTable newName]
  renameColumn _ table column newName definition :=
    Text.phrase ["ALTER TABLE", quoteTable table, "CHANGE COLUMN", quoteName column,
      quoteName newName, restate definition]
  addIndex _ table name index :=
    Text.phrase ["ALTER TABLE", quoteTable table,
      if index.unique then "ADD UNIQUE INDEX" else "ADD INDEX", quoteName name,
      Text.parenthesized (Text.commaList (index.columns.map quoteName))]
  dropIndex _ table name :=
    Text.phrase ["ALTER TABLE", quoteTable table, "DROP INDEX", quoteName name]
  createDatabase _ name options :=
    .ok (Text.phrase (["CREATE DATABASE", quoteName name, "DEFAULT CHARACTER SET",
        quoteName (options.charset?.getD defaultCharset)] ++
      match options.collation? with
      | some collation => ["COLLATE", quoteName collation]
      | none => []))
  dropDatabase _ name := .ok (Text.phrase ["DROP DATABASE IF EXISTS", quoteName name])
  listTables _
    | some schema => Text.phrase ["SHOW TABLES IN", quoteName schema]
    | none => "SHOW TABLES"
  listColumns _ table := Text.phrase ["SHOW COLUMNS FROM", quoteTable table]
  listIndexes _ table := Text.phrase ["SHOW INDEXES FROM", quoteTable table]

instance : Catalog MySql where
  decodeTable _ row := row.getAt 0
  decodeColumn _ row := do
    let name ← row.get "Field"
    let type ← row.get "Type"
    let null : String ← row.get "Null"
    let default? ← row.get "Default"
    let extra? : Option String ← row.get "Extra"
    let nullable := Text.sameAsciiName null "YES"
    return { name, type, nullable, default?, extra := extra?.getD "" }
  decodeIndexPart _ row := do
    let column? : Option String ← row.get "Column_name"
    match column? with
    | none => return none
    | some column =>
      let index ← row.get "Key_name"
      let nonUnique : UInt64 ← row.get "Non_unique"
      return some { index, column, unique := nonUnique == 0 }

end SchemaChange
