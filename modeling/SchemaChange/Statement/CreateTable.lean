import SchemaChange.Dialect

/-!
The statements that create a table. The first creates the table itself: its columns in order, the
key, then the columns of all plain indexes as one clause and those of all unique indexes as another.
Where a database has no clause for plain indexes, a statement for each of them follows. A key of one
counting column stands in the definition of that column where the dialect wants it there, and only
then the clause of the key is left out.
-/
namespace SchemaChange.Statement

variable {δ : Type} [Dialect δ]

/-- The type of a column in capitals, with the length that the column or else the dialect says. -/
def columnType (d : δ) (column : Column) : String :=
  let type := Dialect.sqlType d column.type
  let name := String.ofList (Text.upper type.name.toList)
  match column.limit.or type.limit with
  | some limit => Text.applied name (Decimal.integerText limit)
  | none => name

def defineColumn (d : δ) (column : Column) (isInlineKey : Bool) : Except Failure String := do
  column.check
  return Text.phrase ([Dialect.quoteName d column.name, columnType d column,
      if column.nullable then "NULL" else "NOT NULL"] ++
    (if isInlineKey then ["PRIMARY KEY"] else []) ++
    (if column.autoIncrement then [Dialect.autoIncrementKeyword d] else []) ++
    (match column.default? with
      | some default => ["DEFAULT", Text.literal default.toText]
      | none => []))

/-- The counting column that is the whole key, where the dialect wants it declared as such. -/
def inlineKey? (d : δ) (table : Table) : Option String :=
  if Dialect.declaresKeyInline d then
    match table.key? with
    | some (.single key) =>
      (table.allColumns.find? fun column => column.name == key && column.autoIncrement).map (·.name)
    | _ => none
  else none

def keyClause (d : δ) (key : PrimaryKey) : String :=
  Text.phrase ["PRIMARY KEY", Text.parenthesized (Dialect.quoteNames d key.columns)]

/-- One clause with the columns of several indexes. -/
def indexClause (d : δ) (keyword : String) (indexes : List Index) : String :=
  let lists := indexes.map fun index => Dialect.quoteNames d index.columns
  Text.phrase [keyword, Text.parenthesized (Text.commaList lists)]

/-- What stands behind the columns inside the parentheses of a table. -/
def tableClauses (d : δ) (table : Table) : List String :=
  (match table.key?, inlineKey? d table with
    | some key, none => [keyClause d key]
    | _, _ => []) ++
  (if !table.plainIndexes.isEmpty && Dialect.declaresIndexInline d then
    [indexClause d "INDEX" table.plainIndexes] else []) ++
  (if table.uniqueIndexes.isEmpty then [] else [indexClause d "UNIQUE" table.uniqueIndexes])

/-- An index of the table, named by itself or after the table. -/
def namedIndex (d : δ) (table : String) (index : Index) : String :=
  Dialect.addIndex d table (index.nameFor table) index

def createTable (d : δ) (table : Table) : Except Failure (List String) := do
  table.check
  let inlineKey? := inlineKey? d table
  let columns ← table.allColumns.mapM fun column =>
    defineColumn d column (inlineKey? == some column.name)
  let create := Text.phrase (["CREATE TABLE", Dialect.quoteTable d table.name,
      Text.parenthesized (Text.clauseList (columns ++ tableClauses d table))] ++
    (Dialect.tableSuffix d table.options).toList)
  let indexes :=
    if Dialect.declaresIndexInline d then [] else table.plainIndexes.map (namedIndex d table.name)
  return (create ++ ";") :: indexes

end SchemaChange.Statement
