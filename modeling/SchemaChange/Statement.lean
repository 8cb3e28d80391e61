import SchemaChange.Statement.CreateTable

/-!
The other statements that change a schema, in the SQL of a dialect, and those of the ledger, a table
of applied versions with the times at which each began and ended.
-/
namespace SchemaChange.Statement

variable {δ : Type} [Dialect δ]

def dropTable (d : δ) (table : String) : String :=
  Text.phrase ["DROP TABLE", Dialect.quoteTable d table]

def addColumn (d : δ) (table : String) (column : Column) : Except Failure String := do
  let definition ← defineColumn d column false
  return Text.phrase (["ALTER TABLE", Dialect.quoteTable d table, "ADD COLUMN", definition] ++
    (Dialect.columnPosition d column).toList)

def dropColumn (d : δ) (table column : String) : String :=
  Text.phrase ["ALTER TABLE", Dialect.quoteTable d table, "DROP COLUMN", Dialect.quoteName d column]

def addIndex (d : δ) (table : String) (index : Index) : Except Failure String := do
  index.check
  return namedIndex d table index

def createLedger (d : δ) (table : String) : String :=
  Text.phrase ["CREATE TABLE", Dialect.quoteTable d table,
    Text.parenthesized (Text.clauseList ["version BIGINT UNSIGNED NOT NULL",
      "start_time TIMESTAMP NOT NULL", "end_time TIMESTAMP NOT NULL"])] ++ ";"

def ledgerVersions (d : δ) (table : String) : String :=
  Text.phrase ["SELECT version FROM", Dialect.quoteTable d table, "ORDER BY version ASC"]

def ledgerEntries (d : δ) (table : String) : String :=
  Text.phrase ["SELECT version, start_time, end_time FROM", Dialect.quoteTable d table,
    "ORDER BY version ASC"]

def recordEntry (d : δ) (table : String) : String :=
  Text.phrase ["INSERT INTO", Dialect.quoteTable d table,
    "(version, start_time, end_time) VALUES (?, ?, ?)"]

def removeVersion (d : δ) (table : String) : String :=
  Text.phrase ["DELETE FROM", Dialect.quoteTable d table, "WHERE version = ?"]

end SchemaChange.Statement
