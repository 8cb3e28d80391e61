import SchemaChange.MySql

/-!
The settings of a connection. A setting that is not given has its default.
-/
namespace SchemaChange

structure Settings where
  url : String := "sqlite://memory"
  /-- Narrows the listing of tables to one schema. -/
  database? : Option String := none
  ledgerTable : String := "strata_log"
  engine : String := MySql.defaultEngine
  charset : String := defaultCharset
deriving DecidableEq, Repr

end SchemaChange
