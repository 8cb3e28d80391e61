import SchemaChange.Settings
import SchemaChange.Sqlite

/-!
The dialect that the address of a database asks for. It answers every question as the dialect behind
it does.
-/
namespace SchemaChange

inductive UrlDialect where
  | mySql (d : MySql)
  | sqlite (d : Sqlite)
deriving DecidableEq, Repr

namespace UrlDialect

def ofSettings (settings : Settings) : Except Failure UrlDialect :=
  if "mysql://".toList.isPrefixOf settings.url.toList then .ok (.mySql ⟨settings.engine⟩)
  else if "sqlite://".toList.isPrefixOf settings.url.toList then .ok (.sqlite {})
  else .error (.unknownAddress settings.url)

def ofUrl (url : String) : Except Failure UrlDialect := ofSettings { url }

/-- What the dialect behind the address answers. -/
def ask {α : Type} (d : UrlDialect) (question : {δ : Type} → [Catalog δ] → δ → α) : α :=
  match d with
  | mySql d => question d
  | sqlite d => question d

/-- The storage engine, where the database has one. -/
def engine? : UrlDialect → Option String
  | mySql d => some d.engine
  | sqlite _ => none

end UrlDialect

instance : Catalog UrlDialect where
  name d := d.ask Dialect.name
  quoteMark d := d.ask Dialect.quoteMark
  quoteTable d table := d.ask fun d => Dialect.quoteTable d table
  quoteName d name := d.ask fun d => Dialect.quoteName d name
  quoteNames d names := d.ask fun d => Dialect.quoteNames d names
  sqlType d type := d.ask fun d => Dialect.sqlType d type
  autoIncrementKeyword d := d.ask Dialect.autoIncrementKeyword
  declaresKeyInline d := d.ask Dialect.declaresKeyInline
  declaresIndexInline d := d.ask Dialect.declaresIndexInline
  tableSuffix d options := d.ask fun d => Dialect.tableSuffix d options
  columnPosition d column := d.ask fun d => Dialect.columnPosition d column
  renameTable d table newName := d.ask fun d => Dialect.renameTable d table newName
  renameColumn d table column newName definition :=
    d.ask fun d => Dialect.renameColumn d table column newName definition
  addIndex d table name index := d.ask fun d => Dialect.addIndex d table name index
  dropIndex d table name := d.ask fun d => Dialect.dropIndex d table name
  createDatabase d name options := d.ask fun d => Dialect.createDatabase d name options
  dropDatabase d name := d.ask fun d => Dialect.dropDatabase d name
  listTables d schema? := d.ask fun d => Dialect.listTables d schema?
  listColumns d table := d.ask fun d => Dialect.listColumns d table
  listIndexes d table := d.ask fun d => Dialect.listIndexes d table
  decodeTable d row := d.ask fun d => Catalog.decodeTable d row
  decodeColumn d row := d.ask fun d => Catalog.decodeColumn d row
  decodeIndexPart d row := d.ask fun d => Catalog.decodeIndexPart d row

end SchemaChange
