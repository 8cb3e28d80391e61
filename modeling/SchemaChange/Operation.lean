import SchemaChange.Client.Ledger

/-!
The operations of a client as data, with the answers they give. A session performs one operation
after the other on one database; an operation that fails does not end the session.
-/
namespace SchemaChange

inductive Operation where
  | dialectName
  | settings
  | sqlType (typeName : String)
  | quoteTable (table : String)
  | quoteName (name : String)
  | hasTable (table : String)
  | hasColumn (table column : String)
  | hasIndex (table : String) (columns : List String)
  | createTable (table : Table)
  | renameTable (table newName : String)
  | dropTable (table : String)
  | addColumn (table : String) (column : Column)
  | renameColumn (table column newName : String)
  | dropColumn (table column : String)
  | addIndex (table : String) (index : Index)
  | dropIndex (table : String) (columns : List String)
  | dropIndexNamed (table name : String)
  | createDatabase (name : String) (options : DatabaseOptions)
  | dropDatabase (name : String)
  | tables
  | columns (table : String)
  | column (table column : String)
  | indexes (table : String)
  | ledgerTable
  | hasLedger
  | ensureLedger
  | ledgerVersions
  | ledgerEntries
  | record (entry : LedgerEntry)
  | forget (version : UInt64)
  | execute (sql : String) (params : List Value)
  | query (sql : String)
deriving DecidableEq

inductive Answer where
  | done
  | text (s : String)
  | truth (b : Bool)
  | settings (s : Settings)
  | sqlType (type : SqlType)
  | names (names : List String)
  | columns (columns : List ListedColumn)
  | column (column? : Option ListedColumn)
  | indexes (indexes : List ListedIndex)
  | versions (versions : List UInt64)
  | entries (entries : List LedgerEntry)
  | count (affected : UInt64)
  | rows (rows : List Row)
deriving DecidableEq

/-- What a client does and answers when it is asked for an operation. -/
def Operation.perform {δ : Type} [Catalog δ] (client : Client δ) : Operation → Action Answer
  | dialectName => return .text (Dialect.name client.dialect)
  | settings => return .settings client.settings
  | sqlType typeName => .sqlType <$> liftM (Dialect.sqlTypeNamed client.dialect typeName)
  | quoteTable table => return .text (Dialect.quoteTable client.dialect table)
  | quoteName name => return .text (Dialect.quoteName client.dialect name)
  | hasTable table => .truth <$> client.hasTable table
  | hasColumn table name => .truth <$> client.hasColumn table name
  | hasIndex table names => .truth <$> client.hasIndex table names
  | createTable table => finished (client.createTable table)
  | renameTable table newName => finished (client.renameTable table newName)
  | dropTable table => finished (client.dropTable table)
  | addColumn table definition => finished (client.addColumn table definition)
  | renameColumn table name newName => finished (client.renameColumn table name newName)
  | dropColumn table name => finished (client.dropColumn table name)
  | addIndex table index => finished (client.addIndex table index)
  | dropIndex table names => finished (client.dropIndex table names)
  | dropIndexNamed table name => finished (client.dropIndexNamed table name)
  | createDatabase name options => finished (client.createDatabase name options)
  | dropDatabase name => finished (client.dropDatabase name)
  | tables => .names <$> client.tables
  | columns table => .columns <$> client.columns table
  | column table name => .column <$> client.column? table name
  | indexes table => .indexes <$> client.indexes table
  | ledgerTable => return .text client.settings.ledgerTable
  | hasLedger => .truth <$> client.hasLedger
  | ensureLedger => finished client.ensureLedger
  | ledgerVersions => .versions <$> client.ledgerVersions
  | ledgerEntries => .entries <$> client.ledgerEntries
  | record entry => finished (client.record entry)
  | forget version => .truth <$> client.forget version
  | execute sql params => .count <$> Action.execute sql params
  | query sql => .rows <$> Action.query sql
where
  finished (action : Action Unit) : Action Answer := (fun _ => .done) <$> action

end SchemaChange
