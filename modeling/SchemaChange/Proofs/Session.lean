import SchemaChange.Database.Recording
import SchemaChange.Proofs.Plan
import SchemaChange.UrlDialect

/-!
Whole sessions, and what they owe to the dialect. A session opens a client and performs operations
one after the other; of its dialect it knows only the answers to the questions that every dialect
answers. Two dialects with the same answers therefore lead the same sessions, call for call, on any
database, and so does the dialect of an address and the dialect behind it.
-/
namespace SchemaChange

section

variable {δ : Type} [Catalog δ]

/-- What a client answers to operations in a row. A failure does not end the row. -/
def answers (client : Client δ) : List Operation → Dialogue (List (Except Failure Answer))
  | [] => return []
  | operation :: rest => do
    let answer ← ExceptT.run (operation.perform client)
    let later ← answers client rest
    return answer :: later

/-- Opens a client and asks it for operations, unless the opening fails. -/
def session (dialect : δ) (settings : Settings) (operations : List Operation) :
    Dialogue (Except Failure (List (Except Failure Answer))) := do
  match ← ExceptT.run (Client.opened dialect settings) with
  | Except.error f => return Except.error f
  | Except.ok client => return Except.ok (← answers client operations)

end

/-- All that comes before the operations is to put the ledger in place. -/
theorem session_eq {δ : Type} [Catalog δ] (dialect : δ) (settings : Settings)
    (operations : List Operation) :
    session dialect settings operations =
      ExceptT.run (Client.ensureLedger ⟨dialect, settings⟩) >>= fun
        | .error f => return .error f
        | .ok () => .ok <$> answers ⟨dialect, settings⟩ operations := by
  simp only [session, Client.opened, ExceptT.run_bind, bind_assoc]
  congr 1
  funext ensured
  cases ensured <;> rfl

/-- Two dialects that answer every question in the same way. -/
structure SpeaksAs {δ ε : Type} [Catalog δ] [Catalog ε] (d : δ) (e : ε) : Prop where
  name : Dialect.name d = Dialect.name e
  quoteMark : Dialect.quoteMark d = Dialect.quoteMark e
  quoteTable : Dialect.quoteTable d = Dialect.quoteTable e
  quoteName : Dialect.quoteName d = Dialect.quoteName e
  quoteNames : Dialect.quoteNames d = Dialect.quoteNames e
  sqlType : Dialect.sqlType d = Dialect.sqlType e
  autoIncrementKeyword : Dialect.autoIncrementKeyword d = Dialect.autoIncrementKeyword e
  declaresKeyInline : Dialect.declaresKeyInline d = Dialect.declaresKeyInline e
  declaresIndexInline : Dialect.declaresIndexInline d = Dialect.declaresIndexInline e
  tableSuffix : Dialect.tableSuffix d = Dialect.tableSuffix e
  columnPosition : Dialect.columnPosition d = Dialect.columnPosition e
  renameTable : Dialect.renameTable d = Dialect.renameTable e
  renameColumn : Dialect.renameColumn d = Dialect.renameColumn e
  addIndex : Dialect.addIndex d = Dialect.addIndex e
  dropIndex : Dialect.dropIndex d = Dialect.dropIndex e
  createDatabase : Dialect.createDatabase d = Dialect.createDatabase e
  dropDatabase : Dialect.dropDatabase d = Dialect.dropDatabase e
  listTables : Dialect.listTables d = Dialect.listTables e
  listColumns : Dialect.listColumns d = Dialect.listColumns e
  listIndexes : Dialect.listIndexes d = Dialect.listIndexes e
  decodeTable : Catalog.decodeTable d = Catalog.decodeTable e
  decodeColumn : Catalog.decodeColumn d = Catalog.decodeColumn e
  decodeIndexPart : Catalog.decodeIndexPart d = Catalog.decodeIndexPart e

namespace SpeaksAs

variable {δ ε : Type} [Catalog δ] [Catalog ε] {d : δ} {e : ε} (h : SpeaksAs d e)

include h

theorem sqlTypeNamed : Dialect.sqlTypeNamed d = Dialect.sqlTypeNamed e := by
  funext typeName
  rw [Dialect.sqlTypeNamed, Dialect.sqlTypeNamed, h.sqlType]

theorem defineColumn : Statement.defineColumn d = Statement.defineColumn e := by
  funext column isKey
  simp only [Statement.defineColumn, Statement.columnType, h.quoteName, h.sqlType,
    h.autoIncrementKeyword]

theorem inlineKey? : Statement.inlineKey? d = Statement.inlineKey? e := by
  funext table
  simp only [Statement.inlineKey?, h.declaresKeyInline]

theorem tableClauses : Statement.tableClauses d = Statement.tableClauses e := by
  funext table
  simp only [Statement.tableClauses, Statement.keyClause, Statement.indexClause, h.inlineKey?,
    h.declaresIndexInline, h.quoteNames]

theorem namedIndex : Statement.namedIndex d = Statement.namedIndex e := by
  funext table index
  rw [Statement.namedIndex, Statement.namedIndex, h.addIndex]

theorem createTable : Statement.createTable d = Statement.createTable e := by
  funext table
  simp only [Statement.createTable, h.inlineKey?, h.defineColumn, h.quoteTable, h.tableClauses,
    h.tableSuffix, h.declaresIndexInline, h.namedIndex]

theorem addColumn : Statement.addColumn d = Statement.addColumn e := by
  funext table column
  simp only [Statement.addColumn, h.defineColumn, h.quoteTable, h.columnPosition]

theorem statementAddIndex : Statement.addIndex d = Statement.addIndex e := by
  funext table index
  simp only [Statement.addIndex, h.namedIndex]

theorem findingTable (settings : Settings) :
    SchemaChange.findingTable ⟨d, settings⟩ = SchemaChange.findingTable ⟨e, settings⟩ := by
  funext table
  simp only [SchemaChange.findingTable, lookupSchema?, h.listTables, h.decodeTable]

theorem ensuringLedger (settings : Settings) :
    SchemaChange.ensuringLedger ⟨d, settings⟩ = SchemaChange.ensuringLedger ⟨e, settings⟩ := by
  have hcreate : ledgerCreation ⟨d, settings⟩ = ledgerCreation ⟨e, settings⟩ := by
    funext rows
    simp only [ledgerCreation, Statement.createLedger, h.decodeTable, h.quoteTable]
  simp only [SchemaChange.ensuringLedger, lookupSchema?, h.listTables, hcreate]

theorem readingColumns (settings : Settings) :
    SchemaChange.readingColumns ⟨d, settings⟩ = SchemaChange.readingColumns ⟨e, settings⟩ := by
  funext table answer
  simp only [SchemaChange.readingColumns, h.listColumns, h.decodeColumn]

theorem readingIndexes (settings : Settings) :
    SchemaChange.readingIndexes ⟨d, settings⟩ = SchemaChange.readingIndexes ⟨e, settings⟩ := by
  funext table answer
  simp only [SchemaChange.readingIndexes, h.listIndexes, h.decodeIndexPart]

theorem columnRenaming (settings : Settings) :
    SchemaChange.columnRenaming ⟨d, settings⟩ = SchemaChange.columnRenaming ⟨e, settings⟩ := by
  funext table column newName rows
  simp only [SchemaChange.columnRenaming, h.decodeColumn, h.renameColumn]

theorem indexRemoval (settings : Settings) :
    SchemaChange.indexRemoval ⟨d, settings⟩ = SchemaChange.indexRemoval ⟨e, settings⟩ := by
  funext table columns rows
  simp only [SchemaChange.indexRemoval, h.decodeIndexPart, h.dropIndex]

theorem plan (settings : Settings) :
    Operation.plan ⟨d, settings⟩ = Operation.plan ⟨e, settings⟩ := by
  funext operation
  cases operation with
  | dialectName => simp only [Operation.plan, h.name]
  | sqlType typeName => simp only [Operation.plan, h.sqlTypeNamed]
  | quoteTable table => simp only [Operation.plan, h.quoteTable]
  | quoteName name => simp only [Operation.plan, h.quoteName]
  | createTable table => simp only [Operation.plan, h.createTable]
  | renameTable table newName => simp only [Operation.plan, h.renameTable]
  | dropTable table => simp only [Operation.plan, Statement.dropTable, h.quoteTable]
  | addColumn table definition => simp only [Operation.plan, h.addColumn]
  | renameColumn table name newName =>
    simp only [Operation.plan, h.listColumns, h.columnRenaming]
  | dropColumn table name =>
    simp only [Operation.plan, Statement.dropColumn, h.quoteTable, h.quoteName]
  | addIndex table index => simp only [Operation.plan, h.statementAddIndex]
  | dropIndex table names => simp only [Operation.plan, h.listIndexes, h.indexRemoval]
  | dropIndexNamed table name => simp only [Operation.plan, h.dropIndex]
  | createDatabase name options => simp only [Operation.plan, h.createDatabase]
  | dropDatabase name => simp only [Operation.plan, h.dropDatabase]
  | tables => simp only [Operation.plan, h.listTables, h.decodeTable]
  | hasTable | hasLedger => simp only [Operation.plan, h.findingTable]
  | hasColumn | columns | column => simp only [Operation.plan, h.readingColumns]
  | hasIndex | indexes => simp only [Operation.plan, h.readingIndexes]
  | ensureLedger => exact h.ensuringLedger settings
  | ledgerVersions => simp only [Operation.plan, Statement.ledgerVersions, h.quoteTable]
  | ledgerEntries => simp only [Operation.plan, Statement.ledgerEntries, h.quoteTable]
  | record entry => simp only [Operation.plan, Statement.recordEntry, h.quoteTable]
  | forget version => simp only [Operation.plan, Statement.removeVersion, h.quoteTable]
  | settings | ledgerTable | execute | query => rfl

theorem perform (settings : Settings) (operation : Operation) :
    operation.perform ⟨d, settings⟩ = operation.perform ⟨e, settings⟩ := by
  rw [perform_eq_action, perform_eq_action, h.plan]

theorem answers (settings : Settings) (operations : List Operation) :
    SchemaChange.answers ⟨d, settings⟩ operations =
      SchemaChange.answers ⟨e, settings⟩ operations := by
  induction operations with
  | nil => rfl
  | cons operation rest ih => rw [SchemaChange.answers, SchemaChange.answers, h.perform, ih]

theorem ensureLedger (settings : Settings) :
    Client.ensureLedger ⟨d, settings⟩ = Client.ensureLedger ⟨e, settings⟩ := by
  simp only [Client.ensureLedger, Client.hasLedger, Client.hasTable, Client.tablesIn,
    Statement.createLedger, h.listTables, h.decodeTable, h.quoteTable]

theorem session (settings : Settings) (operations : List Operation) :
    SchemaChange.session d settings operations = SchemaChange.session e settings operations := by
  simp only [session_eq, h.ensureLedger, h.answers]

end SpeaksAs

namespace UrlDialect

theorem speaksAs_mySql (d : MySql) : SpeaksAs (mySql d) d := by
  constructor <;> rfl

theorem speaksAs_sqlite (d : Sqlite) : SpeaksAs (sqlite d) d := by
  constructor <;> rfl

theorem ofSettings_mySql {settings : Settings}
    (h : "mysql://".toList <+: settings.url.toList) :
    ofSettings settings = .ok (mySql ⟨settings.engine⟩) :=
  if_pos (List.isPrefixOf_iff_prefix.mpr h)

/-- An address has one scheme only. -/
theorem ofSettings_sqlite {settings : Settings}
    (h : "sqlite://".toList <+: settings.url.toList) :
    ofSettings settings = .ok (sqlite {}) := by
  have hmySql : ¬ "mysql://".toList <+: settings.url.toList := by
    intro hmySql
    rcases List.prefix_or_prefix_of_prefix hmySql h with hprefix | hprefix
    · exact absurd hprefix (by decide)
    · exact absurd hprefix (by decide)
  rw [ofSettings, if_neg (mt List.isPrefixOf_iff_prefix.mp hmySql),
    if_pos (List.isPrefixOf_iff_prefix.mpr h)]

end UrlDialect

/-- A session over the dialect of an address goes as the session over the dialect behind it: the
same calls in the same order, the same answers and failures. -/
theorem session_over_address {σ : Type} (db : Database σ) (s : σ) (settings : Settings)
    (operations : List Operation) :
    ("mysql://".toList <+: settings.url.toList →
      ∃ d, UrlDialect.ofSettings settings = .ok d ∧
        (session d settings operations).run db s =
          (session ({ engine := settings.engine } : MySql) settings operations).run db s) ∧
    ("sqlite://".toList <+: settings.url.toList →
      ∃ d, UrlDialect.ofSettings settings = .ok d ∧
        (session d settings operations).run db s =
          (session ({} : Sqlite) settings operations).run db s) := by
  constructor
  · intro h
    have heq := (UrlDialect.speaksAs_mySql ⟨settings.engine⟩).session settings operations
    exact ⟨_, UrlDialect.ofSettings_mySql h, by rw [heq]⟩
  · intro h
    have heq := (UrlDialect.speaksAs_sqlite {}).session settings operations
    exact ⟨_, UrlDialect.ofSettings_sqlite h, by rw [heq]⟩

/-- Operations that the two dialects write in different words. -/
def moves : List Operation :=
  [.renameTable "app.old" "app.new", .dropIndexNamed "app.new" "by_name", .dropDatabase "spare"]

def localServer : Settings := { url := "mysql://localhost/app", engine := "Aria" }

def localFile : Settings := { url := "sqlite://app.db" }

theorem moves_over_address :
    "mysql://".toList <+: localServer.url.toList ∧
    "sqlite://".toList <+: localFile.url.toList ∧
    (∃ d, UrlDialect.ofSettings localServer = .ok d ∧
      (session d localServer moves).run Recording.database {} =
        (session ({ engine := "Aria" } : MySql) localServer moves).run Recording.database {}) ∧
    ∃ d, UrlDialect.ofSettings localFile = .ok d ∧
      (session d localFile moves).run Recording.database {} =
        (session ({} : Sqlite) localFile moves).run Recording.database {} := by
  have hserver : "mysql://".toList <+: localServer.url.toList := by decide
  have hfile : "sqlite://".toList <+: localFile.url.toList := by decide
  exact ⟨hserver, hfile,
    (session_over_address Recording.database {} localServer moves).1 hserver,
    (session_over_address Recording.database {} localFile moves).2 hfile⟩

example :
    ((session (UrlDialect.sqlite {}) localFile moves).run Recording.database {}).state.executed =
      ["CREATE TABLE \"strata_log\" (version BIGINT UNSIGNED NOT NULL, " ++
          "start_time TIMESTAMP NOT NULL, end_time TIMESTAMP NOT NULL);",
        "ALTER TABLE \"app\".\"old\" RENAME TO \"new\"",
        "DROP INDEX \"app\".\"by_name\""] := by
  decide +kernel

end SchemaChange
