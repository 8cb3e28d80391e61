import SchemaChange.Proofs.NameParts
import SchemaChange.Proofs.SchemaServer

/-!
The wording of the statements that do not create a table. Each of them is read as fixed words with
the names it was made for between them, and a name is one token, or one for each of its components,
whatever characters it has. What most dialects word in the same way is proved for all of them; the
rest is proved for each database by itself.
-/
namespace SchemaChange

open Token (IsWord)

/-- The fields of a ledger as they are listed. -/
def ledgerFieldTokens : List Token :=
  listed [[.word "version"], [.word "start_time"], [.word "end_time"]]

/-- How the ledger is ordered when it is listed. -/
def ledgerOrderTokens : List Token := keywords ["ORDER", "BY", "version", "ASC"]

theorem written_ledgerOrder {mark : Char} : Written mark "ORDER BY version ASC" ledgerOrderTokens :=
  Written.keywords _ rfl (by decide)

/-- What is read in the statement for a new column, which has to have a name. -/
def newColumnReading (column : Column) (tokens : List Token) :
    Except Failure (Option (List Token)) :=
  if column.name = "" then .error (.unnamedColumn column.type) else .ok (some tokens)

/-- What is read in the statement for a new index, which has to have columns, each with a name. -/
def newIndexReading (index : Index) (tokens : List Token) : Except Failure (Option (List Token)) :=
  if index.columns = [] then .error .emptyIndex
  else if "" ∈ index.columns then .error (.unnamedIndexColumn index.columns)
  else .ok (some tokens)

/-- A column that was added has a name, and the statement is read as it is worded. -/
theorem read_of_newColumnReading {mark : Char} {statement : Except Failure String}
    {column : Column} {tokens : List Token}
    (hread : statement.map (Token.read mark) = newColumnReading column tokens) {sql : String}
    (h : statement = .ok sql) : column.name ≠ "" ∧ Token.read mark sql = some tokens := by
  rw [h, newColumnReading] at hread
  by_cases hname : column.name = ""
  · rw [if_pos hname] at hread
    cases hread
  · rw [if_neg hname] at hread
    exact ⟨hname, Except.ok.inj hread⟩

/-- A new column as it is added to a table. -/
def newColumnTokens {δ : Type} [Dialect δ] [Spelled δ] (d : δ) (table : String) (column : Column) :
    List Token :=
  keywords ["ALTER", "TABLE"] ++ (tableNameTokens table ++
    (keywords ["ADD", "COLUMN"] ++ columnTokens d column false))

/-- What is read in the statements that all dialects word in the same way. -/
structure SharedWording {δ : Type} [Dialect δ] (d : δ) : Prop where
  dropTable (table : String) :
    Token.read (Dialect.quoteMark d) (Statement.dropTable d table) =
      some (keywords ["DROP", "TABLE"] ++ tableNameTokens table)
  dropColumn (table column : String) :
    Token.read (Dialect.quoteMark d) (Statement.dropColumn d table column) =
      some (keywords ["ALTER", "TABLE"] ++ (tableNameTokens table ++
        (keywords ["DROP", "COLUMN"] ++ [.name column])))
  createLedger (table : String) :
    Token.read (Dialect.quoteMark d) (Statement.createLedger d table) = some (ledgerTokens table)
  ledgerVersions (table : String) :
    Token.read (Dialect.quoteMark d) (Statement.ledgerVersions d table) =
      some (keywords ["SELECT", "version", "FROM"] ++ (tableNameTokens table ++ ledgerOrderTokens))
  ledgerEntries (table : String) :
    Token.read (Dialect.quoteMark d) (Statement.ledgerEntries d table) =
      some (.word "SELECT" :: ledgerFieldTokens ++ [.word "FROM"] ++
        (tableNameTokens table ++ ledgerOrderTokens))
  recordEntry (table : String) :
    Token.read (Dialect.quoteMark d) (Statement.recordEntry d table) =
      some (keywords ["INSERT", "INTO"] ++ (tableNameTokens table ++
        (inParentheses ledgerFieldTokens ++ .word "VALUES" ::
          inParentheses (listed [[.sign '?'], [.sign '?'], [.sign '?']]))))
  removeVersion (table : String) :
    Token.read (Dialect.quoteMark d) (Statement.removeVersion d table) =
      some (keywords ["DELETE", "FROM"] ++ (tableNameTokens table ++
        [.word "WHERE", .word "version", .sign '=', .sign '?']))

namespace Spelled

variable {δ : Type} [Dialect δ] [Spelled δ] (d : δ)

theorem sharedWording : SharedWording d where
  dropTable table := by
    have htable := Phrased.single (written_table d table)
    exact (Phrased.consKeywords ["DROP", "TABLE"] rfl (by decide) htable).written.read_eq
  dropColumn table column := by
    have hdrop := Phrased.consKeywords ["DROP", "COLUMN"] rfl (by decide)
      (Phrased.single (written_name d column))
    exact (Phrased.consKeywords ["ALTER", "TABLE"] rfl (by decide)
      (Phrased.cons (written_table d table) hdrop)).written.read_eq
  createLedger := read_createLedger d
  ledgerVersions table := by
    have htable := Phrased.cons (written_table d table) (Phrased.single written_ledgerOrder)
    exact (Phrased.consKeywords ["SELECT", "version", "FROM"] rfl (by decide) htable).written.read_eq
  ledgerEntries table := by
    have hselect : Written (Dialect.quoteMark d) "SELECT version, start_time, end_time FROM"
        (.word "SELECT" :: ledgerFieldTokens ++ [.word "FROM"]) :=
      Written.of_read (isMark d) rfl
    have htable := Phrased.cons (written_table d table) (Phrased.single written_ledgerOrder)
    exact (Phrased.cons hselect htable).written.read_eq
  recordEntry table := by
    have hvalues : Written (Dialect.quoteMark d)
        "(version, start_time, end_time) VALUES (?, ?, ?)"
        (inParentheses ledgerFieldTokens ++ .word "VALUES" ::
          inParentheses (listed [[.sign '?'], [.sign '?'], [.sign '?']])) :=
      Written.of_read (isMark d) rfl
    have htable := Phrased.cons (written_table d table) (Phrased.single hvalues)
    exact (Phrased.consKeywords ["INSERT", "INTO"] rfl (by decide) htable).written.read_eq
  removeVersion table := by
    have hwhere : Written (Dialect.quoteMark d) "WHERE version = ?"
        [.word "WHERE", .word "version", .sign '=', .sign '?'] :=
      Written.of_read (isMark d) rfl
    have htable := Phrased.cons (written_table d table) (Phrased.single hwhere)
    exact (Phrased.consKeywords ["DELETE", "FROM"] rfl (by decide) htable).written.read_eq

/-- A column with a name can be added, in whatever position. -/
theorem map_read_addColumn (table : String) (column : Column) {position : List Token}
    (hposition : Phrased (Dialect.quoteMark d) (Dialect.columnPosition d column).toList position) :
    (Statement.addColumn d table column).map (Token.read (Dialect.quoteMark d)) =
      newColumnReading column (newColumnTokens d table column ++ position) := by
  unfold newColumnReading
  by_cases hname : column.name = ""
  · rw [if_pos hname, Statement.addColumn, Statement.defineColumn, Column.check, if_pos hname]
    rfl
  · have hdefine : Statement.defineColumn d column false = .ok _ :=
      bind_eq_ok_iff.mpr ⟨(), Column.check_eq_ok_iff.mpr hname, rfl⟩
    have hadd := Phrased.consKeywords ["ADD", "COLUMN"] rfl (by decide)
      (Phrased.single (written_column d column false hdefine))
    have halter := Phrased.consKeywords ["ALTER", "TABLE"] rfl (by decide)
      (Phrased.cons (written_table d table) hadd)
    have hread := (halter.append hposition).written.read_eq
    rw [if_neg hname, Statement.addColumn, hdefine]
    exact congrArg Except.ok hread

/-- An index with named columns can be added, and has a name. -/
theorem map_read_addIndex (table : String) (index : Index) :
    (Statement.addIndex d table index).map (Token.read (Dialect.quoteMark d)) =
      newIndexReading index (indexTokens d table (index.statedName table) index) := by
  rw [Statement.addIndex, newIndexReading, Index.check]
  split
  · rfl
  · split
    · rfl
    · rw [← Index.nameFor_eq]
      exact congrArg Except.ok (written_index d table _ index).read_eq

end Spelled

namespace MySql

/-- The position of a new column. -/
def positionTokens (column : Column) : List Token :=
  match column.after? with
  | some after => [.word "AFTER", .name after]
  | none => []

theorem phrased_position (d : MySql) (column : Column) :
    Phrased quoteMark (Dialect.columnPosition d column).toList (positionTokens column) := by
  change Phrased quoteMark (column.after?.map _).toList _
  unfold positionTokens
  cases column.after? with
  | none => exact Phrased.nil
  | some after =>
    have hafter := Phrased.consKeywords ["AFTER"] rfl (by decide)
      (Phrased.single (Written.name isMark after))
    exact Phrased.single hafter.written

def collationTokens : Option String → List Token
  | some collation => [.word "COLLATE", .name collation]
  | none => []

/-- A new database with the charset and the collation of its texts. -/
def databaseTokens (name : String) (options : DatabaseOptions) : List Token :=
  keywords ["CREATE", "DATABASE"] ++ [.name name] ++ keywords ["DEFAULT", "CHARACTER", "SET"] ++
    [.name (options.charset?.getD "utf8")] ++ collationTokens options.collation?

/-- What is read in the statements that MySQL words by itself. -/
structure Wording (d : MySql) : Prop extends SharedWording d where
  renameTable (table newName : String) :
    Token.read quoteMark (Dialect.renameTable d table newName) =
      some (keywords ["RENAME", "TABLE"] ++ (tableNameTokens table ++
        (keywords ["TO"] ++ tableNameTokens newName)))
  addColumn (table : String) (column : Column) :
    (Statement.addColumn d table column).map (Token.read quoteMark) =
      newColumnReading column (newColumnTokens d table column ++ positionTokens column)
  addIndex (table : String) (index : Index) :
    (Statement.addIndex d table index).map (Token.read quoteMark) =
      newIndexReading index (indexTokens table (index.statedName table) index)
  dropIndex (table name : String) :
    Token.read quoteMark (Dialect.dropIndex d table name) =
      some (keywords ["ALTER", "TABLE"] ++ (tableNameTokens table ++
        (keywords ["DROP", "INDEX"] ++ [.name name])))
  createDatabase (name : String) (options : DatabaseOptions) :
    (Dialect.createDatabase d name options).map (Token.read quoteMark) =
      .ok (some (databaseTokens name options))
  dropDatabase (name : String) :
    (Dialect.dropDatabase d name).map (Token.read quoteMark) =
      .ok (some (keywords ["DROP", "DATABASE", "IF", "EXISTS"] ++ [.name name]))
  listTables (schema? : Option String) :
    Token.read quoteMark (Dialect.listTables d schema?) = some (listingTokens schema?)
  listColumns (table : String) :
    Token.read quoteMark (Dialect.listColumns d table) =
      some (keywords ["SHOW", "COLUMNS", "FROM"] ++ tableNameTokens table)
  listIndexes (table : String) :
    Token.read quoteMark (Dialect.listIndexes d table) =
      some (keywords ["SHOW", "INDEXES", "FROM"] ++ tableNameTokens table)

theorem wording (d : MySql) : Wording d where
  toSharedWording := Spelled.sharedWording d
  renameTable table newName := by
    have hto := Phrased.consKeywords ["TO"] rfl (by decide)
      (Phrased.single (Written.tableName isMark newName))
    exact (Phrased.consKeywords ["RENAME", "TABLE"] rfl (by decide)
      (Phrased.cons (Written.tableName isMark table) hto)).written.read_eq
  addColumn table column := Spelled.map_read_addColumn d table column (phrased_position d column)
  addIndex table index := Spelled.map_read_addIndex d table index
  dropIndex table name := by
    have hdrop := Phrased.consKeywords ["DROP", "INDEX"] rfl (by decide)
      (Phrased.single (Written.name isMark name))
    exact (Phrased.consKeywords ["ALTER", "TABLE"] rfl (by decide)
      (Phrased.cons (Written.tableName isMark table) hdrop)).written.read_eq
  createDatabase name options := by
    have hset := Phrased.consKeywords ["DEFAULT", "CHARACTER", "SET"] rfl (by decide)
      (Phrased.single (Written.name isMark (options.charset?.getD "utf8")))
    have hcreate := Phrased.consKeywords ["CREATE", "DATABASE"] rfl (by decide)
      (Phrased.cons (Written.name isMark name) hset)
    refine congrArg Except.ok (hcreate.append ?_).written.read_eq
    cases options.collation? with
    | none => exact Phrased.nil
    | some collation =>
      exact Phrased.consKeywords ["COLLATE"] rfl (by decide)
        (Phrased.single (Written.name isMark collation))
  dropDatabase name := by
    have hname := Phrased.single (Written.name isMark name)
    exact congrArg Except.ok
      (Phrased.consKeywords ["DROP", "DATABASE", "IF", "EXISTS"] rfl (by decide) hname).written.read_eq
  listTables := read_listTables d
  listColumns table := by
    have htable := Phrased.single (Written.tableName isMark table)
    exact (Phrased.consKeywords ["SHOW", "COLUMNS", "FROM"] rfl (by decide) htable).written.read_eq
  listIndexes table := by
    have htable := Phrased.single (Written.tableName isMark table)
    exact (Phrased.consKeywords ["SHOW", "INDEXES", "FROM"] rfl (by decide) htable).written.read_eq

end MySql

namespace Sqlite

/-- The arguments of a catalog function. The schema of the table stands behind the first. -/
def argumentTokens (first : List Token) (table : String) : List Token :=
  match Text.QualifiedName.schema? table with
  | some schema => listed [first, [.literal schema]]
  | none => first

theorem written_arguments {first : String} {tokens : List Token}
    (h : Written quoteMark first tokens) (table : String) :
    Written quoteMark (arguments first table) (argumentTokens tokens table) := by
  unfold arguments argumentTokens
  cases Text.QualifiedName.schema? table with
  | none => exact h
  | some schema => exact Written.clauseList (.cons h (.cons (Written.literal schema) .nil))

def tableArgumentTokens (table : String) : List Token :=
  argumentTokens [.literal (Text.QualifiedName.table table)] table

theorem written_tableArguments (table : String) :
    Written quoteMark (tableArguments table) (tableArgumentTokens table) :=
  written_arguments (Written.literal _) table

/-- The fields of a column in the catalog. -/
def columnFieldTokens : List Token :=
  listed [[.word "name"], [.word "type"], [.name "notnull"], [.word "dflt_value"], [.word "pk"]]

/-- The fields of a part of an index in the catalog, each under its own name. -/
def indexFieldTokens : List Token :=
  listed [[.word "il", .sign '.', .word "name", .word "AS", .word "index_name"],
    [.word "il", .sign '.', .name "unique", .word "AS", .word "is_unique"],
    [.word "ii", .sign '.', .word "name", .word "AS", .word "column_name"]]

/-- How the parts of indexes are ordered when they are listed. -/
def indexOrderTokens : List Token :=
  keywords ["ORDER", "BY"] ++
    listed [[.word "il", .sign '.', .word "seq"], [.word "ii", .sign '.', .word "seqno"]]

/-- What is read in the statements that SQLite words by itself. -/
structure Wording (d : Sqlite) : Prop extends SharedWording d where
  renameTable (table newName : String) :
    Token.read quoteMark (Dialect.renameTable d table newName) =
      some (keywords ["ALTER", "TABLE"] ++ (tableNameTokens table ++
        (keywords ["RENAME", "TO"] ++ [.name (Text.QualifiedName.table newName)])))
  renameColumn (table column newName : String) (definition : ListedColumn) :
    Token.read quoteMark (Dialect.renameColumn d table column newName definition) =
      some (keywords ["ALTER", "TABLE"] ++ (tableNameTokens table ++
        (keywords ["RENAME", "COLUMN"] ++ [.name column] ++ keywords ["TO"] ++ [.name newName])))
  addColumn (table : String) (column : Column) :
    (Statement.addColumn d table column).map (Token.read quoteMark) =
      newColumnReading column (newColumnTokens d table column)
  addIndex (table : String) (index : Index) :
    (Statement.addIndex d table index).map (Token.read quoteMark) =
      newIndexReading index (indexTokens table (index.statedName table) index)
  dropIndex (table name : String) :
    Token.read quoteMark (Dialect.dropIndex d table name) =
      some (keywords ["DROP", "INDEX"] ++ besideTableTokens table name)
  listTables (schema? : Option String) :
    Token.read quoteMark (Dialect.listTables d schema?) = some (listingTokens schema?)
  listColumns (table : String) :
    Token.read quoteMark (Dialect.listColumns d table) =
      some (.word "SELECT" :: columnFieldTokens ++ [.word "FROM"] ++
        (.word "pragma_table_info" :: inParentheses (tableArgumentTokens table)))
  listIndexes (table : String) :
    Token.read quoteMark (Dialect.listIndexes d table) =
      some (.word "SELECT" :: indexFieldTokens ++ [.word "FROM"] ++
        (.word "pragma_index_list" :: inParentheses (tableArgumentTokens table) ++
          ([.word "AS", .word "il", .sign ','] ++
            (.word "pragma_index_info" :: inParentheses
                (argumentTokens [.word "il", .sign '.', .word "name"] table) ++
              (keywords ["AS", "ii"] ++ indexOrderTokens)))))

theorem wording (d : Sqlite) : Wording d where
  toSharedWording := Spelled.sharedWording d
  renameTable table newName := by
    have hto := Phrased.consKeywords ["RENAME", "TO"] rfl (by decide)
      (Phrased.single (Written.name isMark (Text.QualifiedName.table newName)))
    exact (Phrased.consKeywords ["ALTER", "TABLE"] rfl (by decide)
      (Phrased.cons (Written.tableName isMark table) hto)).written.read_eq
  renameColumn table column newName _ := by
    have hto := Phrased.consKeywords ["TO"] rfl (by decide)
      (Phrased.single (Written.name isMark newName))
    have hrename := Phrased.consKeywords ["RENAME", "COLUMN"] rfl (by decide)
      (Phrased.cons (Written.name isMark column) hto)
    exact (Phrased.consKeywords ["ALTER", "TABLE"] rfl (by decide)
      (Phrased.cons (Written.tableName isMark table) hrename)).written.read_eq
  addColumn table column := by
    have hread := Spelled.map_read_addColumn d table column Phrased.nil
    rw [List.append_nil] at hread
    exact hread
  addIndex table index := Spelled.map_read_addIndex d table index
  dropIndex table name := by
    have hname := Phrased.single (written_besideTable table name)
    exact (Phrased.consKeywords ["DROP", "INDEX"] rfl (by decide) hname).written.read_eq
  listTables := read_listTables d
  listColumns table := by
    have hselect : Written quoteMark "SELECT name, type, \"notnull\", dflt_value, pk FROM"
        (.word "SELECT" :: columnFieldTokens ++ [.word "FROM"]) :=
      Written.of_read isMark (by decide +kernel)
    have hinfo := (Written.word (by decide : IsWord "pragma_table_info")).applied
      (written_tableArguments table)
    exact (Phrased.cons hselect (Phrased.single hinfo)).written.read_eq
  listIndexes table := by
    have hindex : Written quoteMark "SELECT il.name AS index_name, il.\"unique\" AS is_unique,"
        [.word "SELECT", .word "il", .sign '.', .word "name", .word "AS", .word "index_name",
          .sign ',', .word "il", .sign '.', .name "unique", .word "AS", .word "is_unique",
          .sign ','] :=
      Written.of_read isMark (by decide +kernel)
    have hcolumn : Written quoteMark "ii.name AS column_name FROM"
        [.word "ii", .sign '.', .word "name", .word "AS", .word "column_name", .word "FROM"] :=
      Written.of_read isMark (by decide +kernel)
    have hlist := (Written.word (by decide : IsWord "pragma_index_list")).applied
      (written_tableArguments table)
    have hil : Written quoteMark "AS il," [.word "AS", .word "il", .sign ','] :=
      Written.of_read isMark (by decide +kernel)
    have hname : Written quoteMark "il.name" [.word "il", .sign '.', .word "name"] :=
      Written.of_read isMark (by decide +kernel)
    have hinfo := (Written.word (by decide : IsWord "pragma_index_info")).applied
      (written_arguments hname table)
    have horder : Written quoteMark "ORDER BY il.seq, ii.seqno" indexOrderTokens :=
      Written.of_read isMark (by decide +kernel)
    have hii := Phrased.consKeywords ["AS", "ii"] rfl (by decide) (Phrased.single horder)
    have hsources := Phrased.cons hlist (Phrased.cons hil (Phrased.cons hinfo hii))
    exact (Phrased.cons hindex (Phrased.cons hcolumn hsources)).written.read_eq

end Sqlite

/-- Every statement is read in its fixed wording, in which each name that it was made for is one
token with the text of that name, or one for each component of the name of a table. -/
theorem statements_read_as_worded :
    (∀ name, Text.QualifiedName.MadeOfParts name) ∧
      (∀ d : MySql, MySql.Wording d) ∧ ∀ d : Sqlite, Sqlite.Wording d :=
  ⟨Text.QualifiedName.madeOfParts, MySql.wording, Sqlite.wording⟩

/-- An index with a name of its own, which has marks of both kinds and a dot in it. -/
def quotedIndex : Index := { columns := ["a`b", "c"], unique := true, name? := some "by`\"x.y" }

/-- The index is added by the name that it has, and if it had none, by one made up for it. -/
theorem quotedIndex_read_as_worded :
    (∃ sql, Statement.addIndex ({} : MySql) "app.t" quotedIndex = .ok sql ∧
      Token.read '\x60' sql = some [.word "ALTER", .word "TABLE", .name "app", .sign '.', .name "t",
        .word "ADD", .word "UNIQUE", .word "INDEX", .name "by`\"x.y", .sign '(', .name "a`b",
        .sign ',', .name "c", .sign ')']) ∧
    (∃ sql, Statement.addIndex ({} : Sqlite) "app.t" quotedIndex = .ok sql ∧
      Token.read '"' sql = some [.word "CREATE", .word "UNIQUE", .word "INDEX", .name "app",
        .sign '.', .name "by`\"x.y", .word "ON", .name "t", .sign '(', .name "a`b", .sign ',',
        .name "c", .sign ')']) ∧
    ∃ sql, Statement.addIndex ({} : Sqlite) "app.t" { quotedIndex with name? := none } = .ok sql ∧
      Token.read '"' sql = some [.word "CREATE", .word "UNIQUE", .word "INDEX", .name "app",
        .sign '.', .name "t_a`b_c_index", .word "ON", .name "t", .sign '(', .name "a`b", .sign ',',
        .name "c", .sign ')'] := by
  obtain ⟨-, hmysql, hsqlite⟩ := statements_read_as_worded
  have hown := (hmysql {}).addIndex "app.t" quotedIndex
  have hown' := (hsqlite {}).addIndex "app.t" quotedIndex
  have hmade := (hsqlite {}).addIndex "app.t" { quotedIndex with name? := none }
  exact ⟨⟨_, rfl, (Except.ok.inj hown).trans (by decide +kernel)⟩,
    ⟨_, rfl, (Except.ok.inj hown').trans (by decide +kernel)⟩,
    _, rfl, (Except.ok.inj hmade).trans (by decide +kernel)⟩

end SchemaChange
