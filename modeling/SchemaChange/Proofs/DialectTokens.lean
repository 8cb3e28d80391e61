import SchemaChange.MySql
import SchemaChange.Proofs.NameParts
import SchemaChange.Sqlite

/-!
Both databases spell their statements in tokens, and so every statement that creates a table is read
as prescribed. Where a name or a default has a mark, a comma, a parenthesis or a semicolon in it,
this stays inside its token.
-/
namespace SchemaChange

open Token (IsMark IsWord)

namespace MySql

theorem isMark : IsMark quoteMark := by decide

def capitalType : ColumnType → SqlType
  | .primaryKey => ⟨"INT", some 11⟩
  | .string => ⟨"VARCHAR", some 255⟩
  | .text => ⟨"TEXT", none⟩
  | .integer => ⟨"INT", some 11⟩
  | .float => ⟨"FLOAT", none⟩
  | .decimal => ⟨"DECIMAL", none⟩
  | .datetime => ⟨"DATETIME", none⟩
  | .timestamp => ⟨"DATETIME", none⟩
  | .time => ⟨"TIME", none⟩
  | .date => ⟨"DATE", none⟩
  | .binary => ⟨"BLOB", none⟩
  | .boolean => ⟨"TINYINT", some 1⟩

theorem isWord_type (type : ColumnType) : IsWord (capitalType type).name := by
  cases type <;> decide

theorem capitalType_eq (type : ColumnType) :
    capitalType type = { sqlType type with
      name := String.ofList (Text.upper (sqlType type).name.toList) } := by
  cases type <;> decide

/-- The words and signs of the options of a table. -/
def suffixTokens (d : MySql) (options : TableOptions) : List Token :=
  [.word "ENGINE", .sign '=', .word (options.engine?.getD d.engine)] ++
    match options.collation? with
    | some collation => [.word "COLLATE", .sign '=', .word collation]
    | none => []

theorem written_suffix (d : MySql) {options : TableOptions}
    (hengine : IsWord (options.engine?.getD d.engine))
    (hcollation : ∀ collation, options.collation? = some collation → IsWord collation) :
    Written quoteMark (tableSuffix d options) (suffixTokens d options) := by
  have hwords : Phrased quoteMark ["ENGINE", "=", options.engine?.getD d.engine]
      [.word "ENGINE", .sign '=', .word (options.engine?.getD d.engine)] :=
    Phrased.cons (Written.word (by decide))
      (Phrased.cons (Written.sign rfl rfl) (Phrased.single (Written.word hengine)))
  refine (hwords.append ?_).written
  cases hoption : options.collation? with
  | none => exact Phrased.nil
  | some collation =>
    exact Phrased.cons (Written.word (by decide))
      (Phrased.cons (Written.sign rfl rfl) (Phrased.single (Written.word (hcollation _ hoption))))

/-- An index is added to its table. -/
def indexTokens (table name : String) (index : Index) : List Token :=
  keywords ["ALTER", "TABLE"] ++ (tableNameTokens table ++
    (keywords (if index.unique then ["ADD", "UNIQUE", "INDEX"] else ["ADD", "INDEX"]) ++
      (.name name :: inParentheses (nameList index.columns))))

theorem written_index (d : MySql) (table name : String) (index : Index) :
    Written quoteMark (Dialect.addIndex d table name index) (indexTokens table name index) := by
  have halter : Written quoteMark "ALTER TABLE" (keywords ["ALTER", "TABLE"]) :=
    Written.keywords _ rfl (by decide)
  have hadd : Written quoteMark (if index.unique then "ADD UNIQUE INDEX" else "ADD INDEX")
      (keywords (if index.unique then ["ADD", "UNIQUE", "INDEX"] else ["ADD", "INDEX"])) :=
    Written.keywords_ite _ (Written.keywords _ rfl (by decide))
      (Written.keywords _ rfl (by decide))
  have hcolumns := (Written.nameList isMark index.columns).parenthesized
  have hname := Phrased.cons (Written.name isMark name) (Phrased.single hcolumns)
  exact (Phrased.cons halter
    (Phrased.cons (Written.tableName isMark table) (Phrased.cons hadd hname))).written

instance : Spelled MySql where
  isMark _ := isMark
  quoteName_eq _ _ := rfl
  quoteNames_eq _ _ := rfl
  quoteTable_eq _ _ := rfl
  capitalType _ := capitalType
  isWord_type _ := isWord_type
  capitalType_eq _ := capitalType_eq
  isWord_autoIncrement _ := (by decide : IsWord "AUTO_INCREMENT")
  IsPlain d options :=
    IsWord (options.engine?.getD d.engine) ∧
      ∀ collation, options.collation? = some collation → IsWord collation
  suffixTokens := suffixTokens
  phrased_suffix d _ h := Phrased.single (written_suffix d h.1 h.2)
  indexTokens _ := indexTokens
  written_index := written_index

end MySql

namespace Sqlite

theorem isMark : IsMark quoteMark := by decide

def capitalType : ColumnType → SqlType
  | .primaryKey => ⟨"INTEGER", none⟩
  | .string => ⟨"VARCHAR", some 255⟩
  | .text => ⟨"TEXT", none⟩
  | .integer => ⟨"INTEGER", none⟩
  | .float => ⟨"FLOAT", none⟩
  | .decimal => ⟨"DECIMAL", none⟩
  | .datetime => ⟨"DATETIME", none⟩
  | .timestamp => ⟨"DATETIME", none⟩
  | .time => ⟨"TIME", none⟩
  | .date => ⟨"DATE", none⟩
  | .binary => ⟨"BLOB", none⟩
  | .boolean => ⟨"BOOLEAN", none⟩

theorem isWord_type (type : ColumnType) : IsWord (capitalType type).name := by
  cases type <;> decide

theorem capitalType_eq (type : ColumnType) :
    capitalType type = { sqlType type with
      name := String.ofList (Text.upper (sqlType type).name.toList) } := by
  cases type <;> decide

/-- The name of an index, with the schema of the table in front. -/
def besideTableTokens (table name : String) : List Token :=
  match Text.QualifiedName.schema? table with
  | some schema => [.name schema, .sign '.', .name name]
  | none => [.name name]

theorem written_besideTable (table name : String) :
    Written quoteMark (besideTable table name) (besideTableTokens table name) := by
  unfold besideTable besideTableTokens
  have hname := Written.name isMark name
  cases Text.QualifiedName.schema? table with
  | none => exact hname
  | some schema =>
    exact (Written.name isMark schema).joined Separates.dot hname

/-- An index is created beside its table. -/
def indexTokens (table name : String) (index : Index) : List Token :=
  .word "CREATE" :: (keywords (if index.unique then ["UNIQUE", "INDEX"] else ["INDEX"]) ++
    (besideTableTokens table name ++
      (.word "ON" :: .name (Text.QualifiedName.table table) ::
        inParentheses (nameList index.columns))))

theorem written_index (d : Sqlite) (table name : String) (index : Index) :
    Written quoteMark (Dialect.addIndex d table name index) (indexTokens table name index) := by
  have hindex : Written quoteMark (if index.unique then "UNIQUE INDEX" else "INDEX")
      (keywords (if index.unique then ["UNIQUE", "INDEX"] else ["INDEX"])) :=
    Written.keywords_ite _ (Written.keywords _ rfl (by decide))
      (Written.keywords _ rfl (by decide))
  have hcolumns := (Written.nameList isMark index.columns).parenthesized
  have htable := Phrased.cons (Written.word (by decide : IsWord "ON"))
    (Phrased.cons (Written.name isMark (Text.QualifiedName.table table))
      (Phrased.single hcolumns))
  exact (Phrased.cons (Written.word (by decide : IsWord "CREATE"))
    (Phrased.cons hindex (Phrased.cons (written_besideTable table name) htable))).written

instance : Spelled Sqlite where
  isMark _ := isMark
  quoteName_eq _ _ := rfl
  quoteNames_eq _ _ := rfl
  quoteTable_eq _ _ := rfl
  capitalType _ := capitalType
  isWord_type _ := isWord_type
  capitalType_eq _ := capitalType_eq
  isWord_autoIncrement _ := (by decide : IsWord "AUTOINCREMENT")
  IsPlain _ _ := True
  suffixTokens _ _ := []
  phrased_suffix _ _ _ := Phrased.nil
  indexTokens _ := indexTokens
  written_index := written_index

end Sqlite

/-- On either database, the statements of every table that is accepted are read as the tokens that
the table prescribes, whatever texts it has for names and defaults. The parts of a name that have
tokens of their own make up the name again. -/
theorem createTable_read_as_prescribed :
    (∀ name, Text.QualifiedName.MadeOfParts name) ∧
    (∀ (d : MySql) (table : Table) (statements : List String),
      IsWord (table.options.engine?.getD d.engine) →
      (∀ collation, table.options.collation? = some collation → IsWord collation) →
      Statement.createTable d table = .ok statements →
      statements.map (Token.read '\x60') = (statementTokens d table).map some) ∧
    ∀ (d : Sqlite) (table : Table) (statements : List String),
      Statement.createTable d table = .ok statements →
      statements.map (Token.read '"') = (statementTokens d table).map some := by
  refine ⟨Text.QualifiedName.madeOfParts, ?_, ?_⟩
  · intro d table statements hengine hcollation h
    exact Spelled.map_read_createTable d ⟨hengine, hcollation⟩ h
  · intro d table statements h
    exact Spelled.map_read_createTable d trivial h

/-- A table with marks, dots, commas and a semicolon in its names and in a default. -/
def strangeTable : Table where
  name := "a.b\" ("
  columns :=
    [{ name := "x', y", type := .string, default? := some (.text "it's, \") ;") },
      { name := "1.5", type := .float, nullable := true, default? := some (.float (-0.1)) }]
  indexes := [{ columns := ["x', y", "id"] }, { columns := ["id"], unique := true },
    { columns := ["id"], name? := some "by\"; (" }]

/-- What MySQL reads when the table is created. The indexes are clauses of the table. -/
def MySql.strangeTokens : List (List Token) :=
  [[.word "CREATE", .word "TABLE", .name "a", .sign '.', .name "b\" (", .sign '(',
    .name "id", .word "INT", .sign '(', .word "11", .sign ')', .word "NOT", .word "NULL",
      .word "AUTO_INCREMENT", .sign ',',
    .name "x', y", .word "VARCHAR", .sign '(', .word "255", .sign ')', .word "NOT", .word "NULL",
      .word "DEFAULT", .literal "it's, \") ;", .sign ',',
    .name "1.5", .word "FLOAT", .word "NULL", .word "DEFAULT", .literal "-0.1", .sign ',',
    .word "PRIMARY", .word "KEY", .sign '(', .name "id", .sign ')', .sign ',',
    .word "INDEX", .sign '(', .name "x', y", .sign ',', .name "id", .sign ',', .name "id",
      .sign ')', .sign ',',
    .word "UNIQUE", .sign '(', .name "id", .sign ')',
    .sign ')', .word "ENGINE", .sign '=', .word "InnoDB", .sign ';']]

/-- What SQLite reads. The key stands with its column, and the plain indexes by themselves. -/
def Sqlite.strangeTokens : List (List Token) :=
  [[.word "CREATE", .word "TABLE", .name "a", .sign '.', .name "b\" (", .sign '(',
    .name "id", .word "INTEGER", .word "NOT", .word "NULL", .word "PRIMARY", .word "KEY",
      .word "AUTOINCREMENT", .sign ',',
    .name "x', y", .word "VARCHAR", .sign '(', .word "255", .sign ')', .word "NOT", .word "NULL",
      .word "DEFAULT", .literal "it's, \") ;", .sign ',',
    .name "1.5", .word "FLOAT", .word "NULL", .word "DEFAULT", .literal "-0.1", .sign ',',
    .word "UNIQUE", .sign '(', .name "id", .sign ')',
    .sign ')', .sign ';'],
  [.word "CREATE", .word "INDEX", .name "a", .sign '.', .name "b\" (_x', y_id_index", .word "ON",
    .name "b\" (", .sign '(', .name "x', y", .sign ',', .name "id", .sign ')'],
  [.word "CREATE", .word "INDEX", .name "a", .sign '.', .name "by\"; (", .word "ON",
    .name "b\" (", .sign '(', .name "id", .sign ')']]

theorem strangeTable_read_as_prescribed :
    (∃ statements, Statement.createTable ({} : MySql) strangeTable = .ok statements ∧
      statements.map (Token.read '\x60') = MySql.strangeTokens.map some) ∧
    ∃ statements, Statement.createTable ({} : Sqlite) strangeTable = .ok statements ∧
      statements.map (Token.read '"') = Sqlite.strangeTokens.map some := by
  obtain ⟨-, hmysql, hsqlite⟩ := createTable_read_as_prescribed
  refine ⟨⟨_, rfl, ?_⟩, _, rfl, ?_⟩
  · have htokens : statementTokens ({} : MySql) strangeTable = MySql.strangeTokens := by
      decide +kernel
    rw [hmysql {} strangeTable _ (by decide) nofun rfl, htokens]
  · have htokens : statementTokens ({} : Sqlite) strangeTable = Sqlite.strangeTokens := by
      decide +kernel
    rw [hsqlite {} strangeTable _ rfl, htokens]

end SchemaChange
