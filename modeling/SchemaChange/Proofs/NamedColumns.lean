import SchemaChange.Proofs.ClientRun
import SchemaChange.Proofs.SameTable
import SchemaChange.Proofs.Wording

/-!
The names of columns in the statements for a table, a column or an index. What is described is
refused when a column or a column of an index has no name, and then nothing is executed. The columns
of a key are not looked at, nor is the column behind which a new one is put. So an empty name stands
in an accepted statement when it stands in one of these two places, and never otherwise.
-/
namespace SchemaChange

namespace TableClause

/-- The columns that a clause defines or lists. -/
def namedColumns : TableClause → List String
  | column definition => [definition.name]
  | key names => names
  | index names => names
  | unique names => names

end TableClause

/-- The columns in the statements that create a table and its indexes. -/
def TableReading.namedColumns (r : TableReading) : List String :=
  r.clauses.flatMap TableClause.namedColumns ++ r.created.flatten

/-- The key of the table lists a column without a name. -/
def Table.KeyLacksName (table : Table) : Prop := ∃ key, table.key? = some key ∧ "" ∈ key.columns

/-- A column or a column of an index has no name. -/
def Table.LacksName (table : Table) : Prop :=
  (∃ column ∈ table.columns, column.name = "") ∨ ∃ index ∈ table.indexes, "" ∈ index.columns

section

variable {table : Table} (hcheck : table.check = .ok ())
include hcheck

theorem empty_not_mem_indexes_of_check {indexes : List Index} (hsub : indexes ⊆ table.indexes) :
    "" ∉ indexes.flatMap (·.columns) := by
  obtain ⟨-, -, hindexes, -⟩ := Table.check_eq_ok_iff.mp hcheck
  intro hmem
  obtain ⟨index, hindex, hempty⟩ := List.mem_flatMap.mp hmem
  exact (hindexes index (hsub hindex)).2 hempty

variable {δ : Type} [Dialect δ] (d : δ)

/-- A key that is declared with its column is named as this column is. -/
theorem empty_mem_keyReadings_iff :
    "" ∈ (keyReadings d table).flatMap TableClause.namedColumns ↔ table.KeyLacksName := by
  unfold keyReadings Table.KeyLacksName
  rw [Table.key?_eq]
  cases table.askedKey? with
  | none => simp
  | some key =>
    cases key with
    | single name =>
      dsimp only
      by_cases hinline : IsInlineKey d table name
      · obtain ⟨column, hcolumn, hsame, -⟩ := hinline.2.2
        have hne : "" ≠ name := (hsame ▸ name_ne_empty_of_check hcheck hcolumn).symm
        simp [hinline, PrimaryKey.columns, hne]
      · simp [hinline, PrimaryKey.columns, TableClause.namedColumns]
    | composite names => simp [PrimaryKey.columns, TableClause.namedColumns]

variable [Spelled δ]

/-- Of the clauses of a table, the key alone may have an empty name. -/
theorem empty_mem_clauseReadings_iff :
    "" ∈ (clauseReadings d table).flatMap TableClause.namedColumns ↔ table.KeyLacksName := by
  have hcolumns : "" ∉ table.askedColumns.flatMap fun column => TableClause.namedColumns
      (.column (columnReading d column (IsInlineKey d table column.name))) := by
    intro hmem
    obtain ⟨column, hcolumn, hempty⟩ := List.mem_flatMap.mp hmem
    exact name_ne_empty_of_check hcheck hcolumn (List.mem_singleton.mp hempty).symm
  have hkind : ∀ p, "" ∉ (table.indexes.filter p).flatMap (·.columns) :=
    fun _ => empty_not_mem_indexes_of_check hcheck List.filter_sublist.subset
  have hclause : "" ∉ (if Dialect.declaresIndexInline d then
      (table.indexes.filter (!·.unique)).flatMap (·.columns) else []) := by
    split
    · exact hkind _
    · exact List.not_mem_nil
  rw [flatMap_clauseReadings, flatMap_indexReadings fun _ => rfl,
    flatMap_indexReadings fun _ => rfl, ← empty_mem_keyReadings_iff hcheck d]
  simp only [List.mem_append, hcolumns, hclause, hkind, false_or, or_false]

theorem empty_mem_namedColumns_iff {created : List (List String)}
    (hcreated : created ⊆ (table.indexes.filter (!·.unique)).map (·.columns)) :
    "" ∈ (TableReading.mk (clauseReadings d table) created).namedColumns ↔ table.KeyLacksName := by
  have hplain : "" ∉ (table.indexes.filter (!·.unique)).flatMap (·.columns) :=
    empty_not_mem_indexes_of_check hcheck List.filter_sublist.subset
  have hindexes : "" ∉ created.flatten := by
    intro hmem
    obtain ⟨names, hnames, hempty⟩ := List.mem_flatten.mp hmem
    exact hplain (List.mem_flatten.mpr ⟨names, hcreated hnames, hempty⟩)
  rw [TableReading.namedColumns, List.mem_append, empty_mem_clauseReadings_iff hcheck d]
  exact or_iff_left hindexes

end

/-- The names among some tokens, in order. -/
def tokenNames (tokens : List Token) : List String :=
  tokens.filterMap fun
    | .name name => some name
    | _ => none

@[simp] theorem tokenNames_append (ts us : List Token) :
    tokenNames (ts ++ us) = tokenNames ts ++ tokenNames us := List.filterMap_append

@[simp] theorem tokenNames_keywords (texts : List String) : tokenNames (keywords texts) = [] := by
  rw [tokenNames, keywords, List.filterMap_map]
  exact List.filterMap_eq_nil_iff.mpr fun _ _ => rfl

/-- The new column and the one behind which it is put, if there is one. -/
def addedNames? : List Token → Option (List String)
  | .word "ALTER" :: .word "TABLE" :: rest =>
    match (readDotted rest).2 with
    | .word "ADD" :: .word "COLUMN" :: definition => some (tokenNames definition)
    | _ => none
  | _ => none

/-- The columns of an index, which stand in the first parentheses. -/
def indexedNames? (tokens : List Token) : Option (List String) :=
  (behindParenthesis tokens).bind readNames

theorem indexedNames?_append {before : List Token} (h : .sign '(' ∉ before) {names : List String}
    (hne : names ≠ []) :
    indexedNames? (before ++ inParentheses (nameList names)) = some names := by
  rw [indexedNames?, inParentheses, behindParenthesis_append h]
  exact readNames_nameList hne

theorem not_mem_keywords (texts : List String) (c : Char) : .sign c ∉ keywords texts := by
  simp [keywords]

section

variable {δ : Type} [Dialect δ] [Spelled δ] (d : δ)

theorem tokenNames_columnTokens (column : Column) (isKey : Bool) :
    tokenNames (columnTokens d column isKey) = [column.name] := by
  have htype : tokenNames (.name column.name :: typeTokens d column) = [column.name] := by
    unfold typeTokens
    dsimp only
    cases column.limit.or (Spelled.capitalType d column.type).limit <;> rfl
  rw [columnTokens, tokenNames_append, tokenNames_append, tokenNames_append, tokenNames_append,
    htype, tokenNames_keywords, tokenNames_keywords, tokenNames_keywords]
  cases column.default? <;> rfl

theorem addedNames?_tokens (table : String) (column : Column) (position : List Token) :
    addedNames? (newColumnTokens d table column ++ position) =
      some (column.name :: tokenNames position) := by
  rw [newColumnTokens, List.append_assoc, List.append_assoc, List.append_assoc]
  simp only [keywords, List.map, List.cons_append, List.nil_append, addedNames?]
  rw [readDotted_table table (by simp)]
  simp only [tokenNames_append, tokenNames_columnTokens, List.singleton_append]

end

theorem MySql.indexedNames?_indexTokens (table name : String) {index : Index}
    (h : index.columns ≠ []) :
    indexedNames? (indexTokens table name index) = some index.columns := by
  have htokens : indexTokens table name index =
      keywords ["ALTER", "TABLE"] ++ tableNameTokens table ++
        keywords (if index.unique then ["ADD", "UNIQUE", "INDEX"] else ["ADD", "INDEX"]) ++
        [.name name] ++ SchemaChange.inParentheses (nameList index.columns) := by
    simp [indexTokens]
  rw [htokens]
  refine indexedNames?_append ?_ h
  simp [not_mem_keywords, not_mem_tableNameTokens]

theorem Sqlite.indexedNames?_indexTokens (table name : String) {index : Index}
    (h : index.columns ≠ []) :
    indexedNames? (indexTokens table name index) = some index.columns := by
  have hbeside : .sign '(' ∉ besideTableTokens table name := by
    unfold besideTableTokens
    cases Text.QualifiedName.schema? table <;> simp
  have htokens : indexTokens table name index =
      .word "CREATE" :: keywords (if index.unique then ["UNIQUE", "INDEX"] else ["INDEX"]) ++
        besideTableTokens table name ++ [.word "ON", .name (Text.QualifiedName.table table)] ++
        inParentheses (nameList index.columns) := by
    simp [indexTokens]
  rw [htokens]
  refine indexedNames?_append ?_ h
  simp [not_mem_keywords, hbeside]

/-- The description is refused as a wrong argument, there is no statement for it, and no database is
asked for anything. -/
def Refuses {α : Type} (statement : Except Failure α) (action : Action Unit) : Prop :=
  ∃ f, f.kind = .argument ∧ statement = .error f ∧
    ∀ {σ : Type} (db : Database σ) (s : σ), Action.run db action s = ⟨.error f, [], s⟩

theorem refuses_of_error {α : Type} {statement : Except Failure α} {next : α → Action Unit}
    {f : Failure} (hkind : f.kind = .argument) (h : statement = .error f) :
    Refuses statement (liftM statement >>= next) := by
  refine ⟨f, hkind, h, fun db s => ?_⟩
  rw [Action.run_bind, Action.run_liftM, h]
  rfl

section

variable {δ : Type} [Catalog δ] (client : Client δ)

theorem refuses_table {table : Table} (h : table.LacksName) :
    Refuses (Statement.createTable client.dialect table) (client.createTable table) := by
  cases hcheck : table.check with
  | ok u =>
    obtain ⟨-, hcolumns, hindexes, -⟩ := Table.check_eq_ok_iff.mp hcheck
    rcases h with ⟨column, hcolumn, hempty⟩ | ⟨index, hindex, hempty⟩
    · exact absurd hempty (hcolumns column hcolumn)
    · exact absurd hempty (hindexes index hindex).2
  | error f =>
    refine refuses_of_error (kind_of_tableCheck_eq_error hcheck) ?_
    rw [Statement.createTable, hcheck]
    rfl

theorem refuses_column (table : String) {column : Column} (h : column.name = "") :
    Refuses (Statement.addColumn client.dialect table column) (client.addColumn table column) := by
  have hcheck : column.check = .error (.unnamedColumn column.type) := if_pos h
  have hkind : (Failure.unnamedColumn column.type).kind = .argument := rfl
  refine refuses_of_error hkind ?_
  rw [Statement.addColumn, Statement.defineColumn, hcheck]
  rfl

theorem refuses_index (table : String) {index : Index}
    (h : index.columns = [] ∨ "" ∈ index.columns) :
    Refuses (Statement.addIndex client.dialect table index) (client.addIndex table index) := by
  cases hcheck : index.check with
  | ok u =>
    obtain ⟨hne, hnamed⟩ := Index.check_eq_ok_iff.mp hcheck
    rcases h with h | h
    · exact absurd h hne
    · exact absurd h hnamed
  | error f =>
    refine refuses_of_error (kind_of_indexCheck_eq_error index f hcheck) ?_
    rw [Statement.addIndex, hcheck]
    rfl

end

/-- Which descriptions are refused for a name, and which names stand in the statements of the others:
an empty one only in the key of a table and where a new column is put behind another. -/
structure NamesColumns {δ : Type} [Catalog δ] (client : Client δ)
    (behind? : Column → Option String) : Prop where
  table {table : Table} {statements : List String}
    (h : Statement.createTable client.dialect table = .ok statements) :
    ∃ r, TableReading.read (Dialect.quoteMark client.dialect) statements = some r ∧
      ("" ∈ r.namedColumns ↔ table.KeyLacksName)
  column {table add : String} {column : Column}
    (h : Statement.addColumn client.dialect table column = .ok add) :
    column.name ≠ "" ∧ (Token.read (Dialect.quoteMark client.dialect) add).bind addedNames? =
      some (column.name :: (behind? column).toList)
  index {table add : String} {index : Index}
    (h : Statement.addIndex client.dialect table index = .ok add) :
    "" ∉ index.columns ∧ (Token.read (Dialect.quoteMark client.dialect) add).bind indexedNames? =
      some index.columns
  refusesTable {table : Table} (h : table.LacksName) :
    Refuses (Statement.createTable client.dialect table) (client.createTable table)
  refusesColumn (table : String) {column : Column} (h : column.name = "") :
    Refuses (Statement.addColumn client.dialect table column) (client.addColumn table column)
  refusesIndex (table : String) {index : Index} (h : index.columns = [] ∨ "" ∈ index.columns) :
    Refuses (Statement.addIndex client.dialect table index) (client.addIndex table index)

section

variable {δ : Type} [Dialect δ] {d : δ} {table add : String}

theorem addedNames?_of_addColumn [Spelled δ] {column : Column} {position : List Token}
    (h : Statement.addColumn d table column = .ok add)
    (hread : (Statement.addColumn d table column).map (Token.read (Dialect.quoteMark d)) =
      newColumnReading column (newColumnTokens d table column ++ position)) :
    column.name ≠ "" ∧ (Token.read (Dialect.quoteMark d) add).bind addedNames? =
      some (column.name :: tokenNames position) := by
  obtain ⟨hname, htokens⟩ := read_of_newColumnReading hread h
  refine ⟨hname, ?_⟩
  rw [htokens, Option.bind_some, addedNames?_tokens]

theorem indexedNames?_of_addIndex {index : Index} {tokens : List Token}
    (h : Statement.addIndex d table index = .ok add)
    (hread : Token.read (Dialect.quoteMark d) (Statement.namedIndex d table index) = some tokens)
    (hnames : index.columns ≠ [] → indexedNames? tokens = some index.columns) :
    "" ∉ index.columns ∧
      (Token.read (Dialect.quoteMark d) add).bind indexedNames? = some index.columns := by
  obtain ⟨_, hcheck, hadd⟩ := bind_eq_ok_iff.mp h
  obtain ⟨hne, hnamed⟩ := Index.check_eq_ok_iff.mp hcheck
  cases hadd
  refine ⟨hnamed, ?_⟩
  rw [hread, Option.bind_some]
  exact hnames hne

end

theorem MySql.namesColumns (client : Client MySql) : NamesColumns client (·.after?) where
  table {table statements} h := by
    obtain ⟨-, hread⟩ := read_createTable client.dialect h
    obtain ⟨_, hcheck, -⟩ := bind_eq_ok_iff.mp h
    exact ⟨_, hread, empty_mem_namedColumns_iff hcheck client.dialect (List.nil_subset _)⟩
  column {table add column} h := by
    obtain ⟨hname, hnames⟩ :=
      addedNames?_of_addColumn h ((wording client.dialect).addColumn table column)
    refine ⟨hname, hnames.trans ?_⟩
    unfold positionTokens
    cases column.after? with
    | none => rfl
    | some after => rfl
  index {table add index} h :=
    indexedNames?_of_addIndex h
      (written_index client.dialect table (index.nameFor table) index).read_eq
      (indexedNames?_indexTokens table (index.nameFor table))
  refusesTable := refuses_table client
  refusesColumn := refuses_column client
  refusesIndex := refuses_index client

theorem Sqlite.namesColumns (client : Client Sqlite) : NamesColumns client (fun _ => none) where
  table {table statements} h := by
    have hread := read_createTable client.dialect h
    obtain ⟨_, hcheck, -⟩ := bind_eq_ok_iff.mp h
    exact ⟨_, hread, empty_mem_namedColumns_iff hcheck client.dialect (List.Subset.refl _)⟩
  column {table add column} h := by
    have hread := (wording client.dialect).addColumn table column
    rw [← List.append_nil (newColumnTokens client.dialect table column)] at hread
    exact addedNames?_of_addColumn h hread
  index {table add index} h :=
    indexedNames?_of_addIndex h
      (written_index client.dialect table (index.nameFor table) index).read_eq
      (indexedNames?_indexTokens table (index.nameFor table))
  refusesTable := refuses_table client
  refusesColumn := refuses_column client
  refusesIndex := refuses_index client

/-- What is described without the name of a column, or as an index without columns, is refused as a
wrong argument before anything is executed. In what is accepted no column that is defined or indexed
has an empty name; a column of the key has one if and only if the key was given with it, and so has
the column behind which MySQL is told to put a new one. -/
theorem empty_names_only_in_keys (client : Client MySql) (client' : Client Sqlite) :
    NamesColumns client (·.after?) ∧ NamesColumns client' fun _ => none :=
  ⟨MySql.namesColumns client, Sqlite.namesColumns client'⟩

/-- A table with a key of its own, which is this one. -/
def keyedTable (key : PrimaryKey) : Table where
  name := "t"
  columns := [{ name := "a", type := .integer }, { name := "b", type := .text }]
  indexes := [{ columns := ["b"], unique := true }, { columns := ["b", "a"] }]
  options := { implicitId := false, primaryKey? := some key }

theorem keyed_columns_named :
    (∃ statements r,
      Statement.createTable ({} : Sqlite) (keyedTable (.composite ["a", "b"])) = .ok statements ∧
        TableReading.read Sqlite.quoteMark statements = some r ∧ "" ∉ r.namedColumns) ∧
      (∃ add, Statement.addColumn ({} : MySql) "t"
          { name := "c", type := .date, after? := some "a" } = .ok add ∧
        (Token.read MySql.quoteMark add).bind addedNames? = some ["c", "a"]) ∧
      (∃ add, Statement.addIndex ({} : MySql) "t" { columns := ["a"] } = .ok add ∧
        (Token.read MySql.quoteMark add).bind indexedNames? = some ["a"]) ∧
      Refuses (Statement.addIndex ({} : MySql) "t" { columns := ["a", ""] })
        (Client.addIndex ⟨({} : MySql), {}⟩ "t" { columns := ["a", ""] }) := by
  obtain ⟨hmysql, hsqlite⟩ := empty_names_only_in_keys ⟨{}, {}⟩ ⟨{}, {}⟩
  refine ⟨?_, ?_, ?_, hmysql.refusesIndex "t" (Or.inr (by decide))⟩
  · obtain ⟨statements, hok⟩ : ∃ statements,
        Statement.createTable ({} : Sqlite) (keyedTable (.composite ["a", "b"])) = .ok statements :=
      ⟨_, rfl⟩
    obtain ⟨r, hread, hiff⟩ := hsqlite.table hok
    refine ⟨statements, r, hok, hread, fun hempty => ?_⟩
    obtain ⟨key, hkey, hmem⟩ := hiff.mp hempty
    cases hkey
    exact absurd hmem (by decide)
  · obtain ⟨add, hok⟩ : ∃ add, Statement.addColumn ({} : MySql) "t"
        { name := "c", type := .date, after? := some "a" } = .ok add := ⟨_, rfl⟩
    exact ⟨add, hok, (hmysql.column hok).2⟩
  · obtain ⟨add, hok⟩ : ∃ add, Statement.addIndex ({} : MySql) "t" { columns := ["a"] } = .ok add :=
      ⟨_, rfl⟩
    exact ⟨add, hok, (hmysql.index hok).2⟩

/-- A key without a name is written down as it is, and so is the column behind which a new one is to
stand. -/
theorem unnamed_key_accepted :
    (∃ statements r, Statement.createTable ({} : MySql) (keyedTable (.single "")) = .ok statements ∧
      TableReading.read MySql.quoteMark statements = some r ∧ r.key = [""]) ∧
      (∃ statements r,
        Statement.createTable ({} : Sqlite) (keyedTable (.composite ["a", ""])) = .ok statements ∧
        TableReading.read Sqlite.quoteMark statements = some r ∧ r.key = ["a", ""]) ∧
      ∃ add, Statement.addColumn ({} : MySql) "t"
          { name := "c", type := .date, after? := some "" } = .ok add ∧
        (Token.read MySql.quoteMark add).bind addedNames? = some ["c", ""] := by
  have hmysql : Statement.createTable ({} : MySql) (keyedTable (.single "")) = .ok _ := rfl
  have hsqlite : Statement.createTable ({} : Sqlite) (keyedTable (.composite ["a", ""])) = .ok _ :=
    rfl
  refine ⟨⟨_, _, hmysql, (MySql.read_createTable {} hmysql).2, rfl⟩,
    ⟨_, _, hsqlite, Sqlite.read_createTable {} hsqlite, rfl⟩, ⟨_, rfl, ?_⟩⟩
  decide +kernel

end SchemaChange
