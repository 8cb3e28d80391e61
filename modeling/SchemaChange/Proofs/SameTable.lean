import SchemaChange.Proofs.ClauseReading
import SchemaChange.Proofs.DialectTokens

/-!
Both databases are told of the same table. They are told in different ways: the key stands with its
column or in a clause, and indexes in a clause or in statements of their own. What a reader makes
of the statements is nevertheless what the table asks for, so that no column of the table, its key
or its indexes is lost, doubled or moved on either of them. An engine or a collation that is not a
word does no harm to this, because the options stand behind the clauses.
-/
namespace SchemaChange

/-- The definition says what was asked of the column. A length that was not asked for may be there.
-/
structure Declares (column : Column) (definition : ColumnReading) : Prop where
  name : definition.name = column.name
  nullable : definition.nullable = column.nullable
  counts : definition.counts = column.autoIncrement
  default? : definition.default? = column.default?.map DefaultValue.literalText
  limit : ∀ limit, column.limit = some limit → definition.limit? = some limit

/-- Two definitions say the same of a column, apart from its type and from where the key stands. -/
structure SameColumn (definition other : ColumnReading) : Prop where
  name : definition.name = other.name
  nullable : definition.nullable = other.nullable
  counts : definition.counts = other.counts
  default? : definition.default? = other.default?

/-- The columns of the key that a table asks for. -/
def Table.askedKeyColumns (table : Table) : List String :=
  match table.askedKey? with
  | some (.single name) => [name]
  | some (.composite names) => names
  | none => []

/-- What is read is what the table asks for, everything in the order of the table. -/
structure TableReading.Describes (r : TableReading) (table : Table) : Prop where
  columns : List.Forall₂ Declares table.askedColumns r.columns
  key : r.key = table.askedKeyColumns
  unique : r.unique = (table.indexes.filter (·.unique)).flatMap (·.columns)
  indexes : r.indexClause ++ r.created.flatten =
    (table.indexes.filter (!·.unique)).flatMap (·.columns)

theorem Declares.sameColumn {column : Column} {definition other : ColumnReading}
    (h : Declares column definition) (h' : Declares column other) :
    SameColumn definition other where
  name := h.name.trans h'.name.symm
  nullable := h.nullable.trans h'.nullable.symm
  counts := h.counts.trans h'.counts.symm
  default? := h.default?.trans h'.default?.symm

theorem TableReading.Describes.forall₂_sameColumn {r r' : TableReading} {table : Table}
    (h : r.Describes table) (h' : r'.Describes table) :
    List.Forall₂ SameColumn r.columns r'.columns := by
  have hcolumns := h.columns
  have hothers := h'.columns
  generalize table.askedColumns = columns at hcolumns hothers
  generalize r.columns = definitions at hcolumns ⊢
  generalize r'.columns = others at hothers ⊢
  induction hcolumns generalizing others with
  | nil =>
    cases hothers
    exact .nil
  | cons hfirst hrest ih =>
    cases hothers with
    | cons hother hothers => exact .cons (hfirst.sameColumn hother) (ih _ hothers)

/-- Of names that are all different, one is left. -/
theorem flatMap_ite_eq {names : List String} (hnodup : names.Nodup) {name : String}
    (hmem : name ∈ names) : (names.flatMap fun n => if n = name then [n] else []) = [name] := by
  induction names with
  | nil => cases hmem
  | cons first names ih =>
    obtain ⟨hfirst, hnodup⟩ := List.nodup_cons.mp hnodup
    rw [List.flatMap_cons]
    by_cases heq : first = name
    · have hrest : (names.flatMap fun n => if n = name then [n] else []) = [] := by
        rw [List.flatMap_eq_nil_iff]
        intro other hother
        have hne : other ≠ name := fun hsame => hfirst ((heq.trans hsame.symm) ▸ hother)
        exact if_neg hne
      rw [if_pos heq, hrest, heq]
      rfl
    · have hmem : name ∈ names := (List.mem_cons.mp hmem).resolve_left fun hsame => heq hsame.symm
      rw [if_neg heq, ih hnodup hmem]
      rfl

theorem declares_columnReading {δ : Type} [Dialect δ] [Spelled δ] (d : δ) (column : Column) (isKey : Bool) :
    Declares column (columnReading d column isKey) where
  name := rfl
  nullable := rfl
  counts := rfl
  default? := rfl
  limit limit h := by rw [columnReading, h, Option.some_or]

section

variable {β : Type} {clause : List String → TableClause}

theorem flatMap_indexReadings {p : TableClause → List String}
    (h : ∀ names, p (clause names) = names) (indexes : List Index) :
    (indexReadings clause indexes).flatMap p = indexes.flatMap (·.columns) := by
  unfold indexReadings
  by_cases hnone : indexes = []
  · rw [if_pos hnone, hnone]
    rfl
  · rw [if_neg hnone, List.flatMap_singleton, h]

theorem flatMap_indexReadings_eq_nil {p : TableClause → List β}
    (h : ∀ names, p (clause names) = []) (indexes : List Index) :
    (indexReadings clause indexes).flatMap p = [] := by
  unfold indexReadings
  by_cases hnone : indexes = []
  · rw [if_pos hnone]
    rfl
  · rw [if_neg hnone, List.flatMap_singleton, h]

variable {δ : Type} [Dialect δ] (d : δ)

theorem flatMap_keyReadings_eq_nil {p : TableClause → List β} (h : ∀ names, p (.key names) = [])
    (table : Table) : (keyReadings d table).flatMap p = [] := by
  unfold keyReadings
  cases table.askedKey? with
  | none => rfl
  | some key =>
    cases key with
    | single name =>
      dsimp only
      split
      · rfl
      · rw [List.flatMap_singleton, h]
    | composite names => exact (List.flatMap_singleton ..).trans (h names)

/-- Of the columns of a table, none but the one in the key can be declared as the key. -/
theorem flatMap_inlineKey {table : Table} (hnames : (table.askedColumns.map (·.name)).Nodup)
    {key : String} (hkey : table.askedKey? = some (.single key)) :
    ((table.askedColumns.map (·.name)).flatMap fun name =>
        if IsInlineKey d table name then [name] else []) =
      if IsInlineKey d table key then [key] else [] := by
  have hsame : ∀ name, IsInlineKey d table name → name = key := by
    intro name hname
    cases hkey.symm.trans hname.2.1
    rfl
  by_cases hinline : IsInlineKey d table key
  · have hiff : ∀ name, IsInlineKey d table name ↔ name = key :=
      fun name => ⟨hsame name, fun heq => heq ▸ hinline⟩
    obtain ⟨column, hcolumn, heq, -⟩ := hinline.2.2
    rw [if_pos hinline]
    simp only [hiff]
    exact flatMap_ite_eq hnames (List.mem_map.mpr ⟨column, hcolumn, heq⟩)
  · rw [if_neg hinline, List.flatMap_eq_nil_iff]
    exact fun name _ => if_neg fun hname => hinline (hsame name hname ▸ hname)

variable [Spelled δ]

/-- What the clauses of a table have of something comes from its columns, its key and its indexes.
-/
theorem flatMap_clauseReadings (p : TableClause → List β) (table : Table) :
    (clauseReadings d table).flatMap p =
      (table.askedColumns.flatMap fun column =>
        p (.column (columnReading d column (IsInlineKey d table column.name)))) ++
      ((keyReadings d table).flatMap p ++
        ((if Dialect.declaresIndexInline d then
            (indexReadings .index (table.indexes.filter (!·.unique))).flatMap p else []) ++
          (indexReadings .unique (table.indexes.filter (·.unique))).flatMap p)) := by
  have hplain : (if Dialect.declaresIndexInline d then
      indexReadings .index (table.indexes.filter (!·.unique)) else []).flatMap p =
      if Dialect.declaresIndexInline d then
        (indexReadings .index (table.indexes.filter (!·.unique))).flatMap p else [] := by
    cases Dialect.declaresIndexInline d <;> rfl
  rw [clauseReadings, List.flatMap_append, List.flatMap_append, List.flatMap_append,
    List.flatMap_map, hplain, List.append_assoc, List.append_assoc]

/-- The columns that are read are those of the table, in order. -/
theorem columns_clauseReadings (table : Table) :
    (clauseReadings d table).flatMap TableClause.columns =
      table.askedColumns.map fun column =>
        columnReading d column (IsInlineKey d table column.name) := by
  rw [flatMap_clauseReadings, flatMap_keyReadings_eq_nil d fun _ => rfl,
    flatMap_indexReadings_eq_nil fun _ => rfl, flatMap_indexReadings_eq_nil fun _ => rfl,
    ite_self, List.append_nil, List.append_nil, List.append_nil, List.map_eq_flatMap]
  rfl

variable {table : Table}

theorem flatMap_keyColumns (hnames : (table.askedColumns.map (·.name)).Nodup) :
    (clauseReadings d table).flatMap TableClause.keyColumns = table.askedKeyColumns := by
  have hcolumns : (table.askedColumns.flatMap fun column => TableClause.keyColumns
      (.column (columnReading d column (IsInlineKey d table column.name)))) =
      (table.askedColumns.map (·.name)).flatMap fun name =>
        if IsInlineKey d table name then [name] else [] := by
    simp [List.flatMap_map, TableClause.keyColumns, columnReading]
  rw [flatMap_clauseReadings, flatMap_indexReadings_eq_nil fun _ => rfl,
    flatMap_indexReadings_eq_nil fun _ => rfl, ite_self, List.append_nil, List.append_nil, hcolumns]
  unfold keyReadings Table.askedKeyColumns
  cases hkey : table.askedKey? with
  | none =>
    have hnone : ∀ name, ¬ IsInlineKey d table name := by simp [IsInlineKey, hkey]
    simp [hnone]
  | some key =>
    cases key with
    | single key =>
      rw [flatMap_inlineKey d hnames hkey]
      by_cases hinline : IsInlineKey d table key
      · simp [hinline]
      · simp [hinline, TableClause.keyColumns]
    | composite names =>
      have hnone : ∀ name, ¬ IsInlineKey d table name := by simp [IsInlineKey, hkey]
      simp [hnone, TableClause.keyColumns]

/-- What is read is what the table asks for, when the plain indexes are declared with the table or
created beside it. -/
theorem describes_clauseReadings (hnames : (table.askedColumns.map (·.name)).Nodup)
    {created : List (List String)}
    (hcreated : created = if Dialect.declaresIndexInline d then []
      else (table.indexes.filter (!·.unique)).map (·.columns)) :
    (TableReading.mk (clauseReadings d table) created).Describes table where
  columns := by
    rw [TableReading.columns, columns_clauseReadings, List.forall₂_map_right_iff,
      List.forall₂_same]
    exact fun column _ => declares_columnReading d column _
  key := flatMap_keyColumns d hnames
  unique := by
    rw [TableReading.unique, flatMap_clauseReadings, flatMap_keyReadings_eq_nil d fun _ => rfl,
      flatMap_indexReadings_eq_nil fun _ => rfl, flatMap_indexReadings fun _ => rfl, ite_self]
    simp [TableClause.uniqueColumns]
  indexes := by
    rw [TableReading.indexClause, flatMap_clauseReadings, flatMap_keyReadings_eq_nil d fun _ => rfl,
      flatMap_indexReadings fun _ => rfl, flatMap_indexReadings_eq_nil fun _ => rfl, hcreated]
    cases Dialect.declaresIndexInline d with
    | true => simp [TableClause.indexColumns]
    | false => simp [TableClause.indexColumns, List.flatMap_def]

end

/-- Every column of an accepted table has a name, the implicit one among them. -/
theorem name_ne_empty_of_check {table : Table} (hcheck : table.check = .ok ()) {column : Column}
    (hcolumn : column ∈ table.askedColumns) : column.name ≠ "" := by
  obtain ⟨-, hcolumns, -⟩ := Table.check_eq_ok_iff.mp hcheck
  unfold Table.askedColumns at hcolumn
  split at hcolumn
  · rcases List.mem_cons.mp hcolumn with rfl | hcolumn
    · decide
    · exact hcolumns column hcolumn
  · exact hcolumns column hcolumn

/-- A table is refused by its check or not at all. -/
theorem map_createTable {δ : Type} [Dialect δ] (d : δ) (table : Table) :
    (Statement.createTable d table).map (fun _ => ()) = table.check := by
  cases hcheck : table.check with
  | error f =>
    rw [Statement.createTable, hcheck]
    rfl
  | ok u =>
    have hall : ∀ column ∈ table.allColumns, ∃ text, Statement.defineColumn d column
        (Statement.inlineKey? d table == some column.name) = .ok text := by
      intro column hcolumn
      rw [Table.allColumns_eq] at hcolumn
      have hname := name_ne_empty_of_check hcheck hcolumn
      exact ⟨_, bind_eq_ok_iff.mpr ⟨(), Column.check_eq_ok_iff.mpr hname, rfl⟩⟩
    obtain ⟨texts, htexts⟩ := exists_mapM_eq_ok hall
    rw [Statement.createTable, hcheck]
    change ((table.allColumns.mapM _ >>= _ : Except Failure _).map _) = _
    rw [htexts]
    rfl

/-- The check of a member finds fault with an argument. -/
theorem kind_of_forM_eq_error {α : Type} {f : α → Except Failure Unit} {kind : FailureKind}
    (h : ∀ x e, f x = .error e → e.kind = kind) {xs : List α} {e : Failure}
    (he : xs.forM f = .error e) : e.kind = kind := by
  induction xs with
  | nil => cases he
  | cons x xs ih =>
    have hcons : (x :: xs).forM f = (f x >>= fun _ => xs.forM f) := rfl
    rw [hcons] at he
    rcases bind_eq_error_iff.mp he with hx | ⟨_, -, hxs⟩
    · exact h x e hx
    · exact ih hxs

theorem kind_of_columnCheck_eq_error (column : Column) (f : Failure)
    (h : column.check = .error f) : f.kind = .argument := by
  unfold Column.check at h
  split at h
  · cases h
    rfl
  · cases h

theorem kind_of_indexCheck_eq_error (index : Index) (f : Failure) (h : index.check = .error f) :
    f.kind = .argument := by
  unfold Index.check at h
  split at h
  · cases h
    rfl
  · split at h
    · cases h
      rfl
    · cases h

theorem kind_of_tableCheck_eq_error {table : Table} {f : Failure} (h : table.check = .error f) :
    f.kind = .argument := by
  unfold Table.check at h
  by_cases hname : table.name = ""
  · rw [if_pos hname] at h
    cases h
    rfl
  · rw [if_neg hname] at h
    rcases bind_eq_error_iff.mp h with hcolumns | ⟨_, -, h⟩
    · exact kind_of_forM_eq_error kind_of_columnCheck_eq_error hcolumns
    · rcases bind_eq_error_iff.mp h with hindexes | ⟨_, -, h⟩
      · exact kind_of_forM_eq_error kind_of_indexCheck_eq_error hindexes
      · split at h
        · cases h
          rfl
        · cases h

/-- What a statement adds to a phrase stands apart from it. -/
theorem exists_behind_phrase {parts : List String} (hne : parts ≠ []) (suffix? : Option String) :
    ∃ rest, (Text.phrase (parts ++ suffix?.toList) ++ ";").toList =
      (Text.phrase parts).toList ++ rest ∧ Token.Breaks rest := by
  cases suffix? with
  | none => exact ⟨[';'], by simp, .cons rfl []⟩
  | some suffix =>
    refine ⟨' ' :: (suffix.toList ++ [';']), ?_, .cons rfl _⟩
    rw [Option.toList_some, Text.phrase_append_singleton hne]
    simp

namespace Spelled

variable {δ : Type} [Dialect δ] [Spelled δ] (d : δ)

/-- The first statement creates the table: its clauses stand behind its name, and the rest behind
these. -/
theorem front_createTable {table : Table} {statements : List String}
    (hok : Statement.createTable d table = .ok statements) :
    ∃ create rest, statements = create :: (if Dialect.declaresIndexInline d then []
        else table.plainIndexes.map (Statement.namedIndex d table.name)) ∧
      Token.front (Dialect.quoteMark d) .between create.toList =
        keywords ["CREATE", "TABLE"] ++ (tableNameTokens table.name ++
          inParentheses (listed (clauseTokens d table))) ++ rest := by
  obtain ⟨_, hcheck, hok⟩ := bind_eq_ok_iff.mp hok
  obtain ⟨columns, hcolumns, hok⟩ := bind_eq_ok_iff.mp hok
  obtain ⟨-, -, hindexes, -⟩ := Table.check_eq_ok_iff.mp hcheck
  have hhead := phrased_head d (fun index hi => (hindexes index hi).1) hcolumns
  have hparts : ["CREATE TABLE", Dialect.quoteTable d table.name,
      Text.parenthesized (Text.clauseList (columns ++ Statement.tableClauses d table))] ≠ [] :=
    List.cons_ne_nil _ _
  obtain ⟨rest, htext, hrest⟩ := exists_behind_phrase hparts (Dialect.tableSuffix d table.options)
  refine ⟨_, Token.front (Dialect.quoteMark d) .between rest, (Except.ok.inj hok).symm, ?_⟩
  rw [htext, hhead.written.front_eq (isMark d) hrest]

/-- The first statement creates the table, and its clauses can be read. -/
theorem readTable_createTable (h : CountsByWord d) {table : Table} {statements : List String}
    (hok : Statement.createTable d table = .ok statements) :
    ∃ create, statements = create :: (if Dialect.declaresIndexInline d then []
        else table.plainIndexes.map (Statement.namedIndex d table.name)) ∧
      readTable (Token.front (Dialect.quoteMark d) .between create.toList) =
        some (clauseReadings d table) := by
  obtain ⟨create, rest, hstatements, hfront⟩ := front_createTable d hok
  obtain ⟨_, hcheck, -⟩ := bind_eq_ok_iff.mp hok
  refine ⟨create, hstatements, ?_⟩
  rw [hfront]
  exact readTable_head table.name (forall₂_readsAs h hcheck) rest

end Spelled

open Statement (createTable)

theorem MySql.read_createTable (d : MySql) {table : Table} {statements : List String}
    (h : createTable d table = .ok statements) :
    statements.length = 1 ∧
      TableReading.read quoteMark statements = some ⟨clauseReadings d table, []⟩ := by
  obtain ⟨create, hstatements, hread⟩ := Spelled.readTable_createTable d (Or.inl rfl) h
  rw [hstatements]
  exact ⟨rfl, TableReading.read_cons hread rfl⟩

namespace Sqlite

/-- The columns of an index stand in the only parentheses of its statement. -/
theorem readIndex_indexTokens (table name : String) {index : Index}
    (hplain : index.unique = false) (hcolumns : index.columns ≠ []) :
    readIndex (indexTokens table name index) = some index.columns := by
  have hbefore : .sign '(' ∉
      besideTableTokens table name ++ [.word "ON", .name (Text.QualifiedName.table table)] := by
    unfold besideTableTokens
    cases Text.QualifiedName.schema? table <;> simp
  have htokens : indexTokens table name index = .word "CREATE" :: .word "INDEX" ::
      (besideTableTokens table name ++ [.word "ON", .name (Text.QualifiedName.table table)] ++
        .sign '(' :: (nameList index.columns ++ [.sign ')'])) := by
    simp [indexTokens, hplain, keywords, inParentheses]
  rw [htokens, readIndex, behindParenthesis_append hbefore]
  exact readNames_nameList hcolumns

theorem mapM_readIndex (e : Sqlite) (table : String) {indexes : List Index}
    (h : ∀ index ∈ indexes, index.unique = false ∧ index.columns ≠ []) :
    (indexes.map (Statement.namedIndex e table)).mapM
        (fun statement => (Token.read quoteMark statement).bind readIndex) =
      some (indexes.map (·.columns)) := by
  induction indexes with
  | nil => rfl
  | cons index indexes ih =>
    obtain ⟨hplain, hcolumns⟩ := h index (List.mem_cons_self ..)
    have hread : Token.read quoteMark (Statement.namedIndex e table index) =
        some (indexTokens table (index.nameFor table) index) :=
      (written_index e table (index.nameFor table) index).read_eq
    rw [List.map_cons, List.mapM_cons, hread, Option.bind_some,
      readIndex_indexTokens table _ hplain hcolumns,
      ih fun other hother => h other (List.mem_cons_of_mem _ hother)]
    rfl

theorem read_createTable (e : Sqlite) {table : Table} {statements : List String}
    (h : createTable e table = .ok statements) :
    TableReading.read quoteMark statements =
      some ⟨clauseReadings e table, (table.indexes.filter (!·.unique)).map (·.columns)⟩ := by
  obtain ⟨create, hstatements, hread⟩ := Spelled.readTable_createTable e (Or.inr rfl) h
  obtain ⟨_, hcheck, -⟩ := bind_eq_ok_iff.mp h
  obtain ⟨-, -, hindexes, -⟩ := Table.check_eq_ok_iff.mp hcheck
  have hplain : ∀ index ∈ table.plainIndexes, index.unique = false ∧ index.columns ≠ [] := by
    intro index hindex
    obtain ⟨hmem, hunique⟩ := List.mem_filter.mp hindex
    exact ⟨Bool.not_eq_true' _ |>.mp hunique, (hindexes index hmem).1⟩
  rw [hstatements]
  exact TableReading.read_cons hread (mapM_readIndex e table.name hplain)

end Sqlite

/-- A table whose columns all have different names is refused by both databases, for the same fault
in what was asked for, or by neither. If it is accepted, then the one statement of the one and the
statements of the other say the same, which is what the table asks for. -/
theorem same_table_described (d : MySql) (e : Sqlite) {table : Table}
    (hnames : (table.askedColumns.map (·.name)).Nodup) :
    (createTable d table).map (fun _ => ()) = (createTable e table).map (fun _ => ()) ∧
    (∀ f, createTable d table = .error f → f.kind = .argument) ∧
    ∀ statements statements', createTable d table = .ok statements →
      createTable e table = .ok statements' →
      ∃ r r', statements.length = 1 ∧ TableReading.read '\x60' statements = some r ∧
        TableReading.read '"' statements' = some r' ∧
        r.Describes table ∧ r'.Describes table ∧
        List.Forall₂ SameColumn r.columns r'.columns ∧ r.key = r'.key ∧ r.unique = r'.unique ∧
        r.indexClause = r'.created.flatten ∧ r.created = [] ∧ r'.indexClause = [] := by
  refine ⟨(map_createTable d table).trans (map_createTable e table).symm, ?_, ?_⟩
  · intro f hf
    have hcheck := map_createTable d table
    rw [hf] at hcheck
    exact kind_of_tableCheck_eq_error hcheck.symm
  · intro statements statements' hok hok'
    obtain ⟨hlength, hread⟩ := MySql.read_createTable d hok
    have hread' := Sqlite.read_createTable e hok'
    have hdescribes : (TableReading.mk (clauseReadings d table) []).Describes table :=
      describes_clauseReadings d hnames rfl
    have hdescribes' : (TableReading.mk (clauseReadings e table)
        ((table.indexes.filter (!·.unique)).map (·.columns))).Describes table :=
      describes_clauseReadings e hnames rfl
    have hindexes := hdescribes.indexes
    have hindexes' := hdescribes'.indexes
    rw [List.flatten_nil, List.append_nil] at hindexes
    rw [← List.flatMap_def, List.append_left_eq_self] at hindexes'
    exact ⟨_, _, hlength, hread, hread', hdescribes, hdescribes',
      hdescribes.forall₂_sameColumn hdescribes', hdescribes.key.trans hdescribes'.key.symm,
      hdescribes.unique.trans hdescribes'.unique.symm, hindexes.trans List.flatMap_def, rfl,
      hindexes'⟩

/-- A table with a counting column as its key, of which the name, the default of another column and
the engine have parentheses, commas and marks in them. -/
def oddTable : Table where
  name := "app.a`(b"
  columns :=
    [{ name := "no, (1)", type := .integer, limit := some 10, autoIncrement := true },
      { name := "x`\"y", type := .string, nullable := true, default? := some (.text "it's), (") }]
  indexes :=
    [{ columns := ["x`\"y", "no, (1)"] }, { columns := ["no, (1)"], unique := true },
      { columns := ["x`\"y"], name? := some "by (x" }]
  options :=
    { implicitId := false, primaryKey? := some (.single "no, (1)"), engine? := some "Aria' (" }

/-- What is said of the table in the statement for MySQL. -/
def MySql.oddReading : TableReading where
  clauses :=
    [.column
        { name := "no, (1)", type := "INT", limit? := some 10, nullable := false, isKey := false,
          counts := true, default? := none },
      .column
        { name := "x`\"y", type := "VARCHAR", limit? := some 255, nullable := true, isKey := false,
          counts := false, default? := some "it's), (" },
      .key ["no, (1)"], .index ["x`\"y", "no, (1)", "x`\"y"], .unique ["no, (1)"]]
  created := []

/-- What is said of it in the statements for SQLite. -/
def Sqlite.oddReading : TableReading where
  clauses :=
    [.column
        { name := "no, (1)", type := "INTEGER", limit? := some 10, nullable := false, isKey := true,
          counts := true, default? := none },
      .column
        { name := "x`\"y", type := "VARCHAR", limit? := some 255, nullable := true, isKey := false,
          counts := false, default? := some "it's), (" },
      .unique ["no, (1)"]]
  created := [["x`\"y", "no, (1)"], ["x`\"y"]]

theorem oddTable_described :
    (oddTable.askedColumns.map (·.name)).Nodup ∧
      (∃ statements statements', createTable ({} : MySql) oddTable = .ok statements ∧
        createTable ({} : Sqlite) oddTable = .ok statements' ∧
        TableReading.read '\x60' statements = some MySql.oddReading ∧
        TableReading.read '"' statements' = some Sqlite.oddReading ∧
        MySql.oddReading.Describes oddTable ∧ Sqlite.oddReading.Describes oddTable ∧
        List.Forall₂ SameColumn MySql.oddReading.columns Sqlite.oddReading.columns ∧
        MySql.oddReading.key = Sqlite.oddReading.key ∧
        MySql.oddReading.unique = Sqlite.oddReading.unique ∧
        MySql.oddReading.indexClause = Sqlite.oddReading.created.flatten) ∧
      ∃ f, createTable ({} : MySql) { oddTable with name := "" } = .error f ∧
        f.kind = .argument := by
  have hnames : (oddTable.askedColumns.map (·.name)).Nodup := by decide
  have hunnamed : (Table.askedColumns { oddTable with name := "" } |>.map (·.name)).Nodup := hnames
  have hrefused := (same_table_described ({} : MySql) ({} : Sqlite) hunnamed).2.1
  have hok : createTable ({} : MySql) oddTable = .ok _ := rfl
  have hok' : createTable ({} : Sqlite) oddTable = .ok _ := rfl
  obtain ⟨r, r', -, hread, hread', hdescribes, hdescribes', hcolumns, hkey, hunique, hindexes, -⟩ :=
    (same_table_described ({} : MySql) ({} : Sqlite) hnames).2.2 _ _ hok hok'
  -- Reading a length does not evaluate, and so the readings come from what is known of all tables.
  have hclauses := hread.symm.trans (MySql.read_createTable {} hok).2
  have hclauses' := hread'.symm.trans (Sqlite.read_createTable {} hok')
  obtain rfl : r = MySql.oddReading := (Option.some.inj hclauses).trans (by decide +kernel)
  obtain rfl : r' = Sqlite.oddReading := (Option.some.inj hclauses').trans (by decide +kernel)
  exact ⟨hnames, ⟨_, _, hok, hok', hread, hread', hdescribes, hdescribes', hcolumns, hkey, hunique,
    hindexes⟩, _, rfl, hrefused _ rfl⟩

end SchemaChange
