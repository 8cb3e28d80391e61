import SchemaChange.Proofs.SameTable

/-!
The implicit column of a table. It stands in front of the columns that were asked for and is the
key, whatever key was asked for. Nothing keeps a table from asking for a column of the same name
beside it: then both columns are defined. SQLite moreover finds the column to declare as the key by
its name, and so it declares a key with each of them, while MySQL has one clause for the key.
-/
namespace SchemaChange

open Statement (createTable)

/-- The keys that the clause declares, each with its columns. -/
def TableClause.keys : TableClause → List (List String)
  | .column definition => if definition.isKey then [[definition.name]] else []
  | .key names => [names]
  | _ => []

namespace TableReading

/-- The keys that are declared, with a column or in a clause. -/
def keys (r : TableReading) : List (List String) := r.clauses.flatMap TableClause.keys

/-- How many columns are defined with the name of the implicit one. -/
def idCount (r : TableReading) : Nat := (r.columns.map (·.name)).count "id"

/-- The implicit column is defined once, and one key is declared, which is this column alone. -/
structure HasSoleId (r : TableReading) : Prop where
  idCount : r.idCount = 1
  keys : r.keys = [["id"]]

end TableReading

/-- How many columns the table itself asks for by the name of the implicit one. -/
def Table.ownIdCount (table : Table) : Nat := (table.columns.map (·.name)).count "id"

theorem Table.ownIdCount_eq_zero_iff {table : Table} :
    table.ownIdCount = 0 ↔ ∀ column ∈ table.columns, column.name ≠ "id" := by
  rw [ownIdCount, List.count_eq_zero, List.mem_map]
  constructor
  · exact fun h column hcolumn heq => h ⟨column, hcolumn, heq⟩
  · rintro h ⟨column, hcolumn, heq⟩
    exact h column hcolumn heq

/-- One key for each occurrence of a name. -/
theorem flatMap_ite_eq_replicate (names : List String) (name : String) :
    (names.flatMap fun n => if n = name then [[n]] else []) =
      List.replicate (names.count name) [name] := by
  induction names with
  | nil => rfl
  | cons first names ih =>
    rw [List.flatMap_cons, ih]
    by_cases heq : first = name
    · rw [if_pos heq, heq, List.count_cons_self, List.replicate_succ, List.singleton_append]
    · rw [if_neg heq, List.count_cons_of_ne heq, List.nil_append]

section

variable {δ : Type} [Dialect δ] (d : δ) {table : Table}
  (himplicit : table.options.implicitId = true)
include himplicit

theorem count_askedColumns :
    (table.askedColumns.map (·.name)).count "id" = table.ownIdCount + 1 := by
  rw [Table.askedColumns, if_pos himplicit, List.map_cons]
  exact List.count_cons_self

/-- The implicit column counts, so that its name is the one that can be declared as the key. -/
theorem isInlineKey_iff (name : String) :
    IsInlineKey d table name ↔ Dialect.declaresKeyInline d = true ∧ name = "id" := by
  have hkey : table.askedKey? = some (.single "id") := if_pos himplicit
  obtain ⟨column, hcolumn, hname, hcounts⟩ :
      ∃ column ∈ table.askedColumns, column.name = "id" ∧ column.autoIncrement = true := by
    rw [Table.askedColumns, if_pos himplicit]
    exact ⟨_, List.mem_cons_self .., rfl, rfl⟩
  constructor
  · rintro ⟨hinline, hsingle, -⟩
    cases hkey.symm.trans hsingle
    exact ⟨hinline, rfl⟩
  · rintro ⟨hinline, rfl⟩
    exact ⟨hinline, hkey, column, hcolumn, hname, hcounts⟩

variable [Spelled δ]

theorem count_clauseReadings :
    (((clauseReadings d table).flatMap TableClause.columns).map (·.name)).count "id" =
      table.ownIdCount + 1 := by
  rw [columns_clauseReadings, List.map_map, ← count_askedColumns himplicit]
  rfl

theorem flatMap_keys_askedColumns :
    (table.askedColumns.flatMap fun column =>
        TableClause.keys (.column (columnReading d column (IsInlineKey d table column.name)))) =
      if Dialect.declaresKeyInline d then List.replicate (table.ownIdCount + 1) ["id"] else [] := by
  have hnames : (table.askedColumns.flatMap fun column =>
      TableClause.keys (.column (columnReading d column (IsInlineKey d table column.name)))) =
      (table.askedColumns.map (·.name)).flatMap fun name =>
        if Dialect.declaresKeyInline d = true ∧ name = "id" then [[name]] else [] := by
    simp [List.flatMap_map, TableClause.keys, columnReading, isInlineKey_iff d himplicit]
  rw [hnames]
  cases Dialect.declaresKeyInline d with
  | true =>
    simp only [true_and, if_true]
    rw [flatMap_ite_eq_replicate, count_askedColumns himplicit]
  | false => simp

/-- The key is declared with every column of its name, or else in one clause. -/
theorem keys_clauseReadings :
    (clauseReadings d table).flatMap TableClause.keys =
      if Dialect.declaresKeyInline d then List.replicate (table.ownIdCount + 1) ["id"]
      else [["id"]] := by
  have hkey : table.askedKey? = some (.single "id") := if_pos himplicit
  have hclause : (keyReadings d table).flatMap TableClause.keys =
      if Dialect.declaresKeyInline d then [] else [["id"]] := by
    unfold keyReadings
    rw [hkey]
    dsimp only
    have hinline : IsInlineKey d table "id" ↔ Dialect.declaresKeyInline d = true := by
      simp [isInlineKey_iff d himplicit]
    simp only [hinline]
    cases Dialect.declaresKeyInline d with
    | true => rfl
    | false => rfl
  rw [flatMap_clauseReadings, flatMap_indexReadings_eq_nil fun _ => rfl,
    flatMap_indexReadings_eq_nil fun _ => rfl, ite_self, List.append_nil, List.append_nil,
    flatMap_keys_askedColumns d himplicit, hclause]
  cases Dialect.declaresKeyInline d with
  | true => exact List.append_nil _
  | false => rfl

end

theorem TableReading.hasSoleId_iff {r : TableReading} {table : Table}
    (hcount : r.idCount = table.ownIdCount + 1)
    (hkeys : table.ownIdCount = 0 → r.keys = [["id"]]) :
    r.HasSoleId ↔ ∀ column ∈ table.columns, column.name ≠ "id" := by
  rw [← Table.ownIdCount_eq_zero_iff]
  constructor
  · intro h
    have honce := h.idCount
    omega
  · intro h
    exact ⟨by rw [hcount, h], hkeys h⟩

/-- With an implicit column, both databases are told of one column of its name for it and one for
each column that the table itself calls so. MySQL is told of one key, which is this name alone, and
SQLite of one for each of the columns. So the implicit column and its key are sole exactly when the
table asks for no column of the name. -/
theorem implicit_id_sole_iff (d : MySql) (e : Sqlite) {table : Table}
    (himplicit : table.options.implicitId = true) :
    (∀ statements, createTable d table = .ok statements →
      ∃ r, TableReading.read MySql.quoteMark statements = some r ∧
        r.idCount = table.ownIdCount + 1 ∧ r.keys = [["id"]] ∧
        (r.HasSoleId ↔ ∀ column ∈ table.columns, column.name ≠ "id")) ∧
    ∀ statements, createTable e table = .ok statements →
      ∃ r, TableReading.read Sqlite.quoteMark statements = some r ∧
        r.idCount = table.ownIdCount + 1 ∧
        r.keys = List.replicate (table.ownIdCount + 1) ["id"] ∧
        (r.HasSoleId ↔ ∀ column ∈ table.columns, column.name ≠ "id") := by
  constructor
  · intro statements h
    have hcount := count_clauseReadings d himplicit
    have hkeys := keys_clauseReadings d himplicit
    exact ⟨_, (MySql.read_createTable d h).2, hcount, hkeys,
      TableReading.hasSoleId_iff hcount fun _ => hkeys⟩
  · intro statements h
    have hcount := count_clauseReadings e himplicit
    have hkeys := keys_clauseReadings e himplicit
    refine ⟨_, Sqlite.read_createTable e h, hcount, hkeys,
      TableReading.hasSoleId_iff hcount fun hnone => ?_⟩
    rw [hnone] at hkeys
    exact hkeys

/-- A table with an implicit column beside one of this name. -/
def namedTable (name : String) : Table where
  name := "t"
  columns := [{ name, type := .string }]

theorem coded_table_has_sole_id :
    (namedTable "code").options.implicitId = true ∧
    (∃ statements r, createTable ({} : MySql) (namedTable "code") = .ok statements ∧
      TableReading.read MySql.quoteMark statements = some r ∧ r.HasSoleId) ∧
    ∃ statements r, createTable ({} : Sqlite) (namedTable "code") = .ok statements ∧
      TableReading.read Sqlite.quoteMark statements = some r ∧ r.HasSoleId := by
  have himplicit : (namedTable "code").options.implicitId = true := rfl
  have hnames : ∀ column ∈ (namedTable "code").columns, column.name ≠ "id" := by decide
  obtain ⟨hmySql, hsqlite⟩ := implicit_id_sole_iff {} {} himplicit
  obtain ⟨r, hread, -, -, hiff⟩ := hmySql _ rfl
  obtain ⟨r', hread', -, -, hiff'⟩ := hsqlite _ rfl
  exact ⟨himplicit, ⟨_, r, rfl, hread, hiff.mpr hnames⟩, _, r', rfl, hread', hiff'.mpr hnames⟩

/-- A column that is called as the implicit one is defined beside it, and SQLite is told twice that
it is the key. -/
theorem second_id_defined :
    (∃ statements r, createTable ({} : MySql) (namedTable "id") = .ok statements ∧
      statements = ["CREATE TABLE `t` (`id` INT(11) NOT NULL AUTO_INCREMENT, " ++
        "`id` VARCHAR(255) NOT NULL, PRIMARY KEY (`id`)) ENGINE = InnoDB;"] ∧
      TableReading.read MySql.quoteMark statements = some r ∧ r.idCount = 2 ∧
      ¬ r.HasSoleId) ∧
    ∃ statements r, createTable ({} : Sqlite) (namedTable "id") = .ok statements ∧
      statements = ["CREATE TABLE \"t\" (\"id\" INTEGER NOT NULL PRIMARY KEY AUTOINCREMENT, " ++
        "\"id\" VARCHAR(255) NOT NULL PRIMARY KEY);"] ∧
      TableReading.read Sqlite.quoteMark statements = some r ∧ r.idCount = 2 ∧
      r.keys = [["id"], ["id"]] ∧ ¬ r.HasSoleId := by
  have hcreate : createTable ({} : MySql) (namedTable "id") = .ok _ := rfl
  have hcreate' : createTable ({} : Sqlite) (namedTable "id") = .ok _ := rfl
  have hread := (MySql.read_createTable {} hcreate).2
  have hread' := Sqlite.read_createTable {} hcreate'
  refine ⟨⟨_, _, hcreate, ?_, hread, rfl, ?_⟩, ⟨_, _, hcreate', ?_, hread', rfl, rfl, ?_⟩⟩
  · decide +kernel
  · exact fun h => nomatch h.idCount
  · decide +kernel
  · exact fun h => nomatch h.idCount

end SchemaChange
