import SchemaChange.Proofs.TableReader
import SchemaChange.Proofs.Wording

/-!
Columns that count, in SQLite. The database takes the word that lets a column count only right
behind the words that declare the column as the key, and whether the two stand together is decided
in two places: the word is written for every column that was asked to count, and the key is declared
with a column only when the table names this one column, and not a list, as its key. Statements are
looked at token by token; what is neither of these words cuts them into parts that can be looked at
alone.
-/
namespace SchemaChange

/-- Wherever the word for a column that counts stands, a key has been declared right before it. -/
def CountsBehindKey (tokens : List Token) : Prop :=
  ∀ before after, tokens = before ++ .word "AUTOINCREMENT" :: after →
    keywords ["PRIMARY", "KEY"] <:+ before

namespace CountsBehindKey

theorem of_not_mem {tokens : List Token} (h : .word "AUTOINCREMENT" ∉ tokens) :
    CountsBehindKey tokens := by
  rintro before after rfl
  exact absurd (List.mem_append_right before (List.mem_cons_self ..)) h

/-- Any other token parts what stands before it from what stands behind it. -/
theorem append_cons_iff {t : Token} (ht : t ∉ keywords ["PRIMARY", "KEY", "AUTOINCREMENT"])
    {front back : List Token} :
    CountsBehindKey (front ++ t :: back) ↔ CountsBehindKey front ∧ CountsBehindKey back := by
  have hcounter : t ≠ .word "AUTOINCREMENT" := fun heq => ht (by rw [heq]; decide)
  have hkey : t ∉ keywords ["PRIMARY", "KEY"] :=
    fun hmem => ht (List.mem_append_left (keywords ["AUTOINCREMENT"]) hmem)
  constructor
  · intro h
    constructor
    · rintro before after rfl
      exact h before (after ++ t :: back) (by simp)
    · rintro before after rfl
      have hwords := h (front ++ t :: before) after (by simp)
      rcases List.suffix_or_suffix_of_suffix hwords (List.suffix_append front _) with hin | hin
      · rcases List.suffix_cons_iff.mp hin with heq | hin
        · exact absurd (heq ▸ List.mem_cons_self ..) hkey
        · exact hin
      · exact absurd (hin.subset (List.mem_cons_self ..)) hkey
  · rintro ⟨hfront, hback⟩ before after heq
    rcases List.append_eq_append_iff.mp heq with ⟨between, rfl, hlater⟩ | ⟨between, rfl, hlater⟩
    · cases between with
      | nil => exact absurd (List.cons.inj hlater).1 hcounter
      | cons first between =>
        obtain ⟨rfl, hbetween⟩ := List.cons.inj hlater
        have hwords := hback between after hbetween
        exact hwords.trans ((List.suffix_cons t between).trans (List.suffix_append front _))
    · cases between with
      | nil => exact absurd (List.cons.inj hlater).1.symm hcounter
      | cons first between =>
        obtain ⟨rfl, -⟩ := List.cons.inj hlater
        exact hfront before between rfl

theorem listed_iff {tss : List (List Token)} :
    CountsBehindKey (listed tss) ↔ ∀ tokens ∈ tss, CountsBehindKey tokens := by
  have hcomma : Token.sign ',' ∉ keywords ["PRIMARY", "KEY", "AUTOINCREMENT"] := by decide
  have hnil : CountsBehindKey [] := of_not_mem List.not_mem_nil
  induction tss with
  | nil => simpa [listed] using hnil
  | cons tokens tss ih =>
    cases tss with
    | nil => simp [listed]
    | cons other tss =>
      have hcons : listed (tokens :: other :: tss) =
          tokens ++ .sign ',' :: listed (other :: tss) := by
        simp [listed]
      rw [hcons, append_cons_iff hcomma, List.forall_mem_cons]
      exact and_congr_right fun _ => ih

theorem key : CountsBehindKey (keywords ["PRIMARY", "KEY", "AUTOINCREMENT"]) := by
  intro before after heq
  match before with
  | [] => simp [keywords] at heq
  | [_] => simp [keywords] at heq
  | [first, second] =>
    obtain ⟨rfl, rfl, -⟩ := by simpa [keywords] using heq
    exact List.suffix_refl _
  | _ :: _ :: _ :: _ => simp [keywords] at heq

end CountsBehindKey

/-- The names between dots or commas are no words. -/
theorem not_mem_names (word : String) (c : Char) (names : List String) :
    .word word ∉ [.sign c].intercalate (names.map fun name => [Token.name name]) := by
  intro h
  rcases mem_names h with h | ⟨name, -, h⟩
  · cases h
  · cases h

theorem countsBehindKey_names (texts : List String) (h : "AUTOINCREMENT" ∉ texts)
    (names : List String) : CountsBehindKey (keywords texts ++ inParentheses (nameList names)) := by
  have hnames := not_mem_names "AUTOINCREMENT" ',' names
  refine .of_not_mem ?_
  simpa [keywords, inParentheses, nameList, listed, h] using hnames

/-- The words that let a column count stand last in its definition, but for the default. -/
theorem countsBehindKey_attributes (isKey counts : Bool) (default? : Option DefaultValue) :
    CountsBehindKey (keywords (if isKey then ["PRIMARY", "KEY"] else []) ++
        (keywords (if counts then ["AUTOINCREMENT"] else []) ++
          match default? with
          | some default => [.word "DEFAULT", .literal default.literalText]
          | none => [])) ↔
      (counts = true → isKey = true) := by
  have hdefault : ∀ front, CountsBehindKey (front ++
      match default? with
      | some default => [Token.word "DEFAULT", .literal default.literalText]
      | none => []) ↔ CountsBehindKey front := by
    intro front
    cases default? with
    | none => rw [List.append_nil]
    | some default =>
      have hliteral : CountsBehindKey [.literal default.literalText] := .of_not_mem (by simp)
      rw [CountsBehindKey.append_cons_iff (by decide)]
      exact ⟨And.left, fun h => ⟨h, hliteral⟩⟩
  rw [← List.append_assoc, hdefault]
  cases counts with
  | false =>
    have hnone : CountsBehindKey (keywords (if isKey then ["PRIMARY", "KEY"] else []) ++ []) :=
      .of_not_mem (by cases isKey <;> decide)
    exact ⟨fun _ => nofun, fun _ => hnone⟩
  | true =>
    cases isKey with
    | true => exact ⟨fun _ _ => rfl, fun _ => .key⟩
    | false =>
      refine ⟨fun h => ?_, fun h => nomatch h rfl⟩
      exact absurd (h [] [] rfl) (by decide)

namespace Sqlite

theorem not_mem_typeTokens (e : Sqlite) (column : Column) :
    .word "AUTOINCREMENT" ∉ typeTokens e column := by
  have hname : (Spelled.capitalType e column.type).name ≠ "AUTOINCREMENT" := by
    change (capitalType column.type).name ≠ _
    cases column.type <;> decide
  have hnumber : ∀ limit : Nat, toString limit ≠ "AUTOINCREMENT" := by
    intro limit heq
    rw [Nat.toString_eq_ofList_toDigits] at heq
    have hletter : 'A' ∈ Nat.toDigits 10 limit := by
      rw [← String.toList_ofList (l := Nat.toDigits 10 limit), heq]
      decide
    exact absurd (Nat.isDigit_of_mem_toDigits (by decide) (by decide) hletter) (by decide)
  unfold typeTokens
  dsimp only
  cases column.limit.or _ with
  | none => simpa using hname.symm
  | some limit => simpa [inParentheses] using ⟨hname.symm, (hnumber limit).symm⟩

theorem countsBehindKey_columnTokens (e : Sqlite) (column : Column) (isKey : Bool) :
    CountsBehindKey (columnTokens e column isKey) ↔
      (column.autoIncrement = true → isKey = true) := by
  let front := .name column.name :: typeTokens e column ++
    keywords (if column.nullable then [] else ["NOT"])
  have hfront : CountsBehindKey front := by
    refine .of_not_mem fun h => ?_
    rcases List.mem_append.mp h with h | h
    · rcases List.mem_cons.mp h with h | h
      · cases h
      · exact not_mem_typeTokens e column h
    · cases hnull : column.nullable <;> simp [hnull, keywords] at h
  have hnull : keywords (if column.nullable then ["NULL"] else ["NOT", "NULL"]) =
      keywords (if column.nullable then [] else ["NOT"]) ++ [.word "NULL"] := by
    cases column.nullable <;> rfl
  have hparts : columnTokens e column isKey = front ++ .word "NULL" ::
      (keywords (if isKey then ["PRIMARY", "KEY"] else []) ++
        (keywords (if column.autoIncrement then ["AUTOINCREMENT"] else []) ++
          match column.default? with
          | some default => [.word "DEFAULT", .literal default.literalText]
          | none => [])) := by
    unfold columnTokens
    rw [hnull]
    simp only [front, List.append_assoc, List.cons_append, List.nil_append]
    rfl
  rw [hparts, CountsBehindKey.append_cons_iff (by decide), countsBehindKey_attributes]
  exact ⟨And.right, fun h => ⟨hfront, h⟩⟩

variable (e : Sqlite) (table : Table)

/-- The columns alone decide, since no other clause says that something counts. -/
theorem forall_clauseTokens_iff :
    (∀ tokens ∈ clauseTokens e table, CountsBehindKey tokens) ↔
      ∀ column ∈ table.askedColumns, column.autoIncrement = true →
        table.askedKey? = some (.single column.name) := by
  have hclause : ∀ names, CountsBehindKey (keyClauseTokens names) :=
    countsBehindKey_names ["PRIMARY", "KEY"] (by decide)
  have hkey : ∀ tokens ∈ keyTokens e table, CountsBehindKey tokens := by
    intro tokens htokens
    unfold keyTokens at htokens
    split at htokens
    · obtain ⟨-, hmem⟩ := (List.mem_ite_nil_left ..).mp htokens
      exact List.mem_singleton.mp hmem ▸ hclause _
    · exact List.mem_singleton.mp htokens ▸ hclause _
    · cases htokens
  have hunique : ∀ tokens ∈ indexClauseTokens "UNIQUE" (table.indexes.filter (·.unique)),
      CountsBehindKey tokens := by
    intro tokens htokens
    obtain ⟨-, hmem⟩ := (List.mem_ite_nil_left ..).mp htokens
    rw [List.mem_singleton.mp hmem]
    exact countsBehindKey_names ["UNIQUE"] (by decide) _
  have hplain : (if Dialect.declaresIndexInline e then
      indexClauseTokens "INDEX" (table.indexes.filter (!·.unique)) else []) = [] := rfl
  rw [clauseTokens, hplain, List.append_nil, List.forall_mem_append, List.forall_mem_append,
    List.forall_mem_map]
  constructor
  · rintro ⟨⟨hcolumns, -⟩, -⟩ column hcolumn hcounts
    have hinline := (countsBehindKey_columnTokens e column _).mp (hcolumns column hcolumn) hcounts
    exact (of_decide_eq_true hinline).2.1
  · intro h
    refine ⟨⟨fun column hcolumn => ?_, hkey⟩, hunique⟩
    rw [countsBehindKey_columnTokens]
    intro hcounts
    exact decide_eq_true ⟨rfl, h column hcolumn hcounts, column, hcolumn, rfl, hcounts⟩

theorem countsBehindKey_tableTokens_iff :
    CountsBehindKey (tableTokens e table) ↔
      ∀ column ∈ table.askedColumns, column.autoIncrement = true →
        table.askedKey? = some (.single column.name) := by
  have hfront : CountsBehindKey (keywords ["CREATE", "TABLE"] ++ tableNameTokens table.name) := by
    have hname := not_mem_names "AUTOINCREMENT" '.' (Text.QualifiedName.components table.name)
    refine .of_not_mem ?_
    simpa [keywords, tableNameTokens] using hname
  have hend : CountsBehindKey [.sign ';'] := .of_not_mem (by decide)
  have hparts : tableTokens e table = keywords ["CREATE", "TABLE"] ++ tableNameTokens table.name ++
      .sign '(' :: (listed (clauseTokens e table) ++ .sign ')' :: [.sign ';']) := by
    have hsuffix : Spelled.suffixTokens e table.options = [] := rfl
    simp [tableTokens, inParentheses, hsuffix]
  rw [hparts, CountsBehindKey.append_cons_iff (by decide),
    CountsBehindKey.append_cons_iff (by decide), CountsBehindKey.listed_iff,
    forall_clauseTokens_iff]
  exact ⟨fun h => h.2.1, fun h => ⟨hfront, h, hend⟩⟩

theorem countsBehindKey_indexTokens (name : String) (index : Index) :
    CountsBehindKey (indexTokens table.name name index) := by
  have hcolumns := not_mem_names "AUTOINCREMENT" ',' index.columns
  have hname : .word "AUTOINCREMENT" ∉ besideTableTokens table.name name := by
    unfold besideTableTokens
    cases Text.QualifiedName.schema? table.name <;> simp
  have hwords : .word "AUTOINCREMENT" ∉
      keywords (if index.unique then ["UNIQUE", "INDEX"] else ["INDEX"]) := by
    cases index.unique <;> decide
  refine .of_not_mem ?_
  simpa [indexTokens, inParentheses, nameList, listed, hname, hwords] using hcolumns

/-- Only the first statement defines columns. -/
theorem forall_statementTokens_iff :
    (∀ tokens ∈ statementTokens e table, CountsBehindKey tokens) ↔
      ∀ column ∈ table.askedColumns, column.autoIncrement = true →
        table.askedKey? = some (.single column.name) := by
  have hindexes : ∀ tokens ∈ (table.indexes.filter (!·.unique)).map fun index =>
      indexTokens table.name (index.statedName table.name) index, CountsBehindKey tokens := by
    rw [List.forall_mem_map]
    exact fun index _ => countsBehindKey_indexTokens table _ index
  have hstatements : statementTokens e table = tableTokens e table ::
      (table.indexes.filter (!·.unique)).map fun index =>
        indexTokens table.name (index.statedName table.name) index := rfl
  rw [hstatements, List.forall_mem_cons, countsBehindKey_tableTokens_iff]
  exact ⟨And.left, fun h => ⟨h, hindexes⟩⟩

theorem countsBehindKey_newColumnTokens_iff (name : String) (column : Column) :
    CountsBehindKey (newColumnTokens e name column) ↔ column.autoIncrement = false := by
  have hfront : CountsBehindKey (keywords ["ALTER", "TABLE"] ++ tableNameTokens name ++
      keywords ["ADD"]) := by
    have hname := not_mem_names "AUTOINCREMENT" '.' (Text.QualifiedName.components name)
    refine .of_not_mem ?_
    simpa [keywords, tableNameTokens] using hname
  have hparts : newColumnTokens e name column =
      keywords ["ALTER", "TABLE"] ++ tableNameTokens name ++ keywords ["ADD"] ++
        .word "COLUMN" :: columnTokens e column false := by
    simp [newColumnTokens, keywords]
  rw [hparts, CountsBehindKey.append_cons_iff (by decide), countsBehindKey_columnTokens,
    ← Bool.not_eq_true]
  constructor
  · rintro ⟨-, hkey⟩ hcounts
    cases hkey hcounts
  · exact fun h => ⟨hfront, fun hcounts => absurd hcounts h⟩

end Sqlite

/-- SQLite can read the statement, and a column counts in it only behind the words for its key. -/
def StatesCountersAsKeys (statement : String) : Prop :=
  ∃ tokens, Token.read Sqlite.quoteMark statement = some tokens ∧ CountsBehindKey tokens

/-- When SQLite creates a table, each column that counts is declared as the key right before
exactly when each of them is the one column that the table names as its key, and not in a list. A
column that is added later must not count. -/
theorem counters_stated_as_keys_iff (e : Sqlite) :
    (∀ (table : Table) (statements : List String),
      Statement.createTable e table = .ok statements →
      ((∀ statement ∈ statements, StatesCountersAsKeys statement) ↔
        ∀ column ∈ table.allColumns, column.autoIncrement = true →
          table.key? = some (.single column.name))) ∧
    ∀ (table : String) (column : Column) (statement : String),
      Statement.addColumn e table column = .ok statement →
      (StatesCountersAsKeys statement ↔ column.autoIncrement = false) := by
  constructor
  · intro table statements h
    have hread : statements.map (Token.read Sqlite.quoteMark) =
        (statementTokens e table).map some := Spelled.map_read_createTable e trivial h
    have hall : (∀ statement ∈ statements, StatesCountersAsKeys statement) ↔
        ∀ read ∈ statements.map (Token.read Sqlite.quoteMark),
          ∃ tokens, read = some tokens ∧ CountsBehindKey tokens := by
      rw [List.forall_mem_map]
      rfl
    rw [hall, hread, List.forall_mem_map, Table.allColumns_eq, Table.key?_eq,
      ← Sqlite.forall_statementTokens_iff e table]
    simp
  · intro table column statement h
    obtain ⟨-, htokens⟩ := read_of_newColumnReading ((Sqlite.wording e).addColumn table column) h
    rw [StatesCountersAsKeys, htokens, ← Sqlite.countsBehindKey_newColumnTokens_iff e table]
    simp

theorem not_statesCountersAsKeys {statement : String} (before after : List Token)
    (hread : Token.read Sqlite.quoteMark statement =
      some (before ++ .word "AUTOINCREMENT" :: after))
    (hkey : ¬ keywords ["PRIMARY", "KEY"] <:+ before) : ¬ StatesCountersAsKeys statement := by
  rintro ⟨tokens, htokens, h⟩
  have heq : tokens = before ++ .word "AUTOINCREMENT" :: after :=
    Option.some.inj (htokens.symm.trans hread)
  exact hkey (h before after heq)

def numberColumn : Column := { name := "n", type := .integer, autoIncrement := true }

/-- A table of numbers that count, with this key. -/
def drawnTable (key? : Option PrimaryKey) : Table where
  name := "draws"
  columns := [numberColumn]
  options := { implicitId := false, primaryKey? := key? }

theorem drawn_number_counts_as_key :
    (∃ statements, Statement.createTable ({} : Sqlite) (drawnTable (some (.single "n"))) =
        .ok statements ∧ ∀ statement ∈ statements, StatesCountersAsKeys statement) ∧
      ∃ statement, Statement.addColumn ({} : Sqlite) "draws"
          { numberColumn with autoIncrement := false } = .ok statement ∧
        StatesCountersAsKeys statement := by
  obtain ⟨hcreate, hadd⟩ := counters_stated_as_keys_iff {}
  have hkey : ∀ column ∈ (drawnTable (some (.single "n"))).allColumns,
      column.autoIncrement = true →
        (drawnTable (some (.single "n"))).key? = some (.single column.name) := by decide
  have hcolumn := hadd "draws" { numberColumn with autoIncrement := false } _ rfl
  exact ⟨⟨_, rfl, (hcreate _ _ rfl).mpr hkey⟩, _, rfl, hcolumn.mpr rfl⟩

/-- The key of the table is its one column that counts, but given as a list. A column that counts
beside the key and one that is added later have no key to stand behind either. -/
theorem drawn_number_counts_bare :
    (∃ statement, Statement.createTable ({} : Sqlite) (drawnTable (some (.composite ["n"]))) =
        .ok [statement] ∧
      statement = "CREATE TABLE \"draws\" (\"n\" INTEGER NOT NULL AUTOINCREMENT, " ++
        "PRIMARY KEY (\"n\"));" ∧ ¬ StatesCountersAsKeys statement) ∧
    (∃ statement, Statement.createTable ({} : Sqlite) (drawnTable none) = .ok [statement] ∧
      statement = "CREATE TABLE \"draws\" (\"n\" INTEGER NOT NULL AUTOINCREMENT);" ∧
      ¬ StatesCountersAsKeys statement) ∧
    ∃ statement, Statement.addColumn ({} : Sqlite) "draws" numberColumn = .ok statement ∧
      statement = "ALTER TABLE \"draws\" ADD COLUMN \"n\" INTEGER NOT NULL AUTOINCREMENT" ∧
      ¬ StatesCountersAsKeys statement := by
  let created : List Token := [.word "CREATE", .word "TABLE", .name "draws", .sign '(', .name "n",
    .word "INTEGER", .word "NOT", .word "NULL"]
  let added : List Token := [.word "ALTER", .word "TABLE", .name "draws", .word "ADD",
    .word "COLUMN", .name "n", .word "INTEGER", .word "NOT", .word "NULL"]
  refine ⟨⟨_, rfl, ?_, ?_⟩, ⟨_, rfl, ?_, ?_⟩, ⟨_, rfl, ?_, ?_⟩⟩
  · decide +kernel
  · exact not_statesCountersAsKeys created [.sign ',', .word "PRIMARY", .word "KEY", .sign '(',
      .name "n", .sign ')', .sign ')', .sign ';'] (by decide +kernel) (by decide)
  · decide +kernel
  · exact not_statesCountersAsKeys created [.sign ')', .sign ';'] (by decide +kernel) (by decide)
  · decide +kernel
  · exact not_statesCountersAsKeys added [] (by decide +kernel) (by decide)

end SchemaChange
