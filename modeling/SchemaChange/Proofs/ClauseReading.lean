import SchemaChange.Proofs.TableReader
import SchemaChange.Proofs.TableText

/-!
The reader of tables on the clauses that are written for a table. Each clause has its parentheses
closed, so that it is told apart from its neighbours, and each is read as what it was written for:
a column as its definition, the others as the columns they list.
-/
namespace SchemaChange

theorem readAttributes_null (c : ColumnReading) (nullable : Bool) (rest : List Token) :
    readAttributes c (keywords (if nullable then ["NULL"] else ["NOT", "NULL"]) ++ rest) =
      readAttributes { c with nullable } rest := by
  cases nullable with
  | true => rfl
  | false => rfl

theorem readAttributes_key (c : ColumnReading) (isKey : Bool) (rest : List Token) :
    readAttributes c (keywords (if isKey then ["PRIMARY", "KEY"] else []) ++ rest) =
      readAttributes { c with isKey := isKey || c.isKey } rest := by
  cases isKey with
  | true => rfl
  | false => rfl

theorem readAttributes_default (c : ColumnReading) (default? : Option DefaultValue) :
    readAttributes c
      (match default? with
        | some default => [.word "DEFAULT", .literal default.literalText]
        | none => []) =
      some { c with default? := (default?.map DefaultValue.literalText).or c.default? } := by
  cases default? with
  | some default => rfl
  | none => rfl

section

variable {δ : Type} [Dialect δ] (d : δ)

/-- The dialect has one of the two words for columns that count. -/
def CountsByWord : Prop :=
  Dialect.autoIncrementKeyword d = "AUTO_INCREMENT" ∨
    Dialect.autoIncrementKeyword d = "AUTOINCREMENT"

variable {d} in
theorem CountsByWord.readAttributes_counts (h : CountsByWord d) (c : ColumnReading) (counts : Bool)
    (rest : List Token) :
    readAttributes c (keywords (if counts then [Dialect.autoIncrementKeyword d] else []) ++ rest) =
      readAttributes { c with counts := counts || c.counts } rest := by
  cases counts with
  | true => rcases h with h | h <;> rw [h] <;> rfl
  | false => rfl

end

/-- A type without a length is not followed by a parenthesis. -/
theorem readLimit_none {rest : List Token} (h : rest.head? ≠ some (.sign '(')) :
    readLimit rest = some (none, rest) := by
  unfold readLimit
  split
  · exact absurd rfl h
  · rfl

section

variable {δ : Type} [Dialect δ] [Spelled δ] (d : δ)

/-- What is read in the definition of a column. -/
def columnReading (column : Column) (isKey : Bool) : ColumnReading where
  name := column.name
  type := (Spelled.capitalType d column.type).name
  limit? := column.limit.or (Spelled.capitalType d column.type).limit
  nullable := column.nullable
  isKey := isKey
  counts := column.autoIncrement
  default? := column.default?.map DefaultValue.literalText

theorem readColumn_typeTokens (name : String) (column : Column) {rest : List Token}
    (h : rest.head? ≠ some (.sign '(')) :
    readColumn (.name name :: (typeTokens d column ++ rest)) =
      readAttributes
        { name
          type := (Spelled.capitalType d column.type).name
          limit? := column.limit.or (Spelled.capitalType d column.type).limit } rest := by
  unfold typeTokens
  dsimp only
  cases column.limit.or (Spelled.capitalType d column.type).limit with
  | none =>
    rw [List.singleton_append, readColumn, readLimit_none h]
    rfl
  | some limit =>
    have hnumber : (toString limit).toNat? = some limit := Nat.toNat?_repr limit
    have hlimit : readLimit (inParentheses [.word (toString limit)] ++ rest) =
        (toString limit).toNat?.map fun n => (some n, rest) := rfl
    rw [List.cons_append, readColumn, hlimit, hnumber]
    rfl

variable {d} in
theorem read_columnTokens (h : CountsByWord d) (column : Column) (isKey : Bool) :
    TableClause.read (columnTokens d column isKey) =
      some (.column (columnReading d column isKey)) := by
  have hnull : ∀ rest, (keywords (if column.nullable then ["NULL"] else ["NOT", "NULL"]) ++
      rest).head? ≠ some (.sign '(') := by
    intro rest
    cases column.nullable with
    | true => exact nofun
    | false => exact nofun
  have hread : readColumn (columnTokens d column isKey) = some (columnReading d column isKey) := by
    unfold columnTokens
    simp only [List.append_assoc, List.cons_append]
    rw [readColumn_typeTokens d _ _ (hnull _), readAttributes_null, readAttributes_key,
      h.readAttributes_counts]
    refine (readAttributes_default _ column.default?).trans ?_
    simp [columnReading]
  have hcolumn : TableClause.read (columnTokens d column isKey) =
      (readColumn (columnTokens d column isKey)).map .column := rfl
  rw [hcolumn, hread]
  rfl

theorem enclosed_columnTokens (column : Column) (isKey : Bool) :
    Enclosed (columnTokens d column isKey) := by
  have htype : Enclosed (typeTokens d column) := by
    unfold typeTokens
    refine .cons (by simp [IsParenthesis]) (by simp) ?_
    cases column.limit.or _ with
    | none => exact .nil
    | some limit =>
      refine Enclosed.parentheses fun t ht => ?_
      rw [List.mem_singleton.mp ht]
      simp [IsParenthesis]
  have hname : Enclosed (.name column.name :: typeTokens d column) :=
    .cons (by simp [IsParenthesis]) (by simp) htype
  refine (((hname.append (.keywords _)).append (.keywords _)).append (.keywords _)).append ?_
  cases column.default? with
  | none => exact .nil
  | some default =>
    exact .cons (by simp [IsParenthesis]) (by simp) (.singleton (by simp [IsParenthesis]) (by simp))

end

/-- The tokens are one clause, which is read as this one. -/
def ReadsAs (tokens : List Token) (clause : TableClause) : Prop :=
  Enclosed tokens ∧ TableClause.read tokens = some clause

theorem enclosed_names (texts names : List String) :
    Enclosed (keywords texts ++ inParentheses (nameList names)) :=
  (Enclosed.keywords texts).append
    (Enclosed.parentheses fun _ ht => not_isParenthesis_of_mem_nameList ht)

theorem readsAs_key {names : List String} (h : names ≠ []) :
    ReadsAs (keyClauseTokens names) (.key names) :=
  ⟨enclosed_names ["PRIMARY", "KEY"] names,
    congrArg (Option.map TableClause.key) (readNames_nameList h)⟩

theorem readsAs_index {names : List String} (h : names ≠ []) :
    ReadsAs (.word "INDEX" :: inParentheses (nameList names)) (.index names) :=
  ⟨enclosed_names ["INDEX"] names, congrArg (Option.map TableClause.index) (readNames_nameList h)⟩

theorem readsAs_unique {names : List String} (h : names ≠ []) :
    ReadsAs (.word "UNIQUE" :: inParentheses (nameList names)) (.unique names) :=
  ⟨enclosed_names ["UNIQUE"] names, congrArg (Option.map TableClause.unique) (readNames_nameList h)⟩

def indexReadings (clause : List String → TableClause) (indexes : List Index) : List TableClause :=
  if indexes = [] then [] else [clause (indexes.flatMap (·.columns))]

theorem forall₂_readsAs_indexes {keyword : String} {clause : List String → TableClause}
    (hclause : ∀ names, names ≠ [] →
      ReadsAs (.word keyword :: inParentheses (nameList names)) (clause names))
    {indexes : List Index} (h : ∀ index ∈ indexes, index.columns ≠ []) :
    List.Forall₂ ReadsAs (indexClauseTokens keyword indexes) (indexReadings clause indexes) := by
  unfold indexClauseTokens indexReadings
  by_cases hnone : indexes = []
  · rw [if_pos hnone, if_pos hnone]
    exact .nil
  · rw [if_neg hnone, if_neg hnone]
    obtain ⟨index, hindex⟩ := List.exists_mem_of_ne_nil indexes hnone
    have hnames : indexes.flatMap (·.columns) ≠ [] :=
      fun hempty => h index hindex (List.flatMap_eq_nil_iff.mp hempty index hindex)
    exact .cons (hclause _ hnames) .nil

section

variable {δ : Type} [Dialect δ] (d : δ)

/-- The clause of the key, unless a column is declared as the key. -/
def keyReadings (table : Table) : List TableClause :=
  match table.askedKey? with
  | some (.single name) => if IsInlineKey d table name then [] else [.key [name]]
  | some (.composite names) => [.key names]
  | none => []

/-- The clause of a key is read, since a key that is listed has columns. -/
theorem forall₂_readsAs_key {table : Table}
    (h : table.options.primaryKey? ≠ some (.composite [])) :
    List.Forall₂ ReadsAs (keyTokens d table) (keyReadings d table) := by
  unfold keyTokens keyReadings
  cases hkey : table.askedKey? with
  | none => exact .nil
  | some key =>
    cases key with
    | single name =>
      dsimp only
      by_cases hinline : IsInlineKey d table name
      · rw [if_pos hinline, if_pos hinline]
        exact .nil
      · rw [if_neg hinline, if_neg hinline]
        exact .cons (readsAs_key (List.cons_ne_nil _ _)) .nil
    | composite names =>
      refine .cons (readsAs_key ?_) .nil
      rintro rfl
      unfold Table.askedKey? at hkey
      split at hkey
      · cases hkey
      · exact h hkey

variable [Spelled δ]

variable {d} in
theorem readsAs_column (h : CountsByWord d) (column : Column) (isKey : Bool) :
    ReadsAs (columnTokens d column isKey) (.column (columnReading d column isKey)) :=
  ⟨enclosed_columnTokens d column isKey, read_columnTokens h column isKey⟩

/-- What is read between the parentheses of a table. -/
def clauseReadings (table : Table) : List TableClause :=
  (table.askedColumns.map fun column =>
    .column (columnReading d column (IsInlineKey d table column.name))) ++
  keyReadings d table ++
  (if Dialect.declaresIndexInline d then
    indexReadings .index (table.indexes.filter (!·.unique)) else []) ++
  indexReadings .unique (table.indexes.filter (·.unique))

variable {d} in
/-- Every clause of an accepted table is read. -/
theorem forall₂_readsAs (h : CountsByWord d) {table : Table} (hcheck : table.check = .ok ()) :
    List.Forall₂ ReadsAs (clauseTokens d table) (clauseReadings d table) := by
  obtain ⟨-, -, hindexes, hkey⟩ := Table.check_eq_ok_iff.mp hcheck
  have hkind : ∀ p, ∀ index ∈ table.indexes.filter p, index.columns ≠ [] :=
    fun p index hindex => (hindexes index (List.mem_filter.mp hindex).1).1
  refine List.rel_append (List.rel_append (List.rel_append ?_ (forall₂_readsAs_key d hkey)) ?_)
    (forall₂_readsAs_indexes (fun _ => readsAs_unique) (hkind _))
  · rw [List.forall₂_map_left_iff, List.forall₂_map_right_iff, List.forall₂_same]
    exact fun column _ => readsAs_column h column _
  · cases Dialect.declaresIndexInline d with
    | true => exact forall₂_readsAs_indexes (fun _ => readsAs_index) (hkind _)
    | false => exact .nil

end

/-- What stands in the parentheses is read, and what follows is not looked at. -/
theorem readClauses_listed {tss : List (List Token)} {clauses : List TableClause}
    (h : List.Forall₂ ReadsAs tss clauses) (rest : List Token) :
    readClauses (listed tss ++ .sign ')' :: rest) = some clauses := by
  have hall : (∀ tokens ∈ tss, Enclosed tokens) ∧ tss.mapM TableClause.read = some clauses := by
    induction h with
    | nil => exact ⟨fun _ ht => absurd ht List.not_mem_nil, rfl⟩
    | cons hfirst hrest ih =>
      obtain ⟨henclosed, hmap⟩ := ih
      refine ⟨List.forall_mem_cons.mpr ⟨hfirst.1, henclosed⟩, ?_⟩
      rw [List.mapM_cons, hfirst.2, hmap]
      rfl
  obtain ⟨henclosed, hmap⟩ := hall
  cases h with
  | nil => simp [readClauses, listed, splitClauses]
  | @cons tokens clause tss clauses hfirst hrest =>
    have hsplit := splitClauses_listed (List.cons_ne_nil tokens tss) henclosed rest
    have hne : tokens :: tss ≠ [[]] := by
      rintro heq
      cases heq
      have hread := hfirst.2
      cases hread
    rw [readClauses, hsplit]
    exact (if_neg hne).trans hmap

theorem readTable_head (table : String) {tss : List (List Token)} {clauses : List TableClause}
    (h : List.Forall₂ ReadsAs tss clauses) (rest : List Token) :
    readTable (keywords ["CREATE", "TABLE"] ++ (tableNameTokens table ++
      inParentheses (listed tss)) ++ rest) = some clauses := by
  have htokens : keywords ["CREATE", "TABLE"] ++ (tableNameTokens table ++
      inParentheses (listed tss)) ++ rest = .word "CREATE" :: .word "TABLE" ::
        (tableNameTokens table ++ .sign '(' :: (listed tss ++ .sign ')' :: rest)) := by
    simp [keywords, inParentheses]
  rw [htokens, readTable, behindParenthesis_append (not_mem_tableNameTokens table)]
  exact readClauses_listed h rest

end SchemaChange
