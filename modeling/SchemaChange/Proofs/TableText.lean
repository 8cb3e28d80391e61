import SchemaChange.Proofs.Success
import SchemaChange.Proofs.TableTokens

/-!
The texts of the statements that create a table are read as the prescribed tokens. Each part of a
statement is written as its tokens, from the type of a column to the whole table; names may be
anything, since a quoted name ends itself, and only the words of the options have to be words.
-/
namespace SchemaChange

open Token (IsMark IsWord)

theorem commaList_append {texts others : List String} (h : texts ≠ []) (h' : others ≠ []) :
    Text.commaList (texts ++ others) = Text.commaList texts ++ "," ++ Text.commaList others :=
  String.intercalate_append_of_ne_nil h h'

/-- What stands last in a phrase stands behind a blank. -/
theorem Text.phrase_append_singleton {parts : List String} (h : parts ≠ []) (last : String) :
    phrase (parts ++ [last]) = phrase parts ++ " " ++ last := by
  rw [phrase, String.intercalate_append_of_ne_nil h (List.cons_ne_nil _ _),
    String.intercalate_singleton]
  rfl

/-- Lists one behind the other are one list. -/
theorem commaList_commaLists (write : String → String) {lists : List (List String)}
    (h : ∀ names ∈ lists, names ≠ []) :
    Text.commaList (lists.map fun names => Text.commaList (names.map write)) =
      Text.commaList (lists.flatten.map write) := by
  induction lists with
  | nil => rfl
  | cons names rest ih =>
    have hnames : names.map write ≠ [] := by simpa using h names (List.mem_cons_self ..)
    have ih := ih fun other hother => h other (List.mem_cons_of_mem _ hother)
    cases rest with
    | nil => simp [Text.commaList]
    | cons others rest =>
      have hothers : (others :: rest).flatten.map write ≠ [] := by
        have hne := h others (List.mem_cons_of_mem _ (List.mem_cons_self ..))
        simp [hne]
      rw [List.flatten_cons, List.map_append, commaList_append hnames hothers, ← ih, List.map_cons,
        ← List.singleton_append, commaList_append (by simp) (by simp)]
      simp [Text.commaList]

namespace Written

variable {mark : Char}

theorem keywords {text : String} (texts : List String) (htext : text = Text.phrase texts)
    (h : ∀ text ∈ texts, IsWord text) : Written mark text (keywords texts) := by
  rw [htext]
  exact (Phrased.words h).written

/-- One phrase of words or another. -/
theorem keywords_ite (c : Bool) {a b : String} {texts others : List String}
    (ha : Written mark a (SchemaChange.keywords texts))
    (hb : Written mark b (SchemaChange.keywords others)) :
    Written mark (if c then a else b) (SchemaChange.keywords (if c then texts else others)) := by
  cases c with
  | true => exact ha
  | false => exact hb

theorem nameList (hmark : IsMark mark) (names : List String) :
    Written mark (Text.commaList (names.map (Text.quote mark))) (nameList names) := by
  refine commaList ?_
  rw [List.forall₂_map_left_iff, List.forall₂_map_right_iff, List.forall₂_same]
  exact fun name _ => Written.name hmark name

theorem tableName (hmark : IsMark mark) (table : String) :
    Written mark (Text.QualifiedName.quote mark table) (tableNameTokens table) := by
  refine intercalate Separates.dot ?_
  rw [List.forall₂_map_left_iff, List.forall₂_map_right_iff, List.forall₂_same]
  exact fun name _ => Written.name hmark name

theorem number (n : Nat) : Written mark (Decimal.integerText n) [.word (toString n)] := by
  have htext : Decimal.integerText n = toString n := Decimal.integerText_eq n
  rw [htext]
  refine word ⟨?_, List.all_eq_true.mpr fun c hc => ?_⟩
  · rw [Nat.toString_eq_ofList_toDigits]
    exact fun hempty => Nat.toDigits_ne_nil (String.ofList_eq_empty_iff.mp hempty)
  · rw [Nat.toString_eq_ofList_toDigits, String.toList_ofList] at hc
    have hdigit := Nat.isDigit_of_mem_toDigits (by decide) (by decide) hc
    simp [Token.isWordChar, Char.isAlphanum, hdigit]

end Written

/-- A phrase that goes on behind keywords. -/
theorem Phrased.consKeywords {mark : Char} {text : String} {rest : List String} {us : List Token}
    (texts : List String) (htext : text = Text.phrase texts) (h : ∀ word ∈ texts, IsWord word)
    (hrest : Phrased mark rest us) : Phrased mark (text :: rest) (keywords texts ++ us) :=
  cons (Written.keywords texts htext h) hrest

/-- A phrase of words, or nothing. -/
theorem Phrased.keywords_ite {mark : Char} (c : Bool) {text : String} {texts : List String}
    (h : Written mark text (keywords texts)) :
    Phrased mark (if c then [text] else []) (keywords (if c then texts else [])) := by
  cases c with
  | true => exact Phrased.single h
  | false => exact Phrased.nil

theorem Phrased.default {mark : Char} (default? : Option DefaultValue) :
    Phrased mark
      (match default? with
        | some default => ["DEFAULT", Text.literal default.toText]
        | none => [])
      (match default? with
        | some default => [.word "DEFAULT", .literal default.literalText]
        | none => []) := by
  cases default? with
  | some default =>
    dsimp only
    rw [DefaultValue.toText_eq]
    exact Phrased.cons (Written.word (by decide)) (Phrased.single (Written.literal _))
  | none => exact Phrased.nil

namespace Spelled

variable {δ : Type} [Dialect δ] [Spelled δ] (d : δ)

theorem written_name (name : String) :
    Written (Dialect.quoteMark d) (Dialect.quoteName d name) [.name name] := by
  rw [quoteName_eq]
  exact Written.name (isMark d) name

theorem written_names (names : List String) :
    Written (Dialect.quoteMark d) (Dialect.quoteNames d names) (nameList names) := by
  rw [quoteNames_eq]
  exact Written.nameList (isMark d) names

theorem written_table (table : String) :
    Written (Dialect.quoteMark d) (Dialect.quoteTable d table) (tableNameTokens table) := by
  rw [quoteTable_eq]
  exact Written.tableName (isMark d) table

theorem written_type (column : Column) :
    Written (Dialect.quoteMark d) (Statement.columnType d column) (typeTokens d column) := by
  have hname : Written (Dialect.quoteMark d) _ _ := Written.word (isWord_type d column.type)
  unfold Statement.columnType typeTokens
  rw [capitalType_eq] at hname ⊢
  dsimp only at hname ⊢
  cases column.limit.or (Dialect.sqlType d column.type).limit with
  | none => exact hname
  | some limit => exact hname.applied (Written.number limit)

theorem written_column (column : Column) (isKey : Bool) {text : String}
    (h : Statement.defineColumn d column isKey = .ok text) :
    Written (Dialect.quoteMark d) text (columnTokens d column isKey) := by
  obtain ⟨-, -, htext⟩ := bind_eq_ok_iff.mp h
  have hnull : Written (Dialect.quoteMark d) (if column.nullable then "NULL" else "NOT NULL")
      (keywords (if column.nullable then ["NULL"] else ["NOT", "NULL"])) :=
    Written.keywords_ite _ (Written.keywords _ rfl (by decide))
      (Written.keywords _ rfl (by decide))
  have hkeywords : Written (Dialect.quoteMark d) "PRIMARY KEY" (keywords ["PRIMARY", "KEY"]) :=
    Written.keywords _ rfl (by decide)
  have hkey := Phrased.keywords_ite isKey hkeywords
  have hincrement : Written (Dialect.quoteMark d) (Dialect.autoIncrementKeyword d)
      (keywords [Dialect.autoIncrementKeyword d]) :=
    Written.word (isWord_autoIncrement d)
  have hauto := Phrased.keywords_ite column.autoIncrement hincrement
  have hstart := Phrased.cons (written_name d column.name)
    (Phrased.cons (written_type d column) (Phrased.single hnull))
  have hall := ((hstart.append hkey).append hauto).append (Phrased.default column.default?)
  rw [← Except.ok.inj htext]
  exact hall.written

theorem written_key (key : PrimaryKey) :
    Written (Dialect.quoteMark d) (Statement.keyClause d key)
      (keyClauseTokens key.columns) := by
  have hwords : Written (Dialect.quoteMark d) "PRIMARY KEY" (keywords ["PRIMARY", "KEY"]) :=
    Written.keywords _ rfl (by decide)
  have hnames := (written_names d key.columns).parenthesized
  exact (Phrased.cons hwords (Phrased.single hnames)).written

theorem written_indexClause {keyword : String} (hkeyword : IsWord keyword) {indexes : List Index}
    (h : ∀ index ∈ indexes, index.columns ≠ []) :
    Written (Dialect.quoteMark d) (Statement.indexClause d keyword indexes)
      (.word keyword :: inParentheses (nameList (indexes.flatMap (·.columns)))) := by
  have hlists : indexes.map (fun index => Dialect.quoteNames d index.columns) =
      (indexes.map (·.columns)).map fun names =>
        Text.commaList (names.map (Text.quote (Dialect.quoteMark d))) := by
    rw [List.map_map]
    exact List.map_congr_left fun index _ => quoteNames_eq d index.columns
  have hnames : ∀ names ∈ indexes.map (·.columns), names ≠ [] := by
    simpa using h
  have hlist := Written.nameList (isMark d) (indexes.flatMap (·.columns))
  rw [List.flatMap_def, ← commaList_commaLists _ hnames, ← hlists] at hlist
  exact (Phrased.cons (Written.word hkeyword) (Phrased.single hlist.parenthesized)).written

theorem forall₂_columns {columns : List Column} {isKey : Column → Bool} {texts : List String}
    (h : columns.mapM (fun column => Statement.defineColumn d column (isKey column)) = .ok texts) :
    List.Forall₂ (Written (Dialect.quoteMark d)) texts
      (columns.map fun column => columnTokens d column (isKey column)) := by
  rw [List.forall₂_map_right_iff]
  have hdefined := mapM_eq_ok_iff.mp h
  exact (hdefined.imp fun column text htext => written_column d column (isKey column) htext).flip

theorem forall₂_keyClause (table : Table) :
    List.Forall₂ (Written (Dialect.quoteMark d))
      (match table.key?, Statement.inlineKey? d table with
        | some key, none => [Statement.keyClause d key]
        | _, _ => [])
      (keyTokens d table) := by
  unfold keyTokens
  rw [Table.key?_eq]
  -- Only a key of one column can be declared with it.
  have hsingle : ∀ {name}, Statement.inlineKey? d table = some name →
      table.askedKey? = some (.single name) := fun hname => (inlineKey?_eq_some_iff.mp hname).2.1
  cases hkey : table.askedKey? with
  | none => exact .nil
  | some key =>
    cases hinline : Statement.inlineKey? d table with
    | some name =>
      cases hkey.symm.trans (hsingle hinline)
      dsimp only
      rw [if_pos (inlineKey?_eq_some_iff.mp hinline)]
      exact .nil
    | none =>
      cases key with
      | composite names => exact .cons (written_key d (.composite names)) .nil
      | single name =>
        have hnot : ¬ IsInlineKey d table name := by
          rw [← inlineKey?_eq_some_iff, hinline]
          exact nofun
        dsimp only
        rw [if_neg hnot]
        exact .cons (written_key d (.single name)) .nil

theorem forall₂_indexClause {keyword : String} (hkeyword : IsWord keyword) {indexes : List Index}
    (h : ∀ index ∈ indexes, index.columns ≠ []) :
    List.Forall₂ (Written (Dialect.quoteMark d))
      (if indexes.isEmpty then [] else [Statement.indexClause d keyword indexes])
      (indexClauseTokens keyword indexes) := by
  unfold indexClauseTokens
  cases indexes with
  | nil => exact .nil
  | cons index rest => exact .cons (written_indexClause d hkeyword h) .nil

/-- The indexes of an accepted table have columns. -/
theorem forall₂_clauses {table : Table} (h : ∀ index ∈ table.indexes, index.columns ≠ []) :
    List.Forall₂ (Written (Dialect.quoteMark d)) (Statement.tableClauses d table)
      (keyTokens d table ++
        (if Dialect.declaresIndexInline d then
          indexClauseTokens "INDEX" (table.indexes.filter (!·.unique)) else []) ++
        indexClauseTokens "UNIQUE" (table.indexes.filter (·.unique))) := by
  have hkind : ∀ p, ∀ index ∈ table.indexes.filter p, index.columns ≠ [] :=
    fun p index hindex => h index (List.mem_filter.mp hindex).1
  have hinline : (if !table.plainIndexes.isEmpty && Dialect.declaresIndexInline d then
      [Statement.indexClause d "INDEX" table.plainIndexes] else []) =
      if Dialect.declaresIndexInline d then
        if table.plainIndexes.isEmpty then []
        else [Statement.indexClause d "INDEX" table.plainIndexes]
      else [] := by
    cases Dialect.declaresIndexInline d <;> cases table.plainIndexes.isEmpty <;> rfl
  rw [Statement.tableClauses, hinline]
  refine List.rel_append (List.rel_append (forall₂_keyClause d table) ?_)
    (forall₂_indexClause d (by decide) (hkind _))
  cases Dialect.declaresIndexInline d with
  | true => exact forall₂_indexClause d (by decide) (hkind _)
  | false => exact .nil

/-- The statement that creates the table itself, up to the parenthesis behind its clauses. -/
theorem phrased_head {table : Table} (h : ∀ index ∈ table.indexes, index.columns ≠ [])
    {columns : List String}
    (hcolumns : table.allColumns.mapM (fun column => Statement.defineColumn d column
      (Statement.inlineKey? d table == some column.name)) = .ok columns) :
    Phrased (Dialect.quoteMark d)
      ["CREATE TABLE", Dialect.quoteTable d table.name,
        Text.parenthesized (Text.clauseList (columns ++ Statement.tableClauses d table))]
      (keywords ["CREATE", "TABLE"] ++ (tableNameTokens table.name ++
        inParentheses (listed (clauseTokens d table)))) := by
  have hcreate : Written (Dialect.quoteMark d) "CREATE TABLE" (keywords ["CREATE", "TABLE"]) :=
    Written.keywords _ rfl (by decide)
  have hisKey : ∀ column : Column, (Statement.inlineKey? d table == some column.name) =
      decide (IsInlineKey d table column.name) := by
    intro column
    rw [Bool.eq_iff_iff, beq_iff_eq, decide_eq_true_eq]
    exact inlineKey?_eq_some_iff
  simp only [Table.allColumns_eq, hisKey] at hcolumns
  have hclauses := Written.clauseList
    (List.rel_append (forall₂_columns d hcolumns) (forall₂_clauses d h))
  have hstart := Phrased.cons hcreate
    (Phrased.cons (written_table d table.name) (Phrased.single hclauses.parenthesized))
  simpa only [clauseTokens, listed, inParentheses, List.append_assoc] using hstart

/-- The statement that creates the table itself. -/
theorem written_create {table : Table} (hplain : IsPlain d table.options)
    (h : ∀ index ∈ table.indexes, index.columns ≠ []) {columns : List String}
    (hcolumns : table.allColumns.mapM (fun column => Statement.defineColumn d column
      (Statement.inlineKey? d table == some column.name)) = .ok columns) :
    Written (Dialect.quoteMark d)
      (Text.phrase (["CREATE TABLE", Dialect.quoteTable d table.name,
          Text.parenthesized (Text.clauseList (columns ++ Statement.tableClauses d table))] ++
        (Dialect.tableSuffix d table.options).toList) ++ ";")
      (tableTokens d table) := by
  have hphrase := ((phrased_head d h hcolumns).append
    (phrased_suffix d table.options hplain)).written
  simpa only [tableTokens, List.append_assoc] using hphrase.terminated

theorem forall₂_createTable {table : Table} {statements : List String}
    (hplain : IsPlain d table.options) (h : Statement.createTable d table = .ok statements) :
    List.Forall₂ (Written (Dialect.quoteMark d)) statements (statementTokens d table) := by
  obtain ⟨_, hcheck, h⟩ := bind_eq_ok_iff.mp h
  obtain ⟨columns, hcolumns, h⟩ := bind_eq_ok_iff.mp h
  obtain ⟨-, -, hindexes, -⟩ := Table.check_eq_ok_iff.mp hcheck
  rw [← Except.ok.inj h]
  refine .cons (written_create d hplain (fun index hi => (hindexes index hi).1) hcolumns) ?_
  cases Dialect.declaresIndexInline d with
  | true => exact .nil
  | false =>
    simp only [Bool.false_eq_true, if_false]
    rw [Table.plainIndexes, List.forall₂_map_left_iff, List.forall₂_map_right_iff,
      List.forall₂_same]
    intro index _
    rw [Statement.namedIndex, Index.nameFor_eq]
    exact written_index d table.name _ index

/-- The statements of an accepted table are read as prescribed. -/
theorem map_read_createTable {table : Table} {statements : List String}
    (hplain : IsPlain d table.options) (h : Statement.createTable d table = .ok statements) :
    statements.map (Token.read (Dialect.quoteMark d)) = (statementTokens d table).map some := by
  have hread := (forall₂_createTable d hplain h).imp fun text tokens hwritten => hwritten.read_eq
  rw [← List.forall₂_map_right_iff, ← List.forall₂_map_left_iff] at hread
  exact List.forall₂_eq_eq_eq ▸ hread

end Spelled

end SchemaChange
