import SchemaChange.Proofs.ColumnRenaming
import SchemaChange.Proofs.IndexNames
import SchemaChange.Proofs.SameTable
import SchemaChange.Proofs.TableLookup

/-!
Where the two ways of taking a name apart agree. A statement that creates, alters or drops a table
names it by its components, of which there is one more than dots. A lookup takes what stands before
the last dot for the schema, whatever it is, and what stands behind it for the table. Both mean the
same place exactly when the name has at most one dot: a schema with a dot in it is one name for a
lookup and several for a statement, and it has fewer marks around it when it is quoted as one.
-/
namespace SchemaChange

namespace Text

namespace Quoted

theorem double_append (mark : Char) (s t : List Char) :
    double mark (s ++ t) = double mark s ++ double mark t := by
  induction s with
  | nil => rfl
  | cons c s ih =>
    by_cases hc : c = mark
    · simp [double, hc, ih]
    · simp [double, hc, ih]

/-- Parts that are quoted one by one have more marks around them than their whole, of which a dot
may be a mark itself. -/
theorem length_encode_intercalate_le (mark : Char) {parts : List (List Char)} (h : parts ≠ []) :
    (encode mark (['.'].intercalate parts)).length + parts.length ≤
      (['.'].intercalate (parts.map (encode mark))).length + 1 := by
  induction parts with
  | nil => exact absurd rfl h
  | cons part parts ih =>
    cases parts with
    | nil => simp
    | cons other parts =>
      have hrest := ih (List.cons_ne_nil _ _)
      have hdot : (double mark ['.']).length ≤ 2 := by
        unfold double double
        split <;> simp
      rw [List.map_cons, List.map_cons] at *
      rw [List.intercalate_cons_cons, List.intercalate_cons_cons]
      simp only [encode, double_append, List.length_cons, List.length_append, List.length_nil]
        at hrest ⊢
      omega

end Quoted

namespace QualifiedName

/-- What stands before the last dot is the schema, and without a dot there is none. -/
theorem schema?_cases (name : String) :
    (schema? name = none ∧ table name = name ∧ '.' ∉ name.toList) ∨
      ∃ schema, schema? name = some schema ∧ schema ++ "." ++ table name = name ∧
        '.' ∉ (table name).toList := by
  unfold schema? table
  rcases splitLast_cases name.toList with ⟨hsplit, hdot⟩ | ⟨schema, table, hsplit, hname, hdot⟩
  · refine Or.inl ⟨?_, ?_, hdot⟩
    · rw [hsplit]
      rfl
    · rw [hsplit, String.ofList_toList]
  · refine Or.inr ⟨String.ofList schema, ?_, ?_, ?_⟩
    · rw [hsplit]
      rfl
    · apply String.toList_injective
      rw [hsplit, hname]
      simp
    · rw [hsplit, String.toList_ofList]
      exact hdot

theorem components_eq_singleton_iff {name : String} :
    components name = [name] ↔ '.' ∉ name.toList := by
  constructor
  · intro h
    exact (madeOfParts name).dotless name (by rw [h]; exact List.mem_singleton_self name)
  · intro h
    rw [components, List.splitOn_eq_singleton h, List.map_singleton, String.ofList_toList]

/-- A name without a dot is quoted as a whole, and no other name is. -/
theorem quote_eq_whole_iff (mark : Char) (name : String) :
    quote mark name = Text.quote mark name ↔ '.' ∉ name.toList := by
  constructor
  · intro h hdot
    obtain ⟨a, b, hname⟩ := List.append_of_mem hdot
    have hparts : 2 ≤ (name.toList.splitOn '.').length := by
      have ha := List.length_pos_of_ne_nil (List.splitOn_ne_nil '.' a)
      have hb := List.length_pos_of_ne_nil (List.splitOn_ne_nil '.' b)
      rw [hname, List.splitOn_append_cons_self, List.length_append]
      omega
    have hlength := Quoted.length_encode_intercalate_le mark (List.splitOn_ne_nil '.' name.toList)
    have hquote : ['.'].intercalate ((name.toList.splitOn '.').map (Quoted.encode mark)) =
        Quoted.encode mark name.toList := by
      have hchars := congrArg String.toList h
      simpa [quote, components, Text.quote, Function.comp_def] using hchars
    rw [List.intercalate_splitOn, hquote] at hlength
    omega
  · intro h
    rw [quote, components_eq_singleton_iff.mpr h, List.map_singleton, String.intercalate_singleton]

/-- The table behind its schema, each quoted as a whole. -/
def quoteSplit (mark : Char) (name : String) : String :=
  match schema? name with
  | some schema => Text.quote mark schema ++ "." ++ Text.quote mark (table name)
  | none => Text.quote mark (table name)

section

variable {name schema : String} (h : schema? name = some schema)
include h

/-- The schema, the last dot and the table make up the name. -/
theorem toList_of_schema :
    name.toList = schema.toList ++ '.' :: (table name).toList ∧ '.' ∉ (table name).toList := by
  rcases schema?_cases name with ⟨hnone, -⟩ | ⟨found, hfound, hname, hdot⟩
  · rw [hnone] at h
    cases h
  · rw [h] at hfound
    cases hfound
    have hchars := congrArg String.toList hname
    exact ⟨by simpa using hchars.symm, hdot⟩

theorem components_of_schema : components name = components schema ++ [table name] := by
  obtain ⟨hname, hdot⟩ := toList_of_schema h
  rw [components, hname, List.splitOn_append_cons_self, List.splitOn_eq_singleton hdot,
    List.map_append, List.map_singleton, String.ofList_toList]
  rfl

/-- The name has one dot more than its schema. -/
theorem count_le_one_iff_of_schema : name.toList.count '.' ≤ 1 ↔ '.' ∉ schema.toList := by
  obtain ⟨hname, hdot⟩ := toList_of_schema h
  have htable : (table name).toList.count '.' = 0 := List.count_eq_zero.mpr hdot
  rw [hname, List.count_append, List.count_cons_self, htable, ← List.count_eq_zero]
  omega

end

theorem count_le_one_of_no_schema {name : String} (h : schema? name = none) :
    name.toList.count '.' ≤ 1 := by
  rcases schema?_cases name with ⟨-, -, hdot⟩ | ⟨schema, hschema, -⟩
  · rw [List.count_eq_zero.mpr hdot]
    exact Nat.zero_le 1
  · rw [h] at hschema
    cases hschema

/-- Quoting by components is quoting the table behind its schema for names with at most one dot, and
for no others. -/
theorem quote_eq_quoteSplit_iff (mark : Char) (name : String) :
    quote mark name = quoteSplit mark name ↔ name.toList.count '.' ≤ 1 := by
  unfold quoteSplit
  cases hschema : schema? name with
  | none =>
    have hcomponents := components_eq (count_le_one_of_no_schema hschema)
    rw [hschema] at hcomponents
    simp [quote, hcomponents, count_le_one_of_no_schema hschema]
  | some schema =>
    have hne : (components schema).map (Text.quote mark) ≠ [] := by
      simp [components, List.splitOn_ne_nil]
    have hquote : quote mark name =
        quote mark schema ++ "." ++ Text.quote mark (table name) := by
      rw [quote, components_of_schema hschema, List.map_append, List.map_singleton,
        String.intercalate_append_of_ne_nil hne (List.cons_ne_nil _ _),
        String.intercalate_singleton]
      rfl
    rw [hquote, count_le_one_iff_of_schema hschema, ← quote_eq_whole_iff mark schema]
    simp only [String.append_left_inj]

/-- The components are the table behind its schema for the same names. -/
theorem components_eq_iff (name : String) :
    components name = (schema? name).toList ++ [table name] ↔ name.toList.count '.' ≤ 1 := by
  constructor
  · intro h
    cases hschema : schema? name with
    | none => exact count_le_one_of_no_schema hschema
    | some schema =>
      rw [hschema, components_of_schema hschema] at h
      rw [count_le_one_iff_of_schema hschema]
      exact components_eq_singleton_iff.mp (List.append_cancel_right h)
  · exact components_eq

end QualifiedName

end Text

/-- A table, and the schema that it is in unless this is left open. -/
structure TablePlace where
  schema? : Option String
  table : String
deriving DecidableEq, Repr

namespace TablePlace

/-- The names of a place in the order in which they are written. -/
def names (place : TablePlace) : List String := place.schema?.toList ++ [place.table]

/-- What stands before the last dot of a name, and what stands behind it. -/
def ofName (name : String) : TablePlace :=
  ⟨Text.QualifiedName.schema? name, Text.QualifiedName.table name⟩

/-- The place, in this schema if its own is left open. -/
def within (schema? : Option String) (place : TablePlace) : TablePlace :=
  { place with schema? := place.schema?.or schema? }

/-- There is a schema if and only if there is a dot. -/
theorem ofName_cases (name : String) :
    ('.' ∉ name.toList → ofName name = ⟨none, name⟩) ∧
      ('.' ∈ name.toList → ∃ schema table, ofName name = ⟨some schema, table⟩ ∧
        schema ++ "." ++ table = name ∧ '.' ∉ table.toList) := by
  unfold ofName
  rcases Text.QualifiedName.schema?_cases name with
    ⟨hschema, htable, hdot⟩ | ⟨schema, hschema, hname⟩
  · rw [hschema, htable]
    exact ⟨fun _ => rfl, fun h => absurd h hdot⟩
  · have hmem : '.' ∈ name.toList := by
      rw [← hname.1]
      simp
    rw [hschema]
    exact ⟨fun h => absurd hmem h, fun _ => ⟨schema, _, rfl, hname⟩⟩

theorem components_eq_names_iff (name : String) :
    Text.QualifiedName.components name = (ofName name).names ↔ name.toList.count '.' ≤ 1 :=
  Text.QualifiedName.components_eq_iff name

end TablePlace

/-- The names of the table that a statement creates, alters, renames or drops. -/
def statedNames? : List Token → Option (List String)
  | .word verb :: .word "TABLE" :: rest =>
    if verb ∈ ["CREATE", "ALTER", "RENAME", "DROP"] then some (readDotted rest).1 else none
  | _ => none

/-- The statement is about the table in this place. -/
def States (mark : Char) (sql : String) (place : TablePlace) : Prop :=
  statedNames? (Token.front mark .between sql.toList) = some place.names

/-- The statements that create, rename, alter or drop the table of a name. -/
inductive TableStatement {δ : Type} [Dialect δ] (d : δ) (name : String) : String → Prop
  | create {table : Table} {create : String} {indexes : List String} (hname : table.name = name)
      (h : Statement.createTable d table = .ok (create :: indexes)) : TableStatement d name create
  | createLedger : TableStatement d name (Statement.createLedger d name)
  | rename (newName : String) : TableStatement d name (Dialect.renameTable d name newName)
  | addColumn {column : Column} {add : String} (h : Statement.addColumn d name column = .ok add) :
      TableStatement d name add
  | renameColumn (column newName : String) (definition : ListedColumn) :
      TableStatement d name (Dialect.renameColumn d name column newName definition)
  | dropColumn (column : String) : TableStatement d name (Statement.dropColumn d name column)
  | drop : TableStatement d name (Statement.dropTable d name)

/-- On MySQL an index is altered with its table. -/
inductive MySql.TableStatement (d : MySql) (name : String) : String → Prop
  | shared {sql : String} (h : SchemaChange.TableStatement d name sql) : TableStatement d name sql
  | addIndex {index : Index} {add : String} (h : Statement.addIndex d name index = .ok add) :
      TableStatement d name add
  | dropIndex (index : String) : TableStatement d name (Dialect.dropIndex d name index)

/-- A dialect in which every statement about a table names its components. -/
class StatesTables (δ : Type) [Dialect δ] where
  IsTableStatement : δ → (name sql : String) → Prop
  statedNames?_eq (d : δ) {name sql : String} : IsTableStatement d name sql →
    statedNames? (Token.front (Dialect.quoteMark d) .between sql.toList) =
      some (Text.QualifiedName.components name)

theorem statedNames?_table {verb : String} (hverb : verb ∈ ["CREATE", "ALTER", "RENAME", "DROP"])
    (name : String) {rest : List Token} (hrest : rest.head? ≠ some (.sign '.')) :
    statedNames? (keywords [verb, "TABLE"] ++ (tableNameTokens name ++ rest)) =
      some (Text.QualifiedName.components name) := by
  have hnames := readDotted_table name hrest
  simp only [keywords, List.map, List.cons_append, List.nil_append, statedNames?, hnames]
  exact if_pos hverb

section

variable {mark : Char} {sql verb name : String} {rest : List Token}

/-- A statement that is read to its end begins with what is read. -/
theorem front_of_read (hmark : Token.IsMark mark) {tokens : List Token}
    (h : Token.read mark sql = some tokens) : Token.front mark .between sql.toList = tokens := by
  have hfront := (Written.of_read hmark h).front_eq hmark Token.Breaks.nil
  rw [List.append_nil] at hfront
  rw [hfront]
  exact List.append_nil tokens

theorem statedNames?_of_read (hmark : Token.IsMark mark)
    (hverb : verb ∈ ["CREATE", "ALTER", "RENAME", "DROP"])
    (hread : Token.read mark sql =
      some (keywords [verb, "TABLE"] ++ (tableNameTokens name ++ rest)))
    (hrest : rest.head? ≠ some (.sign '.')) :
    statedNames? (Token.front mark .between sql.toList) =
      some (Text.QualifiedName.components name) := by
  rw [front_of_read hmark hread]
  exact statedNames?_table hverb name hrest

end

section

variable {δ : Type} [Dialect δ] [Spelled δ] (d : δ) {name : String}

theorem statedNames?_createTable {table : Table} {create : String} {indexes : List String}
    (h : Statement.createTable d table = .ok (create :: indexes)) :
    statedNames? (Token.front (Dialect.quoteMark d) .between create.toList) =
      some (Text.QualifiedName.components table.name) := by
  obtain ⟨found, rest, hstatements, hfront⟩ := Spelled.front_createTable d h
  cases hstatements
  rw [hfront, List.append_assoc, List.append_assoc]
  exact statedNames?_table (by decide) table.name (by simp [inParentheses])

theorem statedNames?_createLedger (name : String) :
    statedNames? (Token.front (Dialect.quoteMark d) .between
      (Statement.createLedger d name).toList) = some (Text.QualifiedName.components name) := by
  have hread := (Spelled.sharedWording d).createLedger name
  rw [ledgerTokens, List.append_assoc, List.append_assoc] at hread
  exact statedNames?_of_read (Spelled.isMark d) (by decide) hread (by simp [inParentheses])

theorem statedNames?_dropColumn (name column : String) :
    statedNames? (Token.front (Dialect.quoteMark d) .between
      (Statement.dropColumn d name column).toList) = some (Text.QualifiedName.components name) :=
  statedNames?_of_read (Spelled.isMark d) (by decide)
    ((Spelled.sharedWording d).dropColumn name column) (by simp [keywords])

theorem statedNames?_dropTable (name : String) :
    statedNames? (Token.front (Dialect.quoteMark d) .between
      (Statement.dropTable d name).toList) = some (Text.QualifiedName.components name) := by
  have hread := (Spelled.sharedWording d).dropTable name
  rw [← List.append_nil (tableNameTokens name)] at hread
  exact statedNames?_of_read (Spelled.isMark d) (by decide) hread (by simp)

/-- What stands behind the name of the table in a statement that adds a column begins with a word.
-/
theorem statedNames?_addColumn {column : Column} {add : String} {position : List Token}
    (hadd : Statement.addColumn d name column = .ok add)
    (hread : (Statement.addColumn d name column).map (Token.read (Dialect.quoteMark d)) =
      newColumnReading column (newColumnTokens d name column ++ position)) :
    statedNames? (Token.front (Dialect.quoteMark d) .between add.toList) =
      some (Text.QualifiedName.components name) := by
  obtain ⟨-, htokens⟩ := read_of_newColumnReading hread hadd
  rw [newColumnTokens, List.append_assoc, List.append_assoc] at htokens
  exact statedNames?_of_read (Spelled.isMark d) (by decide) htokens (by simp [keywords])

end

namespace MySql

/-- The definition behind the new name of a column is left alone, whatever it is. -/
theorem statedNames?_renameColumn (d : MySql) (name column newName : String)
    (definition : ListedColumn) :
    statedNames? (Token.front quoteMark .between
      (Dialect.renameColumn d name column newName definition).toList) =
        some (Text.QualifiedName.components name) := by
  obtain ⟨head, hhead, hstatement⟩ := exists_renamingHead name column newName
  have htext : (Dialect.renameColumn d name column newName definition).toList =
      head.toList ++ ' ' :: (restate definition).toList := by
    rw [hstatement]
    simp
  rw [htext, (Written.of_read isMark hhead).front_eq isMark (Token.Breaks.cons rfl _),
    renamingTokens, List.append_assoc, List.append_assoc]
  exact statedNames?_table (by decide) name (by simp [keywords])

theorem statedNames?_eq (d : MySql) {name sql : String} (h : TableStatement d name sql) :
    statedNames? (Token.front quoteMark .between sql.toList) =
      some (Text.QualifiedName.components name) := by
  cases h with
  | shared h =>
    cases h with
    | create hname h => exact hname ▸ statedNames?_createTable d h
    | createLedger => exact statedNames?_createLedger d name
    | rename newName =>
      exact statedNames?_of_read isMark (by decide) ((wording d).renameTable name newName)
        (by simp [keywords])
    | addColumn h => exact statedNames?_addColumn d h ((wording d).addColumn name _)
    | renameColumn column newName definition =>
      exact statedNames?_renameColumn d name column newName definition
    | dropColumn column => exact statedNames?_dropColumn d name column
    | drop => exact statedNames?_dropTable d name
  | @addIndex index add h =>
    obtain ⟨_, -, hadd⟩ := bind_eq_ok_iff.mp h
    cases hadd
    refine statedNames?_of_read isMark (by decide)
      (written_index d name (index.nameFor name) index).read_eq ?_
    cases index.unique <;> simp [keywords]
  | dropIndex index =>
    exact statedNames?_of_read isMark (by decide) ((wording d).dropIndex name index)
      (by simp [keywords])

instance : StatesTables MySql where
  IsTableStatement := TableStatement
  statedNames?_eq := statedNames?_eq

end MySql

namespace Sqlite

theorem statedNames?_eq (d : Sqlite) {name sql : String} (h : TableStatement d name sql) :
    statedNames? (Token.front quoteMark .between sql.toList) =
      some (Text.QualifiedName.components name) := by
  cases h with
  | create hname h => exact hname ▸ statedNames?_createTable d h
  | createLedger => exact statedNames?_createLedger d name
  | rename newName =>
    exact statedNames?_of_read isMark (by decide) ((wording d).renameTable name newName)
      (by simp [keywords])
  | @addColumn column add h =>
    have hread := (wording d).addColumn name column
    rw [← List.append_nil (newColumnTokens d name column)] at hread
    exact statedNames?_addColumn d h hread
  | renameColumn column newName definition =>
    have hread := (wording d).renameColumn name column newName definition
    simp only [List.append_assoc] at hread
    exact statedNames?_of_read isMark (by decide) hread (by simp [keywords])
  | dropColumn column => exact statedNames?_dropColumn d name column
  | drop => exact statedNames?_dropTable d name

instance : StatesTables Sqlite where
  IsTableStatement := TableStatement
  statedNames?_eq := statedNames?_eq

end Sqlite

/-- The place that the arguments of a catalog function tell. -/
def toldPlace? : List (List Token) → Option TablePlace
  | [[.literal table]] => some ⟨none, table⟩
  | [[.literal table], [.literal schema]] => some ⟨some schema, table⟩
  | _ => none

theorem toldPlace?_arguments (name index : String) :
    toldPlace? ([.literal (Text.QualifiedName.table name)] ::
      (Sqlite.indexAddress name index).schemaArgument) = some (.ofName name) := by
  unfold Sqlite.IndexAddress.schemaArgument Sqlite.indexAddress TablePlace.ofName
  cases Text.QualifiedName.schema? name with
  | none => rfl
  | some schema => rfl

/-- The functions that list the columns and the indexes of a table are told its schema. -/
structure Sqlite.AsksCatalogIn (d : Sqlite) (name : String) (place : TablePlace) : Prop where
  columns : ((Token.read quoteMark (Dialect.listColumns d name)).bind
    (argumentsOf "pragma_table_info")).bind toldPlace? = some place
  indexes : ((Token.read quoteMark (Dialect.listIndexes d name)).bind
    indexListArguments?).bind toldPlace? = some place

theorem Sqlite.asksCatalogIn (d : Sqlite) (name : String) :
    AsksCatalogIn d name (.ofName name) where
  columns := by
    have hliteral : Enclosed [.literal (Text.QualifiedName.table name)] :=
      Enclosed.singleton (by simp [IsParenthesis]) (by simp)
    have hcall := argumentsOf_call "pragma_table_info" (tableArgumentTokens name) []
    rw [List.append_nil, tableArgumentTokens, splitClauses_argumentTokens hliteral name ""] at hcall
    rw [(wording d).listColumns, Option.bind_some,
      argumentsOf_append (by simp [columnFieldTokens, listed]), tableArgumentTokens, hcall]
    exact toldPlace?_arguments name ""
  indexes := by
    rw [(listIndexes_arguments d name "").1]
    exact toldPlace?_arguments name ""

section

variable {δ : Type} [Catalog δ] [Spelled δ] [ListsTables δ]

/-- The client asks once, for the tables in the schema of the place, and finds the table when one
of those that are listed has its name, in whatever case. -/
structure LooksIn (client : Client δ) (name : String) (place : TablePlace) : Prop where
  asks : (Token.read (Dialect.quoteMark client.dialect)
    (Dialect.listTables client.dialect place.schema?)).bind (ListsTables.askedSchema? δ) =
      some place.schema?
  finds {σ : Type} (db : Database σ) (s : σ) :
    let sql := Dialect.listTables client.dialect place.schema?
    Action.run db (client.hasTable name) s =
      ⟨(db.listing sql (Catalog.decodeTable client.dialect) s).map fun names =>
          names.any fun listed => Text.sameName listed place.table,
        [.query sql [] (db.query sql [] s).1], (db.query sql [] s).2⟩

theorem looksIn (client : Client δ) (name : String) :
    LooksIn client name ((TablePlace.ofName name).within client.settings.database?) where
  asks := by
    rw [ListsTables.read_listTables, Option.bind_some]
    exact ListsTables.askedSchema?_listingTokens _
  finds db s := by
    intro sql
    change Action.run db (Action.queryMap sql (Catalog.decodeTable client.dialect) >>= _) s = _
    rw [Action.run_queryMap_bind]
    cases db.listing sql (Catalog.decodeTable client.dialect) s with
    | error f => rfl
    | ok names => rfl

/-- What a statement states and where a client looks, for one name of a table. -/
structure PlaceOf [StatesTables δ] (client : Client δ) (name : String) : Prop where
  looked : LooksIn client name ((TablePlace.ofName name).within client.settings.database?)
  stated {sql : String} (h : StatesTables.IsTableStatement client.dialect name sql) :
    States (Dialect.quoteMark client.dialect) sql (.ofName name) ↔ name.toList.count '.' ≤ 1

theorem placeOf [StatesTables δ] (client : Client δ) (name : String) : PlaceOf client name where
  looked := looksIn client name
  stated h := by
    rw [States, StatesTables.statedNames?_eq client.dialect h, Option.some_inj]
    exact TablePlace.components_eq_names_iff name

end

/-- A name without a dot is that of a table, and any other is made of a schema, a dot and a table
without one. Quoting it by its components is quoting this table behind this schema, with any mark,
and every statement about the table states this place, if and only if the name has at most one dot.
It is where a client looks for the table, in the schema of its settings if the name has none, and
where SQLite looks for its columns and indexes; and the name that is made up for an index begins
with this table for every name. -/
theorem lookups_mean_stated_place_iff (name : String) :
    let place := TablePlace.ofName name
    ('.' ∉ name.toList → place = ⟨none, name⟩) ∧
      ('.' ∈ name.toList → ∃ schema table, place = ⟨some schema, table⟩ ∧
        schema ++ "." ++ table = name ∧ '.' ∉ table.toList) ∧
      (∀ mark, Text.QualifiedName.quote mark name = Text.QualifiedName.quoteSplit mark name ↔
        name.toList.count '.' ≤ 1) ∧
      (∀ client : Client MySql, PlaceOf client name) ∧
      (∀ client : Client Sqlite, PlaceOf client name ∧
        Sqlite.AsksCatalogIn client.dialect name place) ∧
      ∀ index : Index, index.name? = none →
        (Text.QualifiedName.components name).getLast? = some place.table ∧
          index.nameFor name =
            place.table ++ "_" ++ "_".intercalate index.columns ++ "_index" := by
  intro place
  obtain ⟨hdotless, hdotted⟩ := TablePlace.ofName_cases name
  refine ⟨hdotless, hdotted, fun mark => Text.QualifiedName.quote_eq_quoteSplit_iff mark name,
    fun client => placeOf client name, fun client => ⟨placeOf client name, ?_⟩, fun index h => ?_⟩
  · exact Sqlite.asksCatalogIn client.dialect name
  · exact ⟨(Text.QualifiedName.madeOfParts name).table_last, index.nameFor_unnamed h name⟩

/-- A table in a schema is looked up where it is dropped, and one with a dot in its schema is not.
-/
theorem users_stated_where_looked_up :
    let client : Client Sqlite := ⟨{}, {}⟩
    TablePlace.ofName "users" = ⟨none, "users"⟩ ∧
      (∃ schema table, TablePlace.ofName "main.users" = ⟨some schema, table⟩ ∧
        schema ++ "." ++ table = "main.users" ∧ '.' ∉ table.toList) ∧
      States Sqlite.quoteMark (Statement.dropTable client.dialect "main.users")
        ⟨some "main", "users"⟩ ∧
      LooksIn client "main.users" ⟨some "main", "users"⟩ ∧
      ¬ States Sqlite.quoteMark (Statement.dropTable client.dialect "a.b.users")
        ⟨some "a.b", "users"⟩ ∧
      LooksIn client "a.b.users" ⟨some "a.b", "users"⟩ ∧
      ({ columns := ["x", "y"] } : Index).nameFor "a.b.users" = "users_x_y_index" := by
  intro client
  obtain ⟨hbare, -⟩ := lookups_mean_stated_place_iff "users"
  obtain ⟨-, hdotted, -, -, hone, -⟩ := lookups_mean_stated_place_iff "main.users"
  obtain ⟨-, -, -, -, htwo, hindex⟩ := lookups_mean_stated_place_iff "a.b.users"
  obtain ⟨hmain, -⟩ := hone client
  obtain ⟨hdots, -⟩ := htwo client
  refine ⟨hbare (by decide), hdotted (by decide), (hmain.stated .drop).mpr (by decide),
    hmain.looked, fun hstates => ?_, hdots.looked, ?_⟩
  · have hcount := (hdots.stated .drop).mp hstates
    exact absurd hcount (by decide)
  · exact (hindex { columns := ["x", "y"] } rfl).2.trans (by decide)

end SchemaChange
