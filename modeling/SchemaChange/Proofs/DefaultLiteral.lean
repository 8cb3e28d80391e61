import SchemaChange.MySql
import SchemaChange.Proofs.BackslashLiteral
import SchemaChange.Proofs.Success
import SchemaChange.Proofs.Written
import SchemaChange.Statement

/-!
The defaults of columns in the statements for MySQL. A default stands as a literal at one place of
its statement, and what stands around it does not depend on it. Only the apostrophes of a default
are doubled, so MySQL reads the literal back as the default exactly when all backslashes in the
default stay; any other default is changed, or the literal takes in what stands behind it.
-/
namespace SchemaChange

open BackslashLiteral (Survives)
open Token (Breaks)

theorem Token.Breaks.append {s t : List Char} (hs : Breaks s) (ht : Breaks t) :
    Breaks (s ++ t) := by
  cases s with
  | nil => exact ht
  | cons c s => exact Breaks.cons (hs c rfl) _

/-- At one place of the texts `write` stands what `inner` writes, with the same around it for all,
and behind it the text breaks off. -/
def Surrounds {α : Type} (write inner : α → String) : Prop :=
  ∃ front back : String, Breaks back.toList ∧ ∀ a, write a = front ++ inner a ++ back

namespace Surrounds

variable {α : Type} {write inner core : α → String}

theorem refl (write : α → String) : Surrounds write write :=
  ⟨"", "", Breaks.nil, fun a => by simp⟩

theorem trans (h : Surrounds write inner) (h' : Surrounds inner core) : Surrounds write core := by
  obtain ⟨front, back, hbreaks, hwrite⟩ := h
  obtain ⟨front', back', hbreaks', hinner⟩ := h'
  refine ⟨front ++ front', back' ++ back, ?_, fun a => ?_⟩
  · rw [String.toList_append]
    exact Breaks.append hbreaks' hbreaks
  · rw [hwrite, hinner]
    simp only [String.append_assoc]

variable (write)

theorem before (front : String) : Surrounds (fun a => front ++ write a) write :=
  ⟨front, "", Breaks.nil, fun a => by simp⟩

theorem behind {back : String} (h : Breaks back.toList) :
    Surrounds (fun a => write a ++ back) write :=
  ⟨"", back, h, fun a => by simp⟩

/-- One of several texts with separators between them. -/
theorem intercalate {sep : String} (hsep : ∀ rest, Breaks (sep.toList ++ rest))
    (xs ys : List String) : Surrounds (fun a => sep.intercalate (xs ++ write a :: ys)) write := by
  have hfirst : Surrounds (fun a => sep.intercalate (write a :: ys)) write := by
    cases ys with
    | nil =>
      simp only [String.intercalate_singleton]
      exact refl write
    | cons y ys =>
      simp only [String.intercalate_cons_cons, String.append_assoc]
      refine behind write ?_
      rw [String.toList_append]
      exact hsep _
  cases xs with
  | nil => exact hfirst
  | cons x xs =>
    simp only [String.intercalate_append_of_ne_nil (List.cons_ne_nil x xs) (List.cons_ne_nil _ ys)]
    exact (before _ _).trans hfirst

/-- One of the parts of a phrase. -/
theorem phrase (xs ys : List String) :
    Surrounds (fun a => Text.phrase (xs ++ write a :: ys)) write := by
  have hblank : Separates MySql.quoteMark " " [] := Separates.blank
  exact intercalate write hblank.breaks xs ys

theorem clauseList (xs ys : List String) :
    Surrounds (fun a => Text.clauseList (xs ++ write a :: ys)) write := by
  have hcomma : Separates MySql.quoteMark ", " [.sign ','] := Separates.commaBlank
  exact intercalate write hcomma.breaks xs ys

theorem parenthesized : Surrounds (fun a => Text.parenthesized (write a)) write := by
  have hclose : Breaks ")".toList := Breaks.cons rfl []
  exact (behind _ hclose).trans (before write "(")

end Surrounds

/-- The literals of the texts stand at one place of the statements `write`, with the same around
them for all; there a literal is read as its text, and nothing else, exactly when the text
survives. -/
def StatesLiteral {α : Type} (write : α → Except Failure (List String)) (text : α → String) :
    Prop :=
  ∃ front back : String, ∀ a,
    write a = .ok [front ++ Text.literal (text a) ++ back] ∧
      (BackslashLiteral.read ((Text.literal (text a)).toList ++ back.toList) =
          some ((text a).toList, back.toList) ↔
        Survives (text a).toList)

theorem Surrounds.statesLiteral {α : Type} {write : α → Except Failure (List String)}
    {statement text : α → String} (hwrite : ∀ a, write a = .ok [statement a])
    (h : Surrounds statement fun a => Text.literal (text a)) : StatesLiteral write text := by
  obtain ⟨front, back, hbreaks, hstatement⟩ := h
  refine ⟨front, back, fun a => ⟨?_, ?_⟩⟩
  · rw [hwrite, hstatement]
  · exact BackslashLiteral.read_literal_iff (text a) (hbreaks.head?_ne (by decide))

section

variable {δ : Type} [Dialect δ] (d : δ)

/-- One of the clauses in the parentheses of a new table. -/
theorem surrounds_createTable {α : Type} (write : α → String) (table : Table)
    (xs ys : List String) :
    Surrounds
      (fun a => Text.phrase (["CREATE TABLE", Dialect.quoteTable d table.name,
          Text.parenthesized (Text.clauseList (xs ++ write a :: ys))] ++
        (Dialect.tableSuffix d table.options).toList) ++ ";")
      write := by
  have hend : Breaks ";".toList := Breaks.cons rfl []
  have hclauses := (Surrounds.parenthesized _).trans (Surrounds.clauseList write xs ys)
  have hphrase := Surrounds.phrase
    (fun a => Text.parenthesized (Text.clauseList (xs ++ write a :: ys)))
    ["CREATE TABLE", Dialect.quoteTable d table.name] (Dialect.tableSuffix d table.options).toList
  exact (Surrounds.behind _ hend).trans (hphrase.trans hclauses)

/-- What a column is, apart from its default. -/
def definitionHead (column : Column) (isKey : Bool) : List String :=
  [Dialect.quoteName d column.name, Statement.columnType d column,
      if column.nullable then "NULL" else "NOT NULL"] ++
    (if isKey then ["PRIMARY KEY"] else []) ++
    (if column.autoIncrement then [Dialect.autoIncrementKeyword d] else [])

/-- The definition of a column with a default. -/
def definition (column : Column) (isKey : Bool) (value : DefaultValue) : String :=
  Text.phrase (definitionHead d column isKey ++ ["DEFAULT", Text.literal value.toText])

theorem defineColumn_default {column : Column} (h : column.name ≠ "") (isKey : Bool)
    (value : DefaultValue) :
    Statement.defineColumn d { column with default? := some value } isKey =
      .ok (definition d column isKey value) := by
  have hcheck : Column.check { column with default? := some value } = .ok () :=
    Column.check_eq_ok_iff.mpr h
  rw [Statement.defineColumn, hcheck]
  rfl

theorem exists_definitions {columns : List Column} (h : ∀ column ∈ columns, column.name ≠ "")
    (isKey : Column → Bool) :
    ∃ texts, columns.mapM (fun column => Statement.defineColumn d column (isKey column)) =
      .ok texts := by
  refine exists_mapM_eq_ok fun column hmem => ⟨_, bind_eq_ok_iff.mpr ⟨(), ?_, rfl⟩⟩
  exact Column.check_eq_ok_iff.mpr (h column hmem)

theorem surrounds_definition (column : Column) (isKey : Bool) :
    Surrounds (definition d column isKey) fun value => Text.literal value.toText := by
  have hphrase := Surrounds.phrase (fun value : DefaultValue => Text.literal value.toText)
    (definitionHead d column isKey ++ ["DEFAULT"]) []
  simp only [List.append_assoc, List.singleton_append] at hphrase
  exact hphrase

end

/-- The implicit columns of a table do not depend on the others. -/
theorem Table.exists_implicitColumns (table : Table) :
    ∃ ids : List Column, (∀ column ∈ ids, column.name ≠ "") ∧
      ∀ columns, Table.allColumns { table with columns } = ids ++ columns := by
  cases himplicit : table.options.implicitId with
  | true =>
    have hname : ∀ column ∈ [Table.idColumn], column.name ≠ "" := by decide
    exact ⟨[Table.idColumn], hname, fun columns => by simp [Table.allColumns, himplicit]⟩
  | false =>
    exact ⟨[], List.forall_mem_nil _, fun columns => by simp [Table.allColumns, himplicit]⟩

namespace MySql

variable (d : MySql)

theorem statesLiteral_addColumn (table : String) {column : Column} (h : column.name ≠ "") :
    StatesLiteral
      (fun value => (Statement.addColumn d table { column with default? := some value }).map ([·]))
      DefaultValue.toText := by
  have hphrase := Surrounds.phrase (definition d column false)
    ["ALTER TABLE", Dialect.quoteTable d table, "ADD COLUMN"]
    (Dialect.columnPosition d column).toList
  refine Surrounds.statesLiteral (fun value => ?_) (hphrase.trans (surrounds_definition d column _))
  rw [Statement.addColumn, defineColumn_default d h]
  rfl

theorem statesLiteral_createTable {table : Table} (h : table.check = .ok ())
    {before after : List Column} {column : Column}
    (hcolumns : table.columns = before ++ column :: after) :
    StatesLiteral
      (fun value => Statement.createTable d
        { table with columns := before ++ { column with default? := some value } :: after })
      DefaultValue.toText := by
  obtain ⟨hname, hnamed, hindexes, hkey⟩ := Table.check_eq_ok_iff.mp h
  rw [hcolumns, List.forall_mem_append, List.forall_mem_cons] at hnamed
  obtain ⟨hbefore, hcolumn, hafter⟩ := hnamed
  obtain ⟨ids, hids, hall⟩ := table.exists_implicitColumns
  obtain ⟨us, hus⟩ := exists_definitions d (List.forall_mem_append.mpr ⟨hids, hbefore⟩)
    fun _ => false
  obtain ⟨vs, hvs⟩ := exists_definitions d hafter fun _ => false
  have hstatement := (surrounds_createTable d (definition d column false) table us
    (vs ++ Statement.tableClauses d table)).trans (surrounds_definition d column false)
  refine Surrounds.statesLiteral (fun value => ?_) hstatement
  let changed : Column := { column with default? := some value }
  let columns := before ++ changed :: after
  have hcheck : Table.check { table with columns } = .ok () :=
    Table.check_eq_ok_iff.mpr ⟨hname,
      List.forall_mem_append.mpr ⟨hbefore, List.forall_mem_cons.mpr ⟨hcolumn, hafter⟩⟩,
      hindexes, hkey⟩
  have hdefinitions : (Table.allColumns { table with columns }).mapM
      (fun column => Statement.defineColumn d column false) =
        .ok (us ++ definition d column false value :: vs) := by
    rw [hall, ← List.append_assoc, List.mapM_append, hus, List.mapM_cons,
      defineColumn_default d hcolumn, hvs]
    rfl
  refine bind_eq_ok_iff.mpr ⟨(), hcheck, bind_eq_ok_iff.mpr ⟨_, hdefinitions, ?_⟩⟩
  rw [List.append_assoc, List.cons_append]
  rfl

/-- A listed column, with this text for the statement of its default. -/
def restatement (listed : ListedColumn) (default : String) : String :=
  let kept := (Text.words listed.extra.toList).filter fun word => !isExpressionMark word
  let extra := [' '].intercalate kept
  Text.phrase ([listed.type, if listed.nullable then "NULL" else "NOT NULL"] ++
    ["DEFAULT", default] ++ (if extra.isEmpty then [] else [String.ofList (Text.upper extra)]))

theorem restate_literal {listed : ListedColumn} {default : String}
    (hextra : (Text.words listed.extra.toList).any isExpressionMark = false)
    (hdefault : isCurrentTime default = false) :
    restate { listed with default? := some default } =
      restatement listed (Text.literal default) := by
  simp [restate, restatement, defaultText, hextra, hdefault]

theorem surrounds_restatement {α : Type} (write : α → String) (listed : ListedColumn) :
    Surrounds (fun a => restatement listed (write a)) write :=
  Surrounds.phrase write [listed.type, if listed.nullable then "NULL" else "NOT NULL", "DEFAULT"] _

theorem statesLiteral_renameColumn (table column newName : String) {listed : ListedColumn}
    (h : (Text.words listed.extra.toList).any isExpressionMark = false) :
    StatesLiteral
      (fun default : { default : String // isCurrentTime default = false } =>
        .ok [Dialect.renameColumn d table column newName
          { listed with default? := some default.val }])
      Subtype.val := by
  let write (default : { default : String // isCurrentTime default = false }) :=
    Text.literal default.val
  have hphrase := Surrounds.phrase (fun default => restatement listed (write default))
    ["ALTER TABLE", quoteTable table, "CHANGE COLUMN", quoteName column, quoteName newName] []
  refine Surrounds.statesLiteral (fun default => ?_)
    (hphrase.trans (surrounds_restatement write listed))
  change Except.ok [Text.phrase [_, _, _, _, _, restate _]] = _
  rw [restate_literal h default.property]
  rfl

end MySql

/-- In every statement for MySQL that states a default as a literal, whether the default was asked
for or was listed, MySQL reads the literal as the default, from its first apostrophe to its last,
exactly when each backslash in the default stands in front of a percent sign or an underscore. -/
theorem default_read_back_iff (d : MySql) :
    (∀ (table : Table) (before after : List Column) (column : Column),
      table.check = .ok () → table.columns = before ++ column :: after →
      StatesLiteral
        (fun value => Statement.createTable d
          { table with columns := before ++ { column with default? := some value } :: after })
        DefaultValue.toText) ∧
    (∀ (table : String) (column : Column), column.check = .ok () →
      StatesLiteral
        (fun value =>
          (Statement.addColumn d table { column with default? := some value }).map ([·]))
        DefaultValue.toText) ∧
    ∀ (table column newName : String) (listed : ListedColumn),
      (Text.words listed.extra.toList).any MySql.isExpressionMark = false →
      StatesLiteral
        (fun default : { default : String // MySql.isCurrentTime default = false } =>
          .ok [Dialect.renameColumn d table column newName
            { listed with default? := some default.val }])
        Subtype.val := by
  refine ⟨?_, ?_, ?_⟩
  · intro table before after column hcheck hcolumns
    exact MySql.statesLiteral_createTable d hcheck hcolumns
  · intro table column hcheck
    exact MySql.statesLiteral_addColumn d table (Column.check_eq_ok_iff.mp hcheck)
  · intro table column newName listed hextra
    exact MySql.statesLiteral_renameColumn d table column newName hextra

def folderColumn : Column := { name := "folder", type := .string }

def filesTable : Table := { name := "files", columns := [folderColumn] }

def listedFolder : ListedColumn := { name := "folder", type := "varchar(255)" }

theorem folder_default_stated :
    filesTable.check = .ok () ∧
    StatesLiteral
      (fun value => Statement.createTable ({} : MySql)
        { filesTable with columns := [{ folderColumn with default? := some value }] })
      DefaultValue.toText ∧
    folderColumn.check = .ok () ∧
    StatesLiteral
      (fun value => (Statement.addColumn ({} : MySql) "files"
        { folderColumn with default? := some value }).map ([·]))
      DefaultValue.toText ∧
    (Text.words listedFolder.extra.toList).any MySql.isExpressionMark = false ∧
    StatesLiteral
      (fun default : { default : String // MySql.isCurrentTime default = false } =>
        .ok [Dialect.renameColumn ({} : MySql) "files" "folder" "path"
          { listedFolder with default? := some default.val }])
      Subtype.val := by
  have htable : filesTable.check = .ok () := rfl
  have hcolumn : folderColumn.check = .ok () := rfl
  have hextra : (Text.words listedFolder.extra.toList).any MySql.isExpressionMark = false := rfl
  have hcreate := (default_read_back_iff {}).1 filesTable [] [] folderColumn htable rfl
  have hadd := (default_read_back_iff {}).2.1 "files" folderColumn hcolumn
  have hrename := (default_read_back_iff {}).2.2 "files" "folder" "path" listedFolder hextra
  exact ⟨htable, hcreate, hcolumn, hadd, hextra, hrename⟩

/-- The literal of a default that ends with a backslash does not end, and of a default with a
backslash before a letter another text comes back. -/
theorem folder_default_not_read_back :
    Statement.addColumn ({} : MySql) "files"
        { folderColumn with default? := some (.text "C:\\") } =
      .ok "ALTER TABLE `files` ADD COLUMN `folder` VARCHAR(255) NOT NULL DEFAULT 'C:\\'" ∧
    BackslashLiteral.read (Text.literal "C:\\").toList = none ∧
    Dialect.renameColumn ({} : MySql) "files" "folder" "path"
        { listedFolder with default? := some "C:\\new" } =
      "ALTER TABLE `files` CHANGE COLUMN `folder` `path` varchar(255) NOT NULL " ++
        "DEFAULT 'C:\\new'" ∧
    BackslashLiteral.read (Text.literal "C:\\new").toList = some ("C:\new".toList, []) := by
  decide +kernel

end SchemaChange
