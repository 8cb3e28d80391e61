import SchemaChange.Database.Recording
import SchemaChange.Proofs.ClientRun
import SchemaChange.Proofs.Restatement
import SchemaChange.Proofs.Wording

/-!
Renaming a column of MySQL. The columns of the table are listed first. The new definition is made
of the first listed row that has the name of the column, in whatever case, and of no other, so that
the column stays what it is; and nothing is executed unless every row decodes and one of them has
the name.
-/
namespace SchemaChange

/-- The first member that does not go through. -/
theorem exists_of_mapM_eq_error {α β : Type} {f : α → Except Failure β} {xs : List α} {e : Failure}
    (h : xs.mapM f = .error e) :
    ∃ before x after, xs = before ++ x :: after ∧ (∀ y ∈ before, ∃ z, f y = .ok z) ∧
      f x = .error e := by
  induction xs with
  | nil => cases h
  | cons x xs ih =>
    rw [List.mapM_cons] at h
    rcases bind_eq_error_iff.mp h with hx | ⟨y, hx, h⟩
    · exact ⟨[], x, xs, rfl, fun y hy => absurd hy List.not_mem_nil, hx⟩
    · rcases bind_eq_error_iff.mp h with hxs | ⟨ys, -, h⟩
      · obtain ⟨before, x', after, rfl, hbefore, hx'⟩ := ih hxs
        refine ⟨x :: before, x', after, rfl, ?_, hx'⟩
        intro other hother
        rcases List.mem_cons.mp hother with rfl | hother
        · exact ⟨y, hx⟩
        · exact hbefore other hother
      · cases h

/-- A row that goes to something that fits is found by the first such thing. -/
theorem exists_first_of_find? {α β : Type} {f : α → Except Failure β} {xs : List α} {ys : List β}
    (h : xs.mapM f = .ok ys) {p : β → Bool} {y : β} (hy : ys.find? p = some y) :
    ∃ before x after, xs = before ++ x :: after ∧ f x = .ok y ∧
      ∀ other ∈ before, ∀ z, f other = .ok z → p z = false := by
  have hall := mapM_eq_ok_iff.mp h
  clear h
  induction hall with
  | nil => cases hy
  | @cons x z xs zs hx hrest ih =>
    by_cases hz : p z = true
    · rw [List.find?_cons_of_pos hz] at hy
      cases hy
      exact ⟨[], x, xs, rfl, hx, fun other hother => absurd hother List.not_mem_nil⟩
    · rw [List.find?_cons_of_neg hz] at hy
      obtain ⟨before, x', after, rfl, hx', hbefore⟩ := ih hy
      refine ⟨x :: before, x', after, rfl, hx', ?_⟩
      intro other hother z' hz'
      rcases List.mem_cons.mp hother with rfl | hother
      · rw [← Except.ok.inj (hx.symm.trans hz')]
        exact Bool.eq_false_of_not_eq_true hz
      · exact hbefore other hother z' hz'

namespace MySql

/-- The row lists a column of this name, in whatever case. -/
def ListsColumn (column : String) (row : Row) : Prop :=
  ∃ name : String, row.get "Field" = .ok name ∧ Text.sameName name column = true

/-- What stands before the definition in the statement that renames a column. -/
def renamingTokens (table column newName : String) : List Token :=
  keywords ["ALTER", "TABLE"] ++ (tableNameTokens table ++
    (keywords ["CHANGE", "COLUMN"] ++ [.name column, .name newName]))

/-- The statement gives the column its new name and the definition that the cells have of it. -/
def RenamesAs (cells : ColumnCells) (table column newName statement : String) : Prop :=
  ∃ head definition, statement = head ++ " " ++ definition ∧
    Token.read quoteMark head = some (renamingTokens table column newName) ∧
    cells.SaidBy definition.toList

theorem exists_renamingHead (table column newName : String) :
    ∃ head, Token.read quoteMark head = some (renamingTokens table column newName) ∧
      ∀ (d : MySql) (listed : ListedColumn),
        Dialect.renameColumn d table column newName listed = head ++ " " ++ restate listed := by
  let parts :=
    ["ALTER TABLE", quoteTable table, "CHANGE COLUMN", quoteName column, quoteName newName]
  refine ⟨Text.phrase parts, ?_, fun d listed => ?_⟩
  · have hnames := Phrased.cons (Written.name isMark column)
      (Phrased.single (Written.name isMark newName))
    have hchange := Phrased.consKeywords ["CHANGE", "COLUMN"] rfl (by decide) hnames
    exact (Phrased.consKeywords ["ALTER", "TABLE"] rfl (by decide)
      (Phrased.cons (Written.tableName isMark table) hchange)).written.read_eq
  · have hparts : parts ≠ [] := List.cons_ne_nil _ _
    exact Text.phrase_append_singleton hparts _

theorem renamesAs_renameColumn (d : MySql) (cells : ColumnCells)
    (table column newName name : String) :
    RenamesAs cells table column newName
      (Dialect.renameColumn d table column newName (cells.listed name)) := by
  obtain ⟨head, hhead, hstatement⟩ := exists_renamingHead table column newName
  exact ⟨head, restate (cells.listed name), hstatement d _, hhead, saidBy_restate cells name⟩

section

variable {σ : Type} (db : Database σ) (d : MySql) (table column newName : String) (s : σ)

/-- The listing has been asked for, and nothing has been executed. -/
def afterListing (result : Except Failure Unit) : Outcome σ (Except Failure Unit) :=
  let sql := Dialect.listColumns d table
  ⟨result, [.query sql [] (db.query sql [] s).1], (db.query sql [] s).2⟩

/-- The listing has been asked for, and then one statement has been executed. -/
def afterStatement (statement : String) : Outcome σ (Except Failure Unit) :=
  let sql := Dialect.listColumns d table
  let executed := db.execute statement [] (db.query sql [] s).2
  ⟨executed.1.map fun _ => (),
    [.query sql [] (db.query sql [] s).1, .execute statement [] executed.1], executed.2⟩

/-- How a column is renamed. -/
inductive Renaming : Outcome σ (Except Failure Unit) → Prop
  | unlisted {f : Failure} (hquery : (db.query (Dialect.listColumns d table) [] s).1 = .error f) :
      Renaming (afterListing db d table s (.error f))
  /-- The first row that does not decode is the failure. -/
  | undecoded {before after : List Row} {row : Row} {f : Failure}
      (hquery : (db.query (Dialect.listColumns d table) [] s).1 = .ok (before ++ row :: after))
      (hbefore : ∀ row ∈ before, ∃ listed, Catalog.decodeColumn d row = .ok listed)
      (hrow : Catalog.decodeColumn d row = .error f) :
      Renaming (afterListing db d table s (.error f))
  | missing {rows : List Row}
      (hquery : (db.query (Dialect.listColumns d table) [] s).1 = .ok rows)
      (hdecodes : ∀ row ∈ rows, ∃ listed, Catalog.decodeColumn d row = .ok listed)
      (hnone : ∀ row ∈ rows, ¬ ListsColumn column row) :
      Renaming (afterListing db d table s (.error (.missingColumn table column)))
  | renamed {before after : List Row} {row : Row} {cells : ColumnCells} {statement : String}
      (hquery : (db.query (Dialect.listColumns d table) [] s).1 = .ok (before ++ row :: after))
      (hdecodes : ∀ other ∈ before ++ row :: after,
        ∃ listed, Catalog.decodeColumn d other = .ok listed)
      (hbefore : ∀ other ∈ before, ¬ ListsColumn column other)
      (hrow : ListsColumn column row) (hcells : cells.In row)
      (hstatement : RenamesAs cells table column newName statement) :
      Renaming (afterStatement db d table s statement)

end

/-- The name of a row is that of the column it decodes to. -/
theorem listsColumn_iff {d : MySql} {row : Row} {listed : ListedColumn}
    (h : Catalog.decodeColumn d row = .ok listed) (column : String) :
    ListsColumn column row ↔ Text.sameName listed.name column = true := by
  obtain ⟨name, cells, hname, -, rfl⟩ := decodeColumn_eq_ok_iff.mp h
  constructor
  · rintro ⟨other, hother, hsame⟩
    rw [hname] at hother
    cases hother
    exact hsame
  · exact fun hsame => ⟨name, hname, hsame⟩

section

variable {σ : Type} (db : Database σ) (client : Client MySql) (table column newName : String)
  (s : σ)

theorem run_renameColumn :
    Action.run db (client.renameColumn table column newName) s =
      match db.listing (Dialect.listColumns client.dialect table)
          (Catalog.decodeColumn client.dialect) s with
      | .error f => afterListing db client.dialect table s (.error f)
      | .ok listed =>
        match listed.find? fun c => Text.sameName c.name column with
        | none => afterListing db client.dialect table s (.error (.missingColumn table column))
        | some definition => afterStatement db client.dialect table s
            (Dialect.renameColumn client.dialect table column newName definition) := by
  rw [Client.renameColumn_eq, Action.run_queryMap_bind]
  cases db.listing (Dialect.listColumns client.dialect table)
      (Catalog.decodeColumn client.dialect) s with
  | error f => rfl
  | ok listed =>
    dsimp only
    cases listed.find? fun c => Text.sameName c.name column with
    | none => rfl
    | some definition =>
      dsimp only
      rw [Client.run_change]
      rfl

/-- The one query lists the columns of the table, and what follows depends on its answer alone. A
column that is renamed keeps the definition that its row has. -/
theorem renameColumn_keeps_definition :
    Token.read quoteMark (Dialect.listColumns client.dialect table) =
        some (keywords ["SHOW", "COLUMNS", "FROM"] ++ tableNameTokens table) ∧
      Renaming db client.dialect table column newName s
        (Action.run db (client.renameColumn table column newName) s) := by
  refine ⟨(wording client.dialect).listColumns table, ?_⟩
  rw [run_renameColumn, Database.listing]
  cases hquery : (db.query (Dialect.listColumns client.dialect table) [] s).1 with
  | error f => exact .unlisted hquery
  | ok rows =>
    change Renaming db client.dialect table column newName s
      (match rows.mapM (Catalog.decodeColumn client.dialect) with
        | .error f => _
        | .ok listed => _)
    cases hlisted : rows.mapM (Catalog.decodeColumn client.dialect) with
    | error f =>
      obtain ⟨before, row, after, rfl, hbefore, hrow⟩ := exists_of_mapM_eq_error hlisted
      exact .undecoded hquery hbefore hrow
    | ok listed =>
      have hdecodes : ∀ row ∈ rows, ∃ own, Catalog.decodeColumn client.dialect row = .ok own :=
        fun row hrow => exists_of_mapM hlisted hrow
      dsimp only
      cases hfind : listed.find? fun c => Text.sameName c.name column with
      | none =>
        refine .missing hquery hdecodes fun row hrow hlists => ?_
        obtain ⟨own, hown⟩ := hdecodes row hrow
        have hmem := (mem_mapM_iff hlisted own).mpr ⟨row, hrow, hown⟩
        exact List.find?_eq_none.mp hfind own hmem ((listsColumn_iff hown column).mp hlists)
      | some definition =>
        obtain ⟨before, row, after, rfl, hrow, hbefore⟩ := exists_first_of_find? hlisted hfind
        have hsame : Text.sameName definition.name column = true := by
          have hfits := List.find?_some hfind
          exact hfits
        have hlists := (listsColumn_iff hrow column).mpr hsame
        have hearlier : ∀ other ∈ before, ¬ ListsColumn column other := by
          intro other hother hlists
          obtain ⟨own, hown⟩ := hdecodes other (List.mem_append_left _ hother)
          have hsame := (listsColumn_iff hown column).mp hlists
          rw [hbefore other hother own hown] at hsame
          cases hsame
        obtain ⟨name, cells, -, hcells, rfl⟩ := decodeColumn_eq_ok_iff.mp hrow
        exact .renamed hquery hdecodes hearlier hlists hcells
          (renamesAs_renameColumn client.dialect cells table column newName name)

/-- A listing with the column in another case, and then once more. -/
def listedTwice : List Row :=
  [⟨[("Field", .text "id"), ("Type", .text "int"), ("Null", .text "NO"), ("Default", .null),
      ("Extra", .text "auto_increment")]⟩,
    ⟨[("Field", .text "Made"), ("Type", .text "datetime(3)"), ("Null", .text "Yes"),
      ("Default", .text "now(3)"), ("Extra", .text "DEFAULT_GENERATED  on update now(3)")]⟩,
    ⟨[("Field", .text "made"), ("Type", .text "text"), ("Null", .text "NO"), ("Default", .null),
      ("Extra", .null)]⟩]

example :
    (Action.run Recording.database (Client.renameColumn ⟨({} : MySql), {}⟩ "a" "MADE" "born")
      { script := [("SHOW COLUMNS FROM", listedTwice)] }).statements =
      [("ALTER TABLE `a` CHANGE COLUMN `MADE` `born` datetime(3) NULL DEFAULT (now(3)) " ++
        "ON UPDATE NOW(3)", [])] := by
  decide +kernel

end

end MySql

end SchemaChange
