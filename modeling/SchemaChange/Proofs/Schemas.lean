import Mathlib.Data.Set.Insert
import SchemaChange.Dialogue
import SchemaChange.Proofs.TableText

/-!
A database of several schemas, one of which is the current one, as its clients see it. A listing
answers the tables of the schema that it names, or of the current one. A statement that creates a
table puts it into the schema in front of its name, or into the current one, unless it is there
already; the statement is known by its tokens alone.
-/
namespace SchemaChange

structure Schemas where
  current : String
  tables : String → Set String

namespace Schemas

/-- The schema that is meant. -/
def place (schemas : Schemas) (schema? : Option String) : String := schema?.getD schemas.current

/-- A table of the name, in whatever case, is in the schema. -/
def Has (schemas : Schemas) (schema table : String) : Prop :=
  ∃ name ∈ schemas.tables schema, Text.sameName name table = true

def add (schemas : Schemas) (schema table : String) : Schemas :=
  { schemas with
    tables := fun other =>
      if other = schema then insert table (schemas.tables other) else schemas.tables other }

variable (schemas : Schemas)

@[simp] theorem place_add (schema table : String) (schema? : Option String) :
    (schemas.add schema table).place schema? = schemas.place schema? := rfl

theorem tables_add (schema table other : String) :
    (schemas.add schema table).tables other =
      if other = schema then insert table (schemas.tables other) else schemas.tables other := rfl

theorem has_add_self (schema table : String) : (schemas.add schema table).Has schema table := by
  refine ⟨table, ?_, Text.sameName_refl table⟩
  rw [tables_add, if_pos rfl]
  exact Set.mem_insert table _

/-- The other schemas stay as they are. -/
theorem has_add_iff_of_ne {schema other : String} (h : other ≠ schema) (table name : String) :
    (schemas.add schema table).Has other name ↔ schemas.Has other name := by
  rw [Has, tables_add, if_neg h, Has]

end Schemas

/-- The schema and the name of the table that a statement creates. -/
def createdTable? : List Token → Option (Option String × String)
  | .word "CREATE" :: .word "TABLE" :: .name schema :: .sign '.' :: .name table :: .sign '(' :: _ =>
    some (some schema, table)
  | .word "CREATE" :: .word "TABLE" :: .name table :: .sign '(' :: _ => some (none, table)
  | _ => none

/-- The database shows and creates tables as a database of several schemas does. -/
structure Hosts {σ δ : Type} [Catalog δ] (d : δ) (db : Database σ) (view : σ → Schemas) :
    Prop where
  lists (schema? : Option String) (s : σ) : ∃ rows names s',
    db.query (Dialect.listTables d schema?) [] s = (.ok rows, s') ∧
      rows.mapM (Catalog.decodeTable d) = .ok names ∧
      (∀ name, name ∈ names ↔ name ∈ (view s).tables ((view s).place schema?)) ∧
      view s' = view s
  creates {sql : String} {tokens : List Token} {schema? : Option String} {table : String} (s : σ) :
    Token.read (Dialect.quoteMark d) sql = some tokens →
      createdTable? tokens = some (schema?, table) →
      match db.execute sql [] s with
      | (.ok _, s') =>
        table ∉ (view s).tables ((view s).place schema?) ∧
          view s' = (view s).add ((view s).place schema?) table
      | (.error _, s') => view s' = view s

namespace Text.QualifiedName

theorem splitLast_of_not_mem {s : List Char} (h : '.' ∉ s) : splitLast s = (none, s) := by
  induction s with
  | nil => rfl
  | cons c s ih =>
    have hc : c ≠ '.' := fun heq => h (heq ▸ List.mem_cons_self ..)
    have hs : '.' ∉ s := fun hmem => h (List.mem_cons_of_mem c hmem)
    rw [splitLast, ih hs]
    exact if_neg hc

theorem splitLast_append_dot (s : List Char) {t : List Char} (h : '.' ∉ t) :
    splitLast (s ++ '.' :: t) = (some s, t) := by
  induction s with
  | nil =>
    rw [List.nil_append, splitLast, splitLast_of_not_mem h]
    rfl
  | cons c s ih =>
    rw [List.cons_append, splitLast, ih]

/-- A name with at most one dot is taken apart in the same way for quoting and for listing. -/
theorem components_eq {name : String} (h : name.toList.count '.' ≤ 1) :
    components name = (schema? name).toList ++ [table name] := by
  unfold components schema? table
  generalize name.toList = s at h
  by_cases hmem : '.' ∈ s
  · obtain ⟨a, b, rfl⟩ := List.append_of_mem hmem
    rw [List.count_append, List.count_cons_self] at h
    have ha : '.' ∉ a := List.count_eq_zero.mp (by omega)
    have hb : '.' ∉ b := List.count_eq_zero.mp (by omega)
    rw [List.splitOn_append_cons_self_of_not_mem ha, List.splitOn_eq_singleton hb,
      splitLast_append_dot a hb]
    rfl
  · rw [List.splitOn_eq_singleton hmem, splitLast_of_not_mem hmem]
    rfl

end Text.QualifiedName

/-- The tokens of the statement that creates the ledger. -/
def ledgerTokens (table : String) : List Token :=
  keywords ["CREATE", "TABLE"] ++ (tableNameTokens table ++
    inParentheses (listed [keywords ["version", "BIGINT", "UNSIGNED", "NOT", "NULL"],
      keywords ["start_time", "TIMESTAMP", "NOT", "NULL"],
      keywords ["end_time", "TIMESTAMP", "NOT", "NULL"]])) ++ [.sign ';']

variable {δ : Type} [Dialect δ] [Spelled δ]

theorem read_createLedger (d : δ) (table : String) :
    Token.read (Dialect.quoteMark d) (Statement.createLedger d table) =
      some (ledgerTokens table) := by
  have hversion : Written (Dialect.quoteMark d) "version BIGINT UNSIGNED NOT NULL"
      (keywords ["version", "BIGINT", "UNSIGNED", "NOT", "NULL"]) :=
    Written.keywords _ rfl (by decide)
  have hstart : Written (Dialect.quoteMark d) "start_time TIMESTAMP NOT NULL"
      (keywords ["start_time", "TIMESTAMP", "NOT", "NULL"]) :=
    Written.keywords _ rfl (by decide)
  have hfinish : Written (Dialect.quoteMark d) "end_time TIMESTAMP NOT NULL"
      (keywords ["end_time", "TIMESTAMP", "NOT", "NULL"]) :=
    Written.keywords _ rfl (by decide)
  have hcolumns := Written.clauseList (.cons hversion (.cons hstart (.cons hfinish .nil)))
  have hphrase := (Phrased.consKeywords ["CREATE", "TABLE"] rfl (by decide)
    (Phrased.cons (Spelled.written_table d table)
      (Phrased.single hcolumns.parenthesized))).written
  exact hphrase.terminated.read_eq

theorem createdTable?_ledgerTokens {table : String} (h : table.toList.count '.' ≤ 1) :
    createdTable? (ledgerTokens table) =
      some (Text.QualifiedName.schema? table, Text.QualifiedName.table table) := by
  unfold ledgerTokens tableNameTokens
  rw [Text.QualifiedName.components_eq h]
  cases Text.QualifiedName.schema? table with
  | none => rfl
  | some schema => rfl

end SchemaChange
