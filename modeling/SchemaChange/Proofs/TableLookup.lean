import SchemaChange.Proofs.ClientRun
import SchemaChange.Proofs.Plan
import SchemaChange.Proofs.Schemas

/-!
Looking for a table. One query lists the tables of a schema, and the table is found when one of them
has its name, in whatever case. On a database of several schemas this tells whether the schema that
is meant has the table.
-/
namespace SchemaChange

/-- The database shows its tables as a database of several schemas does. -/
structure ShowsTables {σ δ : Type} [Catalog δ] (d : δ) (db : Database σ) (view : σ → Schemas) :
    Prop where
  lists (schema? : Option String) (s : σ) : ∃ rows names s',
    db.query (Dialect.listTables d schema?) [] s = (.ok rows, s') ∧
      rows.mapM (Catalog.decodeTable d) = .ok names ∧
      (∀ name, name ∈ names ↔ name ∈ (view s).tables ((view s).place schema?)) ∧
      view s' = view s

variable {σ δ : Type} [Catalog δ] {db : Database σ} {view : σ → Schemas}

theorem Hosts.showsTables {d : δ} (h : Hosts d db view) : ShowsTables d db view := ⟨h.lists⟩

theorem isListed_iff {table schema : String} {names : List String} {schemas : Schemas}
    (h : ∀ name, name ∈ names ↔ name ∈ schemas.tables schema) :
    isListed table names = true ↔ schemas.Has schema (Text.QualifiedName.table table) := by
  unfold isListed Schemas.Has
  simp only [List.any_eq_true, h]

namespace Client

variable (client : Client δ) (table : String)

/-- What is found depends on the listed names alone. -/
theorem run_hasTable_of_listed {rows : List Row} {names : List String} {s s' : σ}
    (hquery : db.query (Dialect.listTables client.dialect (lookupSchema? client table)) [] s =
      (.ok rows, s'))
    (hnames : rows.mapM (Catalog.decodeTable client.dialect) = .ok names) :
    Action.run db (client.hasTable table) s =
      ⟨.ok (isListed table names), [.query (Dialect.listTables client.dialect
        (lookupSchema? client table)) [] (.ok rows)], s'⟩ := by
  change Action.run db (client.tablesIn (lookupSchema? client table) >>= _) s = _
  rw [Action.run_bind, tablesIn, Action.run_queryMap_ok db s hquery hnames]
  rfl

/-- Looking for a table asks once and changes nothing. -/
theorem run_hasTable (shows : ShowsTables client.dialect db view) (s : σ) :
    ∃ found exchanges s', Action.run db (client.hasTable table) s = ⟨.ok found, exchanges, s'⟩ ∧
      (found = true ↔ (view s).Has ((view s).place (lookupSchema? client table))
        (Text.QualifiedName.table table)) ∧
      exchanges.filterMap Exchange.statement? = [] ∧ view s' = view s := by
  obtain ⟨rows, names, s', hquery, hdecode, hnames, hview⟩ :=
    shows.lists (lookupSchema? client table) s
  exact ⟨_, _, s', client.run_hasTable_of_listed table hquery hdecode, isListed_iff hnames, rfl,
    hview⟩

end Client

end SchemaChange
