import SchemaChange.Operation
import SchemaChange.Proofs.Outcome

/-!
How the parts of an operation run. What is made of the rows of a query is known as soon as the
query has been answered, and a statement that changes the schema is one call. On a database that
accepts every statement, statements in a row are all executed.
-/
namespace SchemaChange

/-- Every statement succeeds, in whatever state. -/
def Database.Accepts {σ : Type} (db : Database σ) : Prop :=
  ∀ sql params s, ∃ count s', db.execute sql params s = (.ok count, s')

/-- What a query lists: its rows, each decoded. -/
def Database.listing {σ α : Type} (db : Database σ) (sql : String)
    (decodeRow : Row → Except Failure α) (s : σ) : Except Failure (List α) :=
  (db.query sql [] s).1 >>= fun rows => rows.mapM decodeRow

namespace Action

variable {σ α : Type} (db : Database σ) (s : σ)

/-- One call, and no other whatever the rows are. -/
theorem run_queryMap (sql : String) (decodeRow : Row → Except Failure α) :
    run db (queryMap sql decodeRow) s =
      ⟨db.listing sql decodeRow s, [.query sql [] (db.query sql [] s).1],
        (db.query sql [] s).2⟩ := by
  rw [queryMap, run_bind, run_query, Database.listing]
  obtain ⟨answer, s'⟩ := db.query sql [] s
  cases answer with
  | error f => rfl
  | ok rows => rfl

/-- Work on a listing begins with one call, and ends with it where the listing fails. -/
theorem run_queryMap_bind {β : Type} (sql : String) (decodeRow : Row → Except Failure α)
    (f : List α → Action β) :
    run db (queryMap sql decodeRow >>= f) s =
      match db.listing sql decodeRow s with
      | .error e => ⟨.error e, [.query sql [] (db.query sql [] s).1], (db.query sql [] s).2⟩
      | .ok xs =>
        (run db (f xs) (db.query sql [] s).2).after (.query sql [] (db.query sql [] s).1) := by
  rw [run_bind, run_queryMap]
  cases db.listing sql decodeRow s with
  | error e => rfl
  | ok xs => rfl

/-- What follows a statement that succeeds is known from its count. -/
theorem run_execute_bind {β : Type} {sql : String} {params : List Value} {count : UInt64} {s' : σ}
    (h : db.execute sql params s = (.ok count, s')) (f : UInt64 → Action β) :
    run db (execute sql params >>= f) s =
      (run db (f count) s').after (.execute sql params (.ok count)) := by
  rw [run_bind, run_execute, h]
  rfl

/-- The rows that a query has are decoded. -/
theorem run_queryMap_ok {sql : String} {decodeRow : Row → Except Failure α} {rows : List Row}
    {xs : List α} {s' : σ} (h : db.query sql [] s = (.ok rows, s'))
    (hrows : rows.mapM decodeRow = .ok xs) :
    run db (queryMap sql decodeRow) s = ⟨.ok xs, [.query sql [] (.ok rows)], s'⟩ := by
  rw [run_queryMap, Database.listing, h]
  exact congrArg (fun result => Outcome.mk result _ _) hrows

end Action

namespace Client

section

variable {δ : Type} [Catalog δ] (client : Client δ) (table column : String)

theorem hasColumn_eq :
    client.hasColumn table column = (do
      let listed ← Action.queryMap (Dialect.listColumns client.dialect table)
        (Catalog.decodeColumn client.dialect)
      return (listed.find? fun c => Text.sameName c.name column).isSome) := by
  rw [hasColumn, column?, columns, bind_assoc]
  rfl

/-- A column that is not found cannot be renamed. -/
theorem renameColumn_eq (newName : String) :
    client.renameColumn table column newName = (do
      let listed ← Action.queryMap (Dialect.listColumns client.dialect table)
        (Catalog.decodeColumn client.dialect)
      match listed.find? fun c => Text.sameName c.name column with
      | some definition =>
        change (Dialect.renameColumn client.dialect table column newName definition)
      | none => throw (.missingColumn table column)) := by
  rw [renameColumn, column?, columns, bind_assoc]
  rfl

end

variable {σ : Type} (db : Database σ) (s : σ)

theorem run_change (sql : String) :
    Action.run db (change sql) s =
      ⟨(db.execute sql [] s).1.map fun _ => (), [.execute sql [] (db.execute sql [] s).1],
        (db.execute sql [] s).2⟩ := by
  rw [change, Action.run_bind, Action.run_execute]
  obtain ⟨answer, s'⟩ := db.execute sql [] s
  cases answer with
  | error f => rfl
  | ok count => rfl

variable {db} in
/-- Changes in a row are all made, each by its statement. -/
theorem run_forM_change (haccepts : db.Accepts) {α : Type} (statement : α → String) (xs : List α) :
    ∃ exchanges s', Action.run db (xs.forM fun x => change (statement x)) s =
        ⟨.ok (), exchanges, s'⟩ ∧
      exchanges.filterMap Exchange.statement? = xs.map fun x => (statement x, []) := by
  induction xs generalizing s with
  | nil => exact ⟨[], s, rfl, rfl⟩
  | cons x xs ih =>
    obtain ⟨count, s', hexecute⟩ := haccepts (statement x) [] s
    obtain ⟨exchanges, s'', hrun, hstatements⟩ := ih s'
    refine ⟨.execute (statement x) [] (.ok count) :: exchanges, s'', ?_, ?_⟩
    · change Action.run db (change (statement x) >>= fun _ => xs.forM _) s = _
      rw [Action.run_bind, run_change, hexecute]
      change (Outcome.mk (.ok ()) _ s').andThen _ = _
      rw [Outcome.andThen_ok, hrun]
      rfl
    · rw [List.filterMap_cons, hstatements]
      rfl

end Client

end SchemaChange
