import SchemaChange.Row

/-!
Work on a database is a dialogue: it asks queries and gives statements one after the other, and what
it does next may depend on every answer. A failure ends the work, unless a dialogue looks at the
answer itself. Any database can hold the other side of a dialogue: all it needs is an answer to each
call, from which state it likes.
-/
namespace SchemaChange

inductive Dialogue (α : Type) where
  | done (result : α)
  | query (sql : String) (params : List Value)
      (next : Except Failure (List Row) → Dialogue α)
  | execute (sql : String) (params : List Value) (next : Except Failure UInt64 → Dialogue α)

namespace Dialogue

def bind {α β : Type} : Dialogue α → (α → Dialogue β) → Dialogue β
  | done result, f => f result
  | query sql params next, f => query sql params fun answer => (next answer).bind f
  | execute sql params next, f => execute sql params fun answer => (next answer).bind f

instance : Monad Dialogue where
  pure := done
  bind := bind

theorem bind_done {α : Type} (d : Dialogue α) : d.bind done = d := by
  induction d with
  | done result => rfl
  | query sql params next ih => exact congrArg (query sql params) (funext ih)
  | execute sql params next ih => exact congrArg (execute sql params) (funext ih)

theorem bind_assoc {α β γ : Type} (d : Dialogue α) (f : α → Dialogue β) (g : β → Dialogue γ) :
    (d.bind f).bind g = d.bind fun a => (f a).bind g := by
  induction d with
  | done result => rfl
  | query sql params next ih => exact congrArg (query sql params) (funext ih)
  | execute sql params next ih => exact congrArg (execute sql params) (funext ih)

instance : LawfulMonad Dialogue :=
  LawfulMonad.mk' Dialogue bind_done (fun _ _ => rfl) bind_assoc

end Dialogue

/-- Work that may fail. -/
abbrev Action := ExceptT Failure Dialogue

namespace Action

def query (sql : String) (params : List Value := []) : Action (List Row) :=
  Dialogue.query sql params .done

def execute (sql : String) (params : List Value := []) : Action UInt64 :=
  Dialogue.execute sql params .done

/-- The rows of a query, each decoded; the first row that does not decode is the failure. -/
def queryMap {α : Type} (sql : String) (decodeRow : Row → Except Failure α) : Action (List α) := do
  let rows ← query sql
  liftM (rows.mapM decodeRow)

end Action

/-- A call that a database has answered. -/
inductive Exchange where
  | query (sql : String) (params : List Value) (answer : Except Failure (List Row))
  | execute (sql : String) (params : List Value) (answer : Except Failure UInt64)

/-- The other side of a dialogue, with states of type `σ`. -/
structure Database (σ : Type) where
  query : String → List Value → σ → Except Failure (List Row) × σ
  execute : String → List Value → σ → Except Failure UInt64 × σ

/-- How a dialogue went: its result, the calls in order and the state it left. -/
structure Outcome (σ α : Type) where
  result : α
  exchanges : List Exchange
  state : σ

def Outcome.after {σ α : Type} (exchange : Exchange) (o : Outcome σ α) : Outcome σ α :=
  { o with exchanges := exchange :: o.exchanges }

/-- Holds the dialogue with a database. -/
def Dialogue.run {σ α : Type} (db : Database σ) : Dialogue α → σ → Outcome σ α
  | done result, s => ⟨result, [], s⟩
  | query sql params next, s =>
    let (answer, s) := db.query sql params s
    ((next answer).run db s).after (.query sql params answer)
  | execute sql params next, s =>
    let (answer, s) := db.execute sql params s
    ((next answer).run db s).after (.execute sql params answer)

/-- Holds the dialogue of an action, whose result may be a failure. -/
def Action.run {σ α : Type} (db : Database σ) (action : Action α) (s : σ) :
    Outcome σ (Except Failure α) :=
  Dialogue.run db (ExceptT.run action) s

/-- A longer dialogue is held by going on where its first part ended. -/
theorem Dialogue.run_bind {σ α β : Type} (db : Database σ) (d : Dialogue α) (f : α → Dialogue β)
    (s : σ) :
    (d.bind f).run db s =
      let first := d.run db s
      let second := (f first.result).run db first.state
      ⟨second.result, first.exchanges ++ second.exchanges, second.state⟩ := by
  induction d generalizing s with
  | done result => rfl
  | query sql params next ih => simp [bind, run, ih, Outcome.after]
  | execute sql params next ih => simp [bind, run, ih, Outcome.after]

end SchemaChange
