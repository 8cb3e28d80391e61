import SchemaChange.Dialogue

/-!
How actions run. An action runs as its parts do, one after the other, and a part that fails is the
last. What an outcome tells is read off its exchanges: which calls failed, which statements were
executed, and which rows were read.
-/
namespace SchemaChange

namespace Exchange

/-- The failure that the database answered. -/
def failure? : Exchange → Option Failure
  | query _ _ (.error f) => some f
  | execute _ _ (.error f) => some f
  | _ => none

/-- The statement that was to be executed. -/
def statement? : Exchange → Option (String × List Value)
  | query .. => none
  | execute sql params _ => some (sql, params)

def rows : Exchange → List Row
  | query _ _ (.ok rows) => rows
  | _ => []

end Exchange

namespace Outcome

variable {σ α β : Type}

/-- The statements that were executed, those that failed among them. -/
def statements (o : Outcome σ α) : List (String × List Value) :=
  o.exchanges.filterMap Exchange.statement?

def rowsRead (o : Outcome σ α) : List Row := o.exchanges.flatMap Exchange.rows

/-- Goes on behind an outcome, unless it is a failure. -/
def andThen (o : Outcome σ (Except Failure α)) (next : α → σ → Outcome σ (Except Failure β)) :
    Outcome σ (Except Failure β) :=
  match o.result with
  | .ok a =>
    let later := next a o.state
    ⟨later.result, o.exchanges ++ later.exchanges, later.state⟩
  | .error f => ⟨.error f, o.exchanges, o.state⟩

@[simp] theorem andThen_ok (a : α) (exchanges : List Exchange) (s : σ)
    (next : α → σ → Outcome σ (Except Failure β)) :
    (Outcome.mk (.ok a) exchanges s).andThen next =
      ⟨(next a s).result, exchanges ++ (next a s).exchanges, (next a s).state⟩ := rfl

@[simp] theorem andThen_error (f : Failure) (exchanges : List Exchange) (s : σ)
    (next : α → σ → Outcome σ (Except Failure β)) :
    (Outcome.mk (.error f) exchanges s).andThen next = ⟨.error f, exchanges, s⟩ := rfl

end Outcome

namespace Action

variable {σ α β : Type} (db : Database σ) (s : σ)

theorem run_pure (a : α) : run db (pure a) s = ⟨.ok a, [], s⟩ := rfl

theorem run_liftM (x : Except Failure α) : run db (liftM x) s = ⟨x, [], s⟩ := rfl

theorem run_query (sql : String) (params : List Value) :
    run db (query sql params) s =
      ⟨(db.query sql params s).1, [.query sql params (db.query sql params s).1],
        (db.query sql params s).2⟩ := rfl

theorem run_execute (sql : String) (params : List Value) :
    run db (execute sql params) s =
      ⟨(db.execute sql params s).1, [.execute sql params (db.execute sql params s).1],
        (db.execute sql params s).2⟩ := rfl

theorem run_bind (x : Action α) (f : α → Action β) :
    run db (x >>= f) s = (run db x s).andThen fun a s => run db (f a) s := by
  change Dialogue.run db (Dialogue.bind (ExceptT.run x) (ExceptT.bindCont f)) s = _
  rw [Dialogue.run_bind]
  unfold run Outcome.andThen
  generalize Dialogue.run db (ExceptT.run x) s = o
  obtain ⟨result, exchanges, s'⟩ := o
  cases result with
  | ok a => rfl
  | error e => simp [ExceptT.bindCont, Dialogue.run, pure]

theorem run_map (f : α → β) (x : Action α) :
    run db (f <$> x) s = (run db x s).andThen fun a s => ⟨.ok (f a), [], s⟩ := by
  rw [← bind_pure_comp, run_bind]
  rfl

theorem exchanges_map (f : α → β) (x : Action α) :
    (run db (f <$> x) s).exchanges = (run db x s).exchanges := by
  rw [run_map]
  generalize run db x s = o
  obtain ⟨result, exchanges, s'⟩ := o
  cases result <;> simp

end Action

end SchemaChange
