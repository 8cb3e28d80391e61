import SchemaChange.Proofs.Plan

/-!
An operation ends at the first call that fails, and passes on what the database answered there. A
failure that the client finds by itself, in a description, in a row or for want of what was asked
for, comes before anything is executed. An operation that succeeds has executed what its plan says,
each statement once and in order.
-/
namespace SchemaChange

def AllSucceeded (exchanges : List Exchange) : Prop := ∀ x ∈ exchanges, x.failure? = none

/-- The last call is the first that failed. -/
def StoppedBy (f : Failure) (exchanges : List Exchange) : Prop :=
  ∃ earlier last, exchanges = earlier ++ [last] ∧ AllSucceeded earlier ∧ last.failure? = some f

theorem AllSucceeded.nil : AllSucceeded [] := by simp [AllSucceeded]

theorem AllSucceeded.cons {x : Exchange} {exchanges : List Exchange} (hx : x.failure? = none)
    (h : AllSucceeded exchanges) : AllSucceeded (x :: exchanges) := by
  intro y hy
  rcases List.mem_cons.mp hy with rfl | hy
  · exact hx
  · exact h y hy

theorem StoppedBy.single {x : Exchange} {f : Failure} (hx : x.failure? = some f) :
    StoppedBy f [x] :=
  ⟨[], x, rfl, AllSucceeded.nil, hx⟩

theorem StoppedBy.cons {x : Exchange} {f : Failure} {exchanges : List Exchange}
    (hx : x.failure? = none) (h : StoppedBy f exchanges) : StoppedBy f (x :: exchanges) := by
  obtain ⟨earlier, last, rfl, hearlier, hlast⟩ := h
  exact ⟨x :: earlier, last, rfl, hearlier.cons hx, hlast⟩

theorem AllSucceeded.append {earlier later : List Exchange} (hearlier : AllSucceeded earlier)
    (hlater : AllSucceeded later) : AllSucceeded (earlier ++ later) := by
  intro x hx
  rcases List.mem_append.mp hx with hx | hx
  · exact hearlier x hx
  · exact hlater x hx

theorem StoppedBy.append {f : Failure} {earlier later : List Exchange} (h : StoppedBy f later)
    (hearlier : AllSucceeded earlier) : StoppedBy f (earlier ++ later) := by
  obtain ⟨between, last, rfl, hbetween, hlast⟩ := h
  exact ⟨earlier ++ between, last, (List.append_assoc ..).symm, hearlier.append hbetween, hlast⟩

namespace Outcome

variable {σ α : Type}

/-- How statements go that are executed in order: all of them, or up to the first that fails. -/
def Executes (o : Outcome σ (Except Failure α)) (statements : List (String × List Value)) : Prop :=
  match o.result with
  | .ok _ => AllSucceeded o.exchanges ∧ o.statements = statements
  | .error f => StoppedBy f o.exchanges ∧ o.statements <+: statements

/-- How an action goes that plans its statements from the rows it has read: it succeeds when all of
them have been executed, ends at the first call that fails, or is given up untouched. -/
def KeepsTo (o : Outcome σ (Except Failure α))
    (planned : List Row → Except Failure (List (String × List Value))) : Prop :=
  match o.result with
  | .ok _ => AllSucceeded o.exchanges ∧ planned o.rowsRead = .ok o.statements
  | .error f =>
    (StoppedBy f o.exchanges ∧
      (o.statements = [] ∨
        ∃ statements, planned o.rowsRead = .ok statements ∧ o.statements <+: statements)) ∨
    (AllSucceeded o.exchanges ∧ o.statements = [])

theorem Executes.cons {o : Outcome σ (Except Failure (List UInt64))}
    {rest : List (String × List Value)} (h : o.Executes rest) (sql : String) (params : List Value)
    (count : UInt64) :
    (Outcome.mk (o.result.map (count :: ·)) (.execute sql params (.ok count) :: o.exchanges)
      o.state).Executes ((sql, params) :: rest) := by
  unfold Executes at h ⊢
  cases hresult : o.result with
  | ok counts =>
    rw [hresult] at h
    exact ⟨h.1.cons rfl, congrArg ((sql, params) :: ·) h.2⟩
  | error f =>
    rw [hresult] at h
    exact ⟨h.1.cons rfl, List.cons_prefix_cons.mpr ⟨rfl, h.2⟩⟩

/-- A query in front is no statement. -/
theorem Executes.after_query {o : Outcome σ (Except Failure α)}
    {statements : List (String × List Value)} (h : o.Executes statements) (sql : String)
    (params : List Value) (rows : List Row) :
    (o.after (.query sql params (.ok rows))).Executes statements := by
  unfold Executes at h ⊢
  change match o.result with | .ok _ => _ | .error f => _
  cases hresult : o.result with
  | ok a =>
    rw [hresult] at h
    exact ⟨h.1.cons rfl, h.2⟩
  | error f =>
    rw [hresult] at h
    exact ⟨h.1.cons rfl, h.2⟩

theorem Executes.isPrefix {o : Outcome σ (Except Failure α)}
    {statements : List (String × List Value)} (h : o.Executes statements) :
    o.statements <+: statements := by
  unfold Executes at h
  cases hresult : o.result with
  | ok a =>
    rw [hresult] at h
    exact h.2 ▸ List.prefix_refl _
  | error f =>
    rw [hresult] at h
    exact h.2

theorem Executes.statements_eq {o : Outcome σ (Except Failure α)}
    {statements : List (String × List Value)} (h : o.Executes statements)
    (hall : AllSucceeded o.exchanges) : o.statements = statements := by
  unfold Executes at h
  cases hresult : o.result with
  | ok a =>
    rw [hresult] at h
    exact h.2
  | error f =>
    rw [hresult] at h
    obtain ⟨⟨earlier, last, heq, -, hlast⟩, -⟩ := h
    have hnone := hall last (by simp [heq])
    rw [hlast] at hnone
    cases hnone

end Outcome

namespace Plan

variable {σ α : Type} (db : Database σ)

theorem run_executeAll_cons (sql : String) (params : List Value)
    (rest : List (String × List Value)) (s : σ) :
    Action.run db (executeAll ((sql, params) :: rest)) s =
      match db.execute sql params s with
      | (.error f, s) => ⟨.error f, [.execute sql params (.error f)], s⟩
      | (.ok count, s) =>
        let later := Action.run db (executeAll rest) s
        ⟨later.result.map (count :: ·), .execute sql params (.ok count) :: later.exchanges,
          later.state⟩ := by
  simp only [executeAll, List.mapM_cons, Action.run_bind, Action.run_execute, Action.run_pure]
  obtain ⟨answer, s'⟩ := db.execute sql params s
  cases answer with
  | error f => rfl
  | ok count =>
    simp only [Outcome.andThen_ok]
    generalize Action.run db (List.mapM _ rest) s' = later
    obtain ⟨result, exchanges, s''⟩ := later
    cases result <;> simp [Except.map]

theorem executes_executeAll (statements : List (String × List Value)) (s : σ) :
    (Action.run db (executeAll statements) s).Executes statements := by
  induction statements generalizing s with
  | nil => exact ⟨AllSucceeded.nil, rfl⟩
  | cons statement rest ih =>
    obtain ⟨sql, params⟩ := statement
    rw [run_executeAll_cons]
    obtain ⟨answer, s'⟩ := db.execute sql params s
    cases answer with
    | error f =>
      refine ⟨StoppedBy.single rfl, ?_⟩
      simp [Outcome.statements, Exchange.statement?]
    | ok count => exact (ih s').cons sql params count

theorem rowsRead_executeAll (statements : List (String × List Value)) (s : σ) :
    (Action.run db (executeAll statements) s).rowsRead = [] := by
  induction statements generalizing s with
  | nil => rfl
  | cons statement rest ih =>
    obtain ⟨sql, params⟩ := statement
    rw [run_executeAll_cons]
    obtain ⟨answer, s'⟩ := db.execute sql params s
    cases answer with
    | error f => rfl
    | ok count => exact ih s'

theorem run_action (plan : Plan α) (s : σ) :
    Action.run db plan.action s =
      (Action.run db plan.ask s).andThen fun rows s =>
        (Outcome.mk (plan.settle rows) [] s).andThen fun steps s =>
          (Action.run db (executeAll steps.statements) s).andThen fun counts s =>
            ⟨.ok (steps.answer counts), [], s⟩ := by
  simp only [action, Action.run_bind, Action.run_liftM, Action.run_pure]

/-- How a plan goes on when its query has been answered. -/
theorem run_changing {sql : String} {statements : List Row → Except Failure (List String)}
    {rows : List Row} {s s' : σ} (hquery : db.query sql [] s = (.ok rows, s')) :
    Action.run db (changing sql statements).action s =
      match statements rows with
      | .error f => ⟨.error f, [.query sql [] (.ok rows)], s'⟩
      | .ok sqls =>
        let later := Action.run db (executeAll (sqls.map (·, []))) s'
        ⟨later.result.map fun _ => .done, .query sql [] (.ok rows) :: later.exchanges,
          later.state⟩ := by
  rw [run_action]
  simp only [ask, changing, Action.run_query, hquery, Outcome.andThen_ok]
  cases statements rows with
  | error f => rfl
  | ok sqls =>
    simp only [Except.map, Outcome.andThen_ok, List.nil_append]
    generalize Action.run db (executeAll _) s' = later
    obtain ⟨result, exchanges, s''⟩ := later
    cases result <;> simp

theorem run_changing_error {sql : String} {statements : List Row → Except Failure (List String)}
    {rows : List Row} {f : Failure} {s s' : σ}
    (hquery : db.query sql [] s = (.ok rows, s')) (herror : statements rows = .error f) :
    Action.run db (changing sql statements).action s =
      ⟨.error f, [.query sql [] (.ok rows)], s'⟩ := by
  rw [run_changing db hquery, herror]

theorem executes_changing {sql : String} {statements : List Row → Except Failure (List String)}
    {rows : List Row} {sqls : List String} {s s' : σ}
    (hquery : db.query sql [] s = (.ok rows, s')) (hsqls : statements rows = .ok sqls) :
    (Action.run db (changing sql statements).action s).Executes (sqls.map (·, [])) := by
  have hexecutes := executes_executeAll db (sqls.map (·, [])) s'
  rw [run_changing db hquery, hsqls]
  dsimp only
  generalize Action.run db (executeAll _) s' = later at hexecutes ⊢
  obtain ⟨result, exchanges, s''⟩ := later
  cases result with
  | ok counts => exact ⟨hexecutes.1.cons rfl, hexecutes.2⟩
  | error f => exact ⟨hexecutes.1.cons rfl, hexecutes.2⟩

/-- Once the rows are there, either nothing is executed or the statements that they settle. -/
theorem keepsTo_settled (plan : Plan α) (rows : List Row) (earlier : List Exchange)
    (hall : AllSucceeded earlier) (hrows : earlier.flatMap Exchange.rows = rows)
    (hnone : earlier.filterMap Exchange.statement? = []) (s : σ) :
    ((Outcome.mk (.ok rows) earlier s).andThen fun rows s =>
      (Outcome.mk (plan.settle rows) [] s).andThen fun steps s =>
        (Action.run db (executeAll steps.statements) s).andThen fun counts s =>
          ⟨.ok (steps.answer counts), [], s⟩).KeepsTo plan.planned := by
  have hplanned : plan.planned rows = (plan.settle rows).map (·.statements) := rfl
  cases hsettle : plan.settle rows with
  | error f =>
    simp only [Outcome.andThen_ok, hsettle, Outcome.andThen_error, List.append_nil]
    exact Or.inr ⟨hall, hnone⟩
  | ok steps =>
    rw [hsettle] at hplanned
    have hexecutes := executes_executeAll db steps.statements s
    have hread := rowsRead_executeAll db steps.statements s
    simp only [Outcome.andThen_ok, hsettle, List.nil_append]
    generalize Action.run db (executeAll steps.statements) s = o at hexecutes hread ⊢
    obtain ⟨result, exchanges, s'⟩ := o
    have hread' : (earlier ++ exchanges).flatMap Exchange.rows = rows := by
      rw [List.flatMap_append, hrows, show exchanges.flatMap Exchange.rows = [] from hread,
        List.append_nil]
    have hstatements : (earlier ++ exchanges).filterMap Exchange.statement? =
        exchanges.filterMap Exchange.statement? := by
      rw [List.filterMap_append, hnone, List.nil_append]
    cases result with
    | ok counts =>
      obtain ⟨hsucceeded, hexecuted⟩ := hexecutes
      simp only [Outcome.andThen_ok, List.append_nil, Outcome.KeepsTo, Outcome.rowsRead,
        Outcome.statements, hread', hstatements, hplanned]
      exact ⟨hall.append hsucceeded, congrArg Except.ok hexecuted.symm⟩
    | error f =>
      obtain ⟨hstopped, hstart⟩ := hexecutes
      simp only [Outcome.andThen_error, Outcome.KeepsTo, Outcome.rowsRead, Outcome.statements,
        hread', hstatements, hplanned]
      exact Or.inl ⟨hstopped.append hall, Or.inr ⟨steps.statements, rfl, hstart⟩⟩

theorem keepsTo_action (plan : Plan α) (s : σ) :
    (Action.run db plan.action s).KeepsTo plan.planned := by
  rw [run_action]
  unfold ask
  cases plan.question? with
  | none => exact keepsTo_settled db plan [] [] AllSucceeded.nil rfl rfl s
  | some sql =>
    dsimp only
    rw [Action.run_query]
    obtain ⟨answer, s'⟩ := db.query sql [] s
    cases answer with
    | error f => exact Or.inl ⟨StoppedBy.single rfl, Or.inl rfl⟩
    | ok rows =>
      exact keepsTo_settled db plan rows [.query sql [] (.ok rows)] (AllSucceeded.nil.cons rfl)
        (by simp [Exchange.rows]) rfl s'

end Plan

theorem executes_map_iff {σ α β : Type} (db : Database σ) (f : α → β) (x : Action α) (s : σ)
    (statements : List (String × List Value)) :
    (Action.run db (f <$> x) s).Executes statements ↔ (Action.run db x s).Executes statements := by
  rw [Action.run_map]
  generalize Action.run db x s = o
  obtain ⟨result, exchanges, s'⟩ := o
  cases result <;> simp [Outcome.Executes, Outcome.statements]

/-- The answer that is made of a result has no part in how an action goes. -/
theorem keepsTo_map_iff {σ α β : Type} (db : Database σ) (f : α → β) (x : Action α) (s : σ)
    (planned : List Row → Except Failure (List (String × List Value))) :
    (Action.run db (f <$> x) s).KeepsTo planned ↔ (Action.run db x s).KeepsTo planned := by
  rw [Action.run_map]
  generalize Action.run db x s = o
  obtain ⟨result, exchanges, s'⟩ := o
  cases result <;> simp [Outcome.KeepsTo, Outcome.statements, Outcome.rowsRead]

/-- Every operation, and the opening of a client, ends at its first failure and otherwise does
what it planned. -/
theorem operations_keep_to_plan {σ δ : Type} [Catalog δ] (db : Database σ) (client : Client δ)
    (s : σ) :
    (∀ operation : Operation,
      (Action.run db (operation.perform client) s).KeepsTo (operation.plan client).planned) ∧
    (Action.run db (Client.opened client.dialect client.settings) s).KeepsTo
      (ensuringLedger client).planned := by
  have hperform : ∀ operation : Operation,
      (Action.run db (operation.perform client) s).KeepsTo (operation.plan client).planned := by
    intro operation
    rw [perform_eq_action]
    exact Plan.keepsTo_action db _ s
  refine ⟨hperform, ?_⟩
  have hensure : (Action.run db client.ensureLedger s).KeepsTo (ensuringLedger client).planned :=
    (keepsTo_map_iff db _ _ s _).mp (hperform .ensureLedger)
  have hopened : Client.opened client.dialect client.settings =
      (fun _ => client) <$> client.ensureLedger := bind_pure_comp _ _
  rw [hopened]
  exact (keepsTo_map_iff db _ _ s _).mpr hensure

end SchemaChange
