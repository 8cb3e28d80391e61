import Mathlib.Logic.Function.Basic
import SchemaChange.Dialogue

/-!
Two dialogues with one database at once. A turn is one call of one side, answered in the state that
the calls before it have left, whichever side made them; a side that is done lets its turns pass. A
schedule says whose turn it is. A side that has every turn to itself holds the dialogue as it is
held alone, and one whose dialogue ends within so many calls has ended after as many turns, whatever
the other side does between them.
-/
namespace SchemaChange

inductive Side where
  | first
  | second
deriving DecidableEq, Repr

namespace Side

def other : Side → Side
  | first => second
  | second => first

@[simp] theorem other_other (side : Side) : side.other.other = side := by cases side <;> rfl

@[simp] theorem other_ne (side : Side) : side.other ≠ side := by cases side <;> nofun

theorem eq_or_eq_other (a side : Side) : side = a ∨ side = a.other := by
  cases a <;> cases side <;> simp [other]

end Side

namespace Dialogue

variable {σ α : Type}

/-- The next call with what the dialogue goes on with, unless it is done. -/
def step? (db : Database σ) : Dialogue α → σ → Option (Exchange × Dialogue α × σ)
  | done _, _ => none
  | query sql params next, s =>
    let (answer, s) := db.query sql params s
    some (.query sql params answer, next answer, s)
  | execute sql params next, s =>
    let (answer, s) := db.execute sql params s
    some (.execute sql params answer, next answer, s)

/-- The dialogue is done after at most so many calls, whatever is answered. -/
inductive EndsWithin : Nat → Dialogue α → Prop
  | done (n : Nat) (result : α) : EndsWithin n (done result)
  | query {n : Nat} (sql : String) (params : List Value)
      {next : Except Failure (List Row) → Dialogue α} (h : ∀ answer, EndsWithin n (next answer)) :
      EndsWithin (n + 1) (query sql params next)
  | execute {n : Nat} (sql : String) (params : List Value)
      {next : Except Failure UInt64 → Dialogue α} (h : ∀ answer, EndsWithin n (next answer)) :
      EndsWithin (n + 1) (execute sql params next)

/-- A dialogue that is run makes its calls one by one. -/
theorem run_eq_of_step? {db : Database σ} {d : Dialogue α} {s : σ} {exchange : Exchange}
    {next : Dialogue α} {s' : σ} (h : d.step? db s = some (exchange, next, s')) :
    d.run db s = (next.run db s').after exchange := by
  cases d with
  | done result => cases h
  | query sql params go =>
    cases h
    rfl
  | execute sql params go =>
    cases h
    rfl

theorem EndsWithin.of_step? {db : Database σ} {n : Nat} {d : Dialogue α} (h : EndsWithin n d)
    {s : σ} {exchange : Exchange} {next : Dialogue α} {s' : σ}
    (hstep : d.step? db s = some (exchange, next, s')) : EndsWithin (n - 1) next := by
  cases h with
  | done => cases hstep
  | query _ _ hnext =>
    cases hstep
    exact hnext _
  | execute _ _ hnext =>
    cases hstep
    exact hnext _

/-- A dialogue without a next call is done. -/
theorem eq_done_of_step?_eq_none {db : Database σ} {d : Dialogue α} {s : σ}
    (h : d.step? db s = none) : ∃ result, d = .done result := by
  cases d with
  | done result => exact ⟨result, rfl⟩
  | query sql params next => cases h
  | execute sql params next => cases h

theorem EndsWithin.eq_done {d : Dialogue α} (h : EndsWithin 0 d) : ∃ result, d = .done result := by
  cases h with
  | done n result => exact ⟨result, rfl⟩

end Dialogue

namespace Action

open Dialogue (EndsWithin)

variable {σ α β : Type} {db : Database σ} {sql : String} {s s' : σ}

section

variable {decodeRow : Row → Except Failure α} {f : List α → Action β}

/-- Behind a query whose rows decode comes what is made of them. -/
theorem step?_queryMap_bind {rows : List Row} {xs : List α}
    (hquery : db.query sql [] s = (.ok rows, s')) (hrows : rows.mapM decodeRow = .ok xs) :
    (ExceptT.run (queryMap sql decodeRow >>= f)).step? db s =
      some (.query sql [] (.ok rows), ExceptT.run (f xs), s') := by
  change some (Exchange.query sql [] (db.query sql [] s).1,
    ((Dialogue.done (db.query sql [] s).1).bind
      (ExceptT.bindCont fun rows => liftM (rows.mapM decodeRow))).bind (ExceptT.bindCont f),
    (db.query sql [] s).2) = _
  rw [hquery]
  change some (Exchange.query sql [] (.ok rows),
    (ExceptT.run (liftM (rows.mapM decodeRow) : Action (List α))).bind (ExceptT.bindCont f),
    s') = _
  rw [hrows]
  rfl

theorem endsWithin_queryMap_bind {n : Nat} (h : ∀ xs, EndsWithin n (ExceptT.run (f xs))) :
    EndsWithin (n + 1) (ExceptT.run (queryMap sql decodeRow >>= f)) := by
  refine .query sql [] fun answer => ?_
  cases answer with
  | error e => exact .done n (Except.error e)
  | ok rows =>
    change EndsWithin n ((ExceptT.run (liftM (rows.mapM decodeRow) : Action (List α))).bind
      (ExceptT.bindCont f))
    cases rows.mapM decodeRow with
    | error e => exact .done n (Except.error e)
    | ok xs => exact h xs

end

section

variable {f : UInt64 → Action β}

/-- A statement is followed by what is made of its answer. -/
theorem step?_execute_bind {answer : Except Failure UInt64}
    (hexecute : db.execute sql [] s = (answer, s')) :
    (ExceptT.run (execute sql >>= f)).step? db s =
      some (.execute sql [] answer, ExceptT.run ((liftM answer : Action UInt64) >>= f), s') := by
  change some (Exchange.execute sql [] (db.execute sql [] s).1,
    (Dialogue.done (db.execute sql [] s).1).bind (ExceptT.bindCont f),
    (db.execute sql [] s).2) = _
  rw [hexecute]
  rfl

theorem endsWithin_execute_bind {n : Nat} (h : ∀ count, EndsWithin n (ExceptT.run (f count))) :
    EndsWithin (n + 1) (ExceptT.run (execute sql >>= f)) := by
  refine .execute sql [] fun answer => ?_
  cases answer with
  | error e => exact .done n (Except.error e)
  | ok count => exact h count

end

end Action

/-- Two dialogues under way, with the state of their database and the calls so far in order. -/
structure Meeting (σ α : Type) where
  dialogue : Side → Dialogue α
  state : σ
  calls : List (Side × Exchange) := []

namespace Meeting

variable {σ α : Type} (db : Database σ)

/-- What a side has come to, once it is done. -/
def result? (m : Meeting σ α) (side : Side) : Option α :=
  match m.dialogue side with
  | .done result => some result
  | _ => none

/-- The side makes its next call, if it has one. -/
def turn (m : Meeting σ α) (side : Side) : Meeting σ α :=
  match (m.dialogue side).step? db m.state with
  | some (exchange, next, s) =>
    ⟨Function.update m.dialogue side next, s, m.calls ++ [(side, exchange)]⟩
  | none => m

/-- The turns in their order. -/
def run (m : Meeting σ α) : List Side → Meeting σ α
  | [] => m
  | side :: schedule => (m.turn db side).run schedule

theorem result?_of_done {m : Meeting σ α} {side : Side} {result : α}
    (h : m.dialogue side = .done result) : m.result? side = some result := by
  rw [result?, h]

variable {db}

theorem turn_of_step? {m : Meeting σ α} {side : Side} {exchange : Exchange} {next : Dialogue α}
    {s : σ} (h : (m.dialogue side).step? db m.state = some (exchange, next, s)) :
    m.turn db side =
      ⟨Function.update m.dialogue side next, s, m.calls ++ [(side, exchange)]⟩ := by
  rw [turn, h]

theorem turn_of_done {m : Meeting σ α} {side : Side} {result : α}
    (h : m.dialogue side = .done result) : m.turn db side = m := by
  rw [turn, h]
  rfl

/-- A turn takes its side one call on. -/
theorem dialogue_turn_self {m : Meeting σ α} {side : Side} {exchange : Exchange}
    {next : Dialogue α} {s : σ}
    (h : (m.dialogue side).step? db m.state = some (exchange, next, s)) :
    (m.turn db side).dialogue side = next := by
  rw [turn_of_step? h]
  exact Function.update_self ..

/-- A turn of one side leaves the other where it is. -/
theorem dialogue_turn_of_ne (m : Meeting σ α) {side other : Side} (h : side ≠ other) :
    (m.turn db other).dialogue side = m.dialogue side := by
  unfold turn
  split
  · exact Function.update_of_ne h ..
  · rfl

theorem endsWithin_turn {m : Meeting σ α} {side : Side} {n : Nat}
    (h : (m.dialogue side).EndsWithin n) :
    ((m.turn db side).dialogue side).EndsWithin (n - 1) := by
  cases hstep : (m.dialogue side).step? db m.state with
  | none =>
    obtain ⟨result, hdone⟩ := Dialogue.eq_done_of_step?_eq_none hstep
    rw [turn_of_done hdone, hdone]
    exact .done (n - 1) result
  | some taken =>
    obtain ⟨exchange, next, s⟩ := taken
    rw [dialogue_turn_self hstep]
    exact h.of_step? hstep

/-- A side with enough turns is done in the end. -/
theorem exists_result {m : Meeting σ α} {side : Side} {n : Nat}
    (h : (m.dialogue side).EndsWithin n) {schedule : List Side} (hturns : n ≤ schedule.count side) :
    ∃ result, (m.run db schedule).result? side = some result := by
  induction schedule generalizing m n with
  | nil =>
    have hn : n = 0 := Nat.le_zero.mp hturns
    subst hn
    obtain ⟨result, hdone⟩ := h.eq_done
    exact ⟨result, result?_of_done hdone⟩
  | cons turned schedule ih =>
    by_cases hturn : turned = side
    · subst hturn
      rw [List.count_cons_self] at hturns
      exact ih (endsWithin_turn h) (by omega)
    · rw [List.count_cons_of_ne hturn] at hturns
      have hsame : (m.turn db turned).dialogue side = m.dialogue side :=
        dialogue_turn_of_ne m (Ne.symm hturn)
      exact ih (hsame ▸ h) hturns

theorem run_of_done {m : Meeting σ α} {side : Side} {result : α}
    (h : m.dialogue side = .done result) (n : Nat) : m.run db (List.replicate n side) = m := by
  induction n with
  | zero => rfl
  | succ n ih => rw [List.replicate_succ, run, turn_of_done h, ih]

/-- A side with all turns to itself holds its dialogue as it is held alone. -/
theorem run_replicate {m : Meeting σ α} {side : Side} {n : Nat}
    (h : (m.dialogue side).EndsWithin n) :
    let o := (m.dialogue side).run db m.state
    let after := m.run db (List.replicate n side)
    after.result? side = some o.result ∧ after.state = o.state ∧
      after.calls = m.calls ++ o.exchanges.map fun exchange => (side, exchange) := by
  induction n generalizing m with
  | zero =>
    obtain ⟨result, hdone⟩ := h.eq_done
    rw [hdone]
    exact ⟨result?_of_done hdone, rfl, (List.append_nil _).symm⟩
  | succ n ih =>
    intro o after
    cases hstep : (m.dialogue side).step? db m.state with
    | none =>
      obtain ⟨result, hdone⟩ := Dialogue.eq_done_of_step?_eq_none hstep
      have hafter : after = m := run_of_done hdone (n + 1)
      have ho : o = ⟨result, [], m.state⟩ := by
        change (m.dialogue side).run db m.state = _
        rw [hdone]
        rfl
      rw [hafter, ho, result?_of_done hdone]
      exact ⟨rfl, rfl, (List.append_nil _).symm⟩
    | some taken =>
      obtain ⟨exchange, next, s⟩ := taken
      have hstate : (m.turn db side).state = s := by rw [turn_of_step? hstep]
      have hcalls : (m.turn db side).calls = m.calls ++ [(side, exchange)] := by
        rw [turn_of_step? hstep]
      obtain ⟨hresult, hend, hall⟩ := ih (endsWithin_turn (m := m) h)
      rw [dialogue_turn_self hstep, hstate] at hresult hend hall
      have ho : o = (next.run db s).after exchange := Dialogue.run_eq_of_step? hstep
      rw [ho]
      refine ⟨hresult, hend, ?_⟩
      rw [hcalls, List.append_assoc] at hall
      exact hall

end Meeting

end SchemaChange
