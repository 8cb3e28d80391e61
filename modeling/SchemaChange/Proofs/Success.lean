import Mathlib.Data.List.Forall2
import SchemaChange.Schema.Table

/-!
When work that may fail succeeds: one step behind another when both do, and a step for each member
of a list when it does so for every member. A table is accepted when each of its checks succeeds.
-/
namespace SchemaChange

theorem bind_eq_ok_iff {α β : Type} {x : Except Failure α} {f : α → Except Failure β} {b : β} :
    x >>= f = .ok b ↔ ∃ a, x = .ok a ∧ f a = .ok b := by
  cases x with
  | error e => exact ⟨nofun, fun ⟨_, h, _⟩ => nomatch h⟩
  | ok a => exact ⟨fun h => ⟨a, rfl, h⟩, fun ⟨_, h, hf⟩ => Except.ok.inj h ▸ hf⟩

theorem bind_eq_error_iff {α β : Type} {x : Except Failure α} {f : α → Except Failure β}
    {e : Failure} : x >>= f = .error e ↔ x = .error e ∨ ∃ a, x = .ok a ∧ f a = .error e := by
  cases x with
  | error found =>
    constructor
    · intro h
      cases h
      exact Or.inl rfl
    · rintro (h | ⟨_, h, -⟩)
      · cases h
        rfl
      · cases h
  | ok a =>
    constructor
    · exact fun h => Or.inr ⟨a, rfl, h⟩
    · rintro (h | ⟨b, hb, h⟩)
      · cases h
      · cases hb
        exact h

theorem mapM_eq_ok_iff {α β : Type} {f : α → Except Failure β} {xs : List α} {ys : List β} :
    xs.mapM f = .ok ys ↔ List.Forall₂ (fun x y => f x = .ok y) xs ys := by
  induction xs generalizing ys with
  | nil =>
    rw [List.mapM_nil, List.forall₂_nil_left_iff]
    exact ⟨fun h => (Except.ok.inj h).symm, fun h => by rw [h]; rfl⟩
  | cons x xs ih =>
    simp only [List.mapM_cons, bind_eq_ok_iff, List.forall₂_cons_left_iff, ih]
    constructor
    · rintro ⟨y, hx, zs, hxs, heq⟩
      exact ⟨y, zs, hx, hxs, (Except.ok.inj heq).symm⟩
    · rintro ⟨y, zs, hx, hxs, rfl⟩
      exact ⟨y, hx, zs, hxs, rfl⟩

/-- What a list goes to comes from its members. -/
theorem mem_mapM_iff {α β : Type} {f : α → Except Failure β} {xs : List α} {ys : List β}
    (h : xs.mapM f = .ok ys) (y : β) : y ∈ ys ↔ ∃ x ∈ xs, f x = .ok y := by
  have hall := mapM_eq_ok_iff.mp h
  clear h
  induction hall with
  | nil => simp
  | cons hx hrest ih => simp [ih, hx, eq_comm]

theorem exists_of_mapM {α β : Type} {f : α → Except Failure β} {xs : List α} {ys : List β}
    (h : xs.mapM f = .ok ys) {x : α} (hx : x ∈ xs) : ∃ y, f x = .ok y := by
  have hall := mapM_eq_ok_iff.mp h
  clear h
  induction hall with
  | nil => cases hx
  | cons hfirst hrest ih =>
    rcases List.mem_cons.mp hx with rfl | hx
    · exact ⟨_, hfirst⟩
    · exact ih hx

theorem exists_mapM_eq_ok {α β : Type} {f : α → Except Failure β} {xs : List α}
    (h : ∀ x ∈ xs, ∃ y, f x = .ok y) : ∃ ys, xs.mapM f = .ok ys := by
  induction xs with
  | nil => exact ⟨[], rfl⟩
  | cons x xs ih =>
    obtain ⟨y, hx⟩ := h x (List.mem_cons_self ..)
    obtain ⟨ys, hxs⟩ := ih fun x hmem => h x (List.mem_cons_of_mem _ hmem)
    exact ⟨y :: ys, mapM_eq_ok_iff.mpr (.cons hx (mapM_eq_ok_iff.mp hxs))⟩

theorem forM_eq_ok_iff {α : Type} {f : α → Except Failure Unit} {xs : List α} :
    xs.forM f = .ok () ↔ ∀ x ∈ xs, f x = .ok () := by
  induction xs with
  | nil => exact ⟨fun _ x hx => absurd hx List.not_mem_nil, fun _ => rfl⟩
  | cons x xs ih =>
    have hcons : (x :: xs).forM f = (f x >>= fun _ => xs.forM f) := rfl
    rw [hcons, bind_eq_ok_iff, List.forall_mem_cons, ← ih]
    constructor
    · rintro ⟨_, hx, hxs⟩
      exact ⟨hx, hxs⟩
    · rintro ⟨hx, hxs⟩
      exact ⟨(), hx, hxs⟩

theorem unless_throw_eq_ok_iff {p : Prop} [Decidable p] {f : Failure} {x : Except Failure Unit} :
    (if p then (do throw f; x) else x) = .ok () ↔ ¬ p ∧ x = .ok () := by
  by_cases h : p
  · rw [if_pos h]
    exact ⟨nofun, fun hnot => absurd h hnot.1⟩
  · rw [if_neg h]
    exact ⟨fun hx => ⟨h, hx⟩, fun hx => hx.2⟩

theorem Table.check_eq_ok_iff {table : Table} :
    table.check = .ok () ↔
      table.name ≠ "" ∧ (∀ column ∈ table.columns, column.name ≠ "") ∧
        (∀ index ∈ table.indexes, index.columns ≠ [] ∧ "" ∉ index.columns) ∧
        table.options.primaryKey? ≠ some (.composite []) := by
  unfold Table.check
  rw [unless_throw_eq_ok_iff]
  simp only [bind_eq_ok_iff]
  constructor
  · rintro ⟨hname, _, hcolumns, _, hindexes, hkey⟩
    refine ⟨hname, ?_, ?_, fun hempty => ?_⟩
    · exact fun column hc => Column.check_eq_ok_iff.mp (forM_eq_ok_iff.mp hcolumns column hc)
    · exact fun index hi => Index.check_eq_ok_iff.mp (forM_eq_ok_iff.mp hindexes index hi)
    · rw [if_pos hempty] at hkey
      cases hkey
  · rintro ⟨hname, hcolumns, hindexes, hkey⟩
    refine ⟨hname, (), forM_eq_ok_iff.mpr ?_, (), forM_eq_ok_iff.mpr ?_, if_neg hkey⟩
    · exact fun column hc => Column.check_eq_ok_iff.mpr (hcolumns column hc)
    · exact fun index hi => Index.check_eq_ok_iff.mpr (hindexes index hi)

end SchemaChange
