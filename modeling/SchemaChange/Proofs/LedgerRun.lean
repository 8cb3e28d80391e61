import SchemaChange.Proofs.LedgerServer
import SchemaChange.Proofs.Session

/-!
The ledger as a multiset of versions. Recording adds a version, whether or not it is there already,
and forgetting takes away every occurrence of one. Whatever is recorded and forgotten in a row, the
answers of the ledger are those of the multiset, and so are the versions and the entries that it
lists in the end. What carries this through a run is that the stored rows have the versions of the
multiset, and times that can be read.
-/
namespace SchemaChange

/-- A call that changes the ledger. -/
inductive LedgerChange where
  | record (entry : LedgerEntry)
  | forget (version : UInt64)
deriving DecidableEq

namespace LedgerChange

def operation : LedgerChange → Operation
  | record entry => .record entry
  | forget version => .forget version

/-- The versions after a change. -/
def apply : LedgerChange → Multiset UInt64 → Multiset UInt64
  | record entry, all => entry.version ::ₘ all
  | forget version, all => all.filter (· ≠ version)

/-- What is answered to a change. -/
def answer : LedgerChange → Multiset UInt64 → Answer
  | record _, _ => .done
  | forget version, all => .truth (version ∈ all)

/-- The versions after changes in a row. -/
def applyAll (changes : List LedgerChange) (all : Multiset UInt64) : Multiset UInt64 :=
  changes.foldl (fun all change => change.apply all) all

/-- What is answered to changes in a row, to each of them after those before it. -/
def answerAll : List LedgerChange → Multiset UInt64 → List Answer
  | [], _ => []
  | change :: changes, all => change.answer all :: answerAll changes (change.apply all)

end LedgerChange

namespace HostsLedger

variable {σ δ : Type} [Catalog δ] {db : Database σ} {client : Client δ}
  {view : σ → List StoredEntry} (h : HostsLedger db client view)
include h

/-- One change is one step of the multiset, and leaves times that can be read. -/
theorem run_change {s : σ} (hwell : ∀ entry ∈ view s, entry.IsWellFormed) (change : LedgerChange) :
    ∃ exchanges s', Action.run db (change.operation.perform client) s =
        ⟨.ok (change.answer (versionsOf (view s))), exchanges, s'⟩ ∧
      versionsOf (view s') = change.apply (versionsOf (view s)) ∧
      ∀ entry ∈ view s', entry.IsWellFormed := by
  cases change with
  | record entry =>
    obtain ⟨exchanges, s', hrun, hview⟩ := h.run_record s entry
    refine ⟨exchanges ++ [], s', ?_, ?_, ?_⟩
    · change Action.run db ((fun _ => Answer.done) <$> client.record entry) s = _
      rw [Action.run_map, hrun]
      rfl
    · rw [hview, versionsOf_append_singleton]
      rfl
    · intro stored hstored
      rw [hview] at hstored
      rcases List.mem_append.mp hstored with hstored | hstored
      · exact hwell stored hstored
      · rw [List.mem_singleton.mp hstored]
        exact StoredEntry.isWellFormed_ofEntry entry
  | forget version =>
    obtain ⟨exchanges, s', hrun, hview⟩ := h.run_forget s version
    refine ⟨exchanges ++ [], s', ?_, ?_, ?_⟩
    · change Action.run db (Answer.truth <$> client.forget version) s = _
      rw [Action.run_map, hrun]
      rfl
    · rw [hview, versionsOf_filter]
      rfl
    · intro stored hstored
      rw [hview] at hstored
      exact hwell stored (List.mem_filter.mp hstored).1

/-- A run of changes is a run of the multiset. -/
theorem run_answers (changes : List LedgerChange) {s : σ}
    (hwell : ∀ entry ∈ view s, entry.IsWellFormed) :
    ∃ exchanges s', Dialogue.run db (answers client (changes.map (·.operation))) s =
        ⟨(LedgerChange.answerAll changes (versionsOf (view s))).map .ok, exchanges, s'⟩ ∧
      versionsOf (view s') = LedgerChange.applyAll changes (versionsOf (view s)) ∧
      ∀ entry ∈ view s', entry.IsWellFormed := by
  induction changes generalizing s with
  | nil => exact ⟨[], s, rfl, rfl, hwell⟩
  | cons change changes ih =>
    obtain ⟨first, s', hfirst, hversions, hwell'⟩ := h.run_change hwell change
    obtain ⟨later, s'', hlater, hversions', hwell''⟩ := ih hwell'
    refine ⟨first ++ (later ++ []), s'', ?_, ?_, hwell''⟩
    · change Dialogue.run db (Dialogue.bind (ExceptT.run (change.operation.perform client))
        fun answer => Dialogue.bind (answers client (changes.map (·.operation)))
          fun later => .done (answer :: later)) s = _
      have hperform : Dialogue.run db (ExceptT.run (change.operation.perform client)) s =
          ⟨.ok (change.answer (versionsOf (view s))), first, s'⟩ := hfirst
      rw [Dialogue.run_bind, hperform]
      dsimp only
      rw [Dialogue.run_bind, hlater, hversions]
      rfl
    · rw [hversions', hversions]
      rfl

end HostsLedger

/-- Over any run of changes the ledger answers as a multiset of versions does. In the end it lists
the versions that have been recorded and not been forgotten since, each as often as it has been, in
ascending order, and the entries in the same order. Forgetting one more tells whether it is there,
and takes away nothing else. -/
theorem ledger_is_multiset {σ δ : Type} [Catalog δ] {db : Database σ} {client : Client δ}
    {view : σ → List StoredEntry} (h : HostsLedger db client view) {s : σ}
    (hwell : ∀ entry ∈ view s, entry.IsWellFormed) (changes : List LedgerChange) :
    let o := Dialogue.run db (answers client (changes.map (·.operation))) s
    o.result = (LedgerChange.answerAll changes (versionsOf (view s))).map .ok ∧
    ∃ versions, Ascends versions (LedgerChange.applyAll changes (versionsOf (view s))) ∧
      (Action.run db client.ledgerVersions o.state).result = .ok versions ∧
      (∃ entries, (Action.run db client.ledgerEntries o.state).result = .ok entries ∧
        entries.map (·.version) = versions) ∧
      ∀ version, let removal := Action.run db (client.forget version) o.state
        removal.result = .ok (decide (version ∈ versions)) ∧
        (Action.run db client.ledgerVersions removal.state).result =
          .ok (versions.filter (· ≠ version)) := by
  obtain ⟨exchanges, s', hrun, hversions, hwell'⟩ := h.run_answers changes hwell
  intro o
  have ho : o = ⟨_, exchanges, s'⟩ := hrun
  obtain ⟨versions, _, _, hlisted, hascends, -⟩ := h.run_ledgerVersions s'
  obtain ⟨entries, _, _, hentries, hascends', -⟩ := h.run_ledgerEntries s' hwell'
  rw [ho]
  refine ⟨rfl, versions, hversions ▸ hascends, ?_, ⟨entries, ?_, hascends'.unique hascends⟩, ?_⟩
  · rw [hlisted]
  · rw [hentries]
  · intro version removal
    obtain ⟨_, s'', hforget, hview⟩ := h.run_forget s' version
    obtain ⟨others, _, _, hothers, hremaining, -⟩ := h.run_ledgerVersions s''
    have hremoval : removal = ⟨_, _, s''⟩ := hforget
    have hfiltered : Ascends (versions.filter (· ≠ version)) (versionsOf (view s'')) := by
      rw [hview, versionsOf_filter, ← hascends.coe_eq]
      exact ⟨rfl, hascends.ascending.filter _⟩
    rw [hremoval]
    constructor
    · rw [← hascends.coe_eq]
      simp only [Multiset.mem_coe]
    · rw [hothers, hremaining.unique hfiltered]

/-- An entry that begins before the year one and ends with a leap second. -/
def longEntry (version : UInt64) : LedgerEntry where
  version := version
  start := ⟨-7, 6, 30, 0, 0, 0, 0, by decide⟩
  finish := ⟨12026, 12, 31, 23, 59, 59, 1500000000, by decide⟩

/-- A ledger with a version twice, which is beyond the numbers with a sign. -/
def storedTwice : List StoredEntry :=
  [⟨18446744073709551615, "2024-02-29 12:30:00.250", "2024-02-29 12:30:01"⟩,
    ⟨7, "2024-03-01 00:00:00", "2024-03-01 00:00:00.1"⟩,
    ⟨18446744073709551615, "2024-02-29 12:30:00", "2024-02-29 12:30:01"⟩]

/-- A version is recorded twice, and two are forgotten of which one is not there. -/
def mixedChanges : List LedgerChange :=
  [.record (longEntry 9), .forget 8, .record (longEntry 2), .forget 18446744073709551615,
    .record (longEntry 9)]

theorem storedTwice_changed :
    HostsLedger (LedgerServer.database ⟨({} : MySql), {}⟩) ⟨({} : MySql), {}⟩ id ∧
      (∀ entry ∈ storedTwice, entry.IsWellFormed) ∧
      let o := Dialogue.run (LedgerServer.database ⟨({} : MySql), {}⟩)
        (answers ⟨({} : MySql), {}⟩ (mixedChanges.map (·.operation))) storedTwice
      o.result = [.done, .truth false, .done, .truth true, .done].map .ok ∧
        (Action.run (LedgerServer.database ⟨({} : MySql), {}⟩)
          (Client.ledgerVersions ⟨({} : MySql), {}⟩) o.state).result = .ok [2, 7, 9, 9] := by
  have hhosts := LedgerServer.hostsLedger (⟨{}, {}⟩ : Client MySql)
  have hwell : ∀ entry ∈ storedTwice, entry.IsWellFormed := by
    intro entry hentry
    simp only [storedTwice, List.mem_cons, List.not_mem_nil, or_false] at hentry
    rcases hentry with rfl | rfl | rfl <;> exact ⟨⟨_, rfl⟩, _, rfl⟩
  obtain ⟨hanswers, versions, hascends, hlisted, -⟩ :=
    ledger_is_multiset hhosts (s := storedTwice) hwell mixedChanges
  have hversions : Ascends [2, 7, 9, 9]
      (LedgerChange.applyAll mixedChanges (versionsOf storedTwice)) :=
    ⟨by decide, by decide⟩
  refine ⟨hhosts, hwell, hanswers, ?_⟩
  rw [← hascends.unique hversions]
  exact hlisted

end SchemaChange
