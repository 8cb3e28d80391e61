import Mathlib.Data.Multiset.Filter
import SchemaChange.Proofs.ClientRun
import SchemaChange.Proofs.Success
import SchemaChange.Proofs.TextForm
import SchemaChange.Proofs.TimeText

/-!
A database with the table of a ledger. Nothing is assumed of it but how it goes with the statements
of the ledger: it appends a row, removes the rows of a version and counts them, and lists its rows
in the order of their versions. A version may come back as a number with or without a sign or in
digits, and text as characters or as bytes. Each call of the ledger then does to the stored rows
what it says.
-/
namespace SchemaChange

/-- A row of the ledger as it is stored. -/
structure StoredEntry where
  version : UInt64
  start : String
  finish : String
deriving DecidableEq

/-- The value stands for the version. -/
inductive ShowsVersion (version : UInt64) : Value → Prop
  | unsigned : ShowsVersion version (.uint64 version)
  | signed {n : Int64} (h : n.toInt = version.toNat) : ShowsVersion version (.int64 n)
  | digits : ShowsVersion version (.text (Decimal.integerText version.toNat))
  | digitBytes : ShowsVersion version (.bytes (Decimal.integerText version.toNat).toUTF8)

inductive ShowsText (s : String) : Value → Prop
  | characters : ShowsText s (.text s)
  | bytes : ShowsText s (.bytes s.toUTF8)

theorem ShowsVersion.decode_eq {version : UInt64} {v : Value} (h : ShowsVersion version v) :
    decode v = .ok version := by
  have hleast : Word.least UInt64 ≤ (version.toNat : Int) := Word.least_le_toInt version
  have hgreatest : (version.toNat : Int) ≤ Word.greatest UInt64 := Word.toInt_le_greatest version
  have hfit : (Word.fit (version.toNat : Int) : Except Failure UInt64) = .ok version := by
    rw [fit_of_mem hleast hgreatest]
    exact congrArg Except.ok (Word.ofInt_toInt version)
  have hdigits : (Word.ofText (Decimal.integerText version.toNat) : Except Failure UInt64) =
      .ok version := by
    rw [ofText_of_mem (Decimal.trim_integerText version.toNat) (by decide) (by decide)
      ⟨hleast, hgreatest⟩]
    exact congrArg Except.ok (Word.ofInt_toInt version)
  cases h with
  | unsigned => exact hfit
  | @signed n hn =>
    change Word.fit n.toInt = _
    rw [hn]
    exact hfit
  | digits =>
    change decodeWord (.text (Decimal.integerText version.toNat)) = _
    rw [decodeWord, hdigits]
  | digitBytes =>
    change decodeWord (.bytes (Decimal.integerText version.toNat).toUTF8) = _
    rw [decodeWord_toUTF8]
    exact hdigits

theorem ShowsText.decode_eq {s : String} {v : Value} (h : ShowsText s v) : decode v = .ok s := by
  cases h with
  | characters => rfl
  | bytes => exact decode_string_toUTF8 s

namespace StoredEntry

/-- The row has the version of the entry. -/
def ListedBy (entry : StoredEntry) (row : Row) : Prop :=
  ∃ version, ShowsVersion entry.version version ∧ row = ⟨[("version", version)]⟩

/-- The row has the version and the times of the entry. -/
def ShownBy (entry : StoredEntry) (row : Row) : Prop :=
  ∃ version start finish, ShowsVersion entry.version version ∧ ShowsText entry.start start ∧
    ShowsText entry.finish finish ∧
    row = ⟨[("version", version), ("start_time", start), ("end_time", finish)]⟩

/-- Both times can be read. -/
def IsWellFormed (entry : StoredEntry) : Prop :=
  (∃ t, LedgerEntry.timeOfText entry.start = .ok t) ∧
    ∃ t, LedgerEntry.timeOfText entry.finish = .ok t

theorem ListedBy.get_version {entry : StoredEntry} {row : Row} (h : entry.ListedBy row) :
    row.get "version" = .ok entry.version := by
  obtain ⟨version, hversion, rfl⟩ := h
  exact hversion.decode_eq

theorem ShownBy.decodeRow {entry : StoredEntry} {row : Row} (h : entry.ShownBy row)
    (hwell : entry.IsWellFormed) :
    ∃ listed, LedgerEntry.decodeRow row = .ok listed ∧ listed.version = entry.version := by
  obtain ⟨version, start, finish, hversion, hstart, hfinish, rfl⟩ := h
  obtain ⟨⟨t, ht⟩, u, hu⟩ := hwell
  refine ⟨⟨entry.version, t, u⟩, ?_, rfl⟩
  refine bind_eq_ok_iff.mpr ⟨entry.version, hversion.decode_eq, ?_⟩
  refine bind_eq_ok_iff.mpr ⟨entry.start, hstart.decode_eq, bind_eq_ok_iff.mpr ⟨t, ht, ?_⟩⟩
  exact bind_eq_ok_iff.mpr ⟨entry.finish, hfinish.decode_eq, bind_eq_ok_iff.mpr ⟨u, hu, rfl⟩⟩

/-- An entry as it is stored when it is recorded. -/
def ofEntry (entry : LedgerEntry) : StoredEntry :=
  ⟨entry.version, entry.start.toText, entry.finish.toText⟩

theorem isWellFormed_ofEntry (entry : LedgerEntry) : (ofEntry entry).IsWellFormed :=
  ⟨⟨_, LedgerEntry.timeOfText_toText entry.start⟩, _, LedgerEntry.timeOfText_toText entry.finish⟩

/-- The entries in ascending order of their versions, those of one version in any order. -/
structure Orders (ordered entries : List StoredEntry) : Prop where
  perm : ordered.Perm entries
  ascending : ordered.Pairwise fun a b => a.version ≤ b.version

end StoredEntry

/-- The count is this number, unless the number is too large to be told. -/
def Reports (count : UInt64) (n : Nat) : Prop :=
  if n < UInt64.size then count.toNat = n else count ≠ 0

theorem Reports.pos_iff {count : UInt64} {n : Nat} (h : Reports count n) : 0 < count ↔ 0 < n := by
  unfold Reports at h
  by_cases hn : n < UInt64.size
  · rw [if_pos hn] at h
    rw [UInt64.lt_iff_toNat_lt, h]
    rfl
  · rw [if_neg hn] at h
    have hsize : 0 < UInt64.size := by decide
    constructor
    · intro _
      omega
    · intro _
      exact UInt64.pos_iff_ne_zero.mpr h

variable {σ δ : Type} [Catalog δ]

/-- The database stores the rows of the ledger of a client. -/
structure HostsLedger (db : Database σ) (client : Client δ) (view : σ → List StoredEntry) :
    Prop where
  records (entry : StoredEntry) (s : σ) :
    ∃ count s', db.execute (Statement.recordEntry client.dialect client.settings.ledgerTable)
        [.uint64 entry.version, .text entry.start, .text entry.finish] s = (.ok count, s') ∧
      view s' = view s ++ [entry]
  removes (version : UInt64) (s : σ) :
    ∃ count s', db.execute (Statement.removeVersion client.dialect client.settings.ledgerTable)
        [.uint64 version] s = (.ok count, s') ∧
      Reports count ((view s).countP fun entry => entry.version = version) ∧
      view s' = (view s).filter fun entry => entry.version ≠ version
  listsVersions (s : σ) :
    ∃ rows ordered s',
      db.query (Statement.ledgerVersions client.dialect client.settings.ledgerTable) [] s =
        (.ok rows, s') ∧
      StoredEntry.Orders ordered (view s) ∧ List.Forall₂ StoredEntry.ListedBy ordered rows ∧
      view s' = view s
  listsEntries (s : σ) :
    ∃ rows ordered s',
      db.query (Statement.ledgerEntries client.dialect client.settings.ledgerTable) [] s =
        (.ok rows, s') ∧
      StoredEntry.Orders ordered (view s) ∧ List.Forall₂ StoredEntry.ShownBy ordered rows ∧
      view s' = view s

/-- The versions of the stored rows, each as often as it is stored. -/
def versionsOf (entries : List StoredEntry) : Multiset UInt64 := ↑(entries.map (·.version))

theorem mem_versionsOf {entries : List StoredEntry} {version : UInt64} :
    version ∈ versionsOf entries ↔ 0 < entries.countP fun entry => entry.version = version := by
  simp [versionsOf, List.countP_pos_iff]

theorem versionsOf_append_singleton (entries : List StoredEntry) (entry : StoredEntry) :
    versionsOf (entries ++ [entry]) = entry.version ::ₘ versionsOf entries :=
  Multiset.coe_eq_coe.mpr ((List.perm_append_singleton entry entries).map _)

theorem versionsOf_filter (entries : List StoredEntry) (version : UInt64) :
    versionsOf (entries.filter fun entry => entry.version ≠ version) =
      (versionsOf entries).filter (· ≠ version) := by
  rw [versionsOf, versionsOf, Multiset.filter_coe, List.filter_map]
  rfl

/-- The list has these versions, each as often, in ascending order. -/
structure Ascends (versions : List UInt64) (all : Multiset UInt64) : Prop where
  coe_eq : (versions : Multiset UInt64) = all
  ascending : versions.Pairwise (· ≤ ·)

theorem StoredEntry.Orders.ascends {ordered entries : List StoredEntry}
    (h : StoredEntry.Orders ordered entries) :
    Ascends (ordered.map (·.version)) (versionsOf entries) where
  coe_eq := Multiset.coe_eq_coe.mpr (h.perm.map _)
  ascending := List.pairwise_map.mpr h.ascending

/-- There is one way only to put versions in order. -/
theorem Ascends.unique {versions others : List UInt64} {all : Multiset UInt64}
    (h : Ascends versions all) (h' : Ascends others all) : versions = others := by
  have hperm : versions.Perm others := Multiset.coe_eq_coe.mp (h.coe_eq.trans h'.coe_eq.symm)
  exact hperm.eq_of_pairwise (fun a b _ _ => UInt64.le_antisymm) h.ascending h'.ascending

namespace HostsLedger

variable {db : Database σ} {client : Client δ} {view : σ → List StoredEntry}
  (h : HostsLedger db client view) (s : σ)
include h

theorem run_record (entry : LedgerEntry) :
    ∃ exchanges s', Action.run db (client.record entry) s = ⟨.ok (), exchanges, s'⟩ ∧
      view s' = view s ++ [StoredEntry.ofEntry entry] := by
  obtain ⟨count, s', hexecute, hview⟩ := h.records (StoredEntry.ofEntry entry) s
  have hrun := Action.run_execute_bind db s hexecute fun _ => pure ()
  exact ⟨_, s', hrun, hview⟩

theorem run_forget (version : UInt64) :
    ∃ exchanges s', Action.run db (client.forget version) s =
        ⟨.ok (decide (version ∈ versionsOf (view s))), exchanges, s'⟩ ∧
      view s' = (view s).filter fun entry => entry.version ≠ version := by
  obtain ⟨count, s', hexecute, hcount, hview⟩ := h.removes version s
  have hrun := Action.run_execute_bind db s hexecute fun affected => pure (decide (0 < affected))
  have hanswer : decide (0 < count) = decide (version ∈ versionsOf (view s)) := by
    rw [decide_eq_decide, mem_versionsOf]
    exact hcount.pos_iff
  rw [hanswer] at hrun
  exact ⟨_, s', hrun, hview⟩

theorem run_ledgerVersions :
    ∃ versions exchanges s', Action.run db client.ledgerVersions s =
        ⟨.ok versions, exchanges, s'⟩ ∧
      Ascends versions (versionsOf (view s)) ∧ view s' = view s := by
  obtain ⟨rows, ordered, s', hquery, horders, hlisted, hview⟩ := h.listsVersions s
  have hrows : rows.mapM (fun row => (row.get "version" : Except Failure UInt64)) =
      .ok (ordered.map (·.version)) := by
    rw [mapM_eq_ok_iff, List.forall₂_map_right_iff]
    exact (hlisted.imp fun entry row hentry => hentry.get_version).flip
  exact ⟨_, _, s', Action.run_queryMap_ok db s hquery hrows, horders.ascends, hview⟩

theorem run_ledgerEntries (hwell : ∀ entry ∈ view s, entry.IsWellFormed) :
    ∃ entries exchanges s', Action.run db client.ledgerEntries s = ⟨.ok entries, exchanges, s'⟩ ∧
      Ascends (entries.map (·.version)) (versionsOf (view s)) ∧ view s' = view s := by
  obtain ⟨rows, ordered, s', hquery, horders, hshown, hview⟩ := h.listsEntries s
  have hdecoded : ∃ entries, rows.mapM LedgerEntry.decodeRow = .ok entries ∧
      entries.map (·.version) = ordered.map (·.version) := by
    have hordered : ∀ entry ∈ ordered, entry.IsWellFormed :=
      fun entry hentry => hwell entry (horders.perm.mem_iff.mp hentry)
    clear horders hquery
    induction hshown with
    | nil => exact ⟨[], rfl, rfl⟩
    | cons hfirst hrest ih =>
      obtain ⟨entries, hentries, hversions⟩ :=
        ih fun entry hentry => hordered entry (List.mem_cons_of_mem _ hentry)
      obtain ⟨listed, hlisted, hversion⟩ :=
        hfirst.decodeRow (hordered _ (List.mem_cons_self ..))
      refine ⟨listed :: entries, ?_, ?_⟩
      · exact mapM_eq_ok_iff.mpr (.cons hlisted (mapM_eq_ok_iff.mp hentries))
      · rw [List.map_cons, List.map_cons, hversion, hversions]
  obtain ⟨entries, hentries, hversions⟩ := hdecoded
  refine ⟨entries, _, s', Action.run_queryMap_ok db s hquery hentries, ?_, hview⟩
  rw [hversions]
  exact horders.ascends

end HostsLedger

end SchemaChange
