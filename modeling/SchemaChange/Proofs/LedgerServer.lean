import SchemaChange.Proofs.LedgerHost
import SchemaChange.Proofs.Wording

/-!
A database that meets the assumptions on databases with a ledger. It knows the statements of the
ledger of one client by their texts, of which no two are the same, and answers nothing to any
other. It shows a version as a number with a sign as long as there is one, and in digits otherwise.
-/
namespace SchemaChange

/-- The two listings of the ledger are told apart by what they ask for. -/
theorem Spelled.ledgerVersions_ne_ledgerEntries {δ : Type} [Dialect δ] [Spelled δ] (d : δ)
    (table : String) : Statement.ledgerVersions d table ≠ Statement.ledgerEntries d table := by
  intro heq
  have hversions := (sharedWording d).ledgerVersions table
  rw [heq, (sharedWording d).ledgerEntries table] at hversions
  simp [keywords, ledgerFieldTokens, listed] at hversions

namespace LedgerServer

def shownVersion (version : UInt64) : Value :=
  if (version.toNat : Int) ≤ Int64.maxValue.toInt then .int64 (Int64.ofInt version.toNat)
  else .text (Decimal.integerText version.toNat)

theorem showsVersion (version : UInt64) : ShowsVersion version (shownVersion version) := by
  have hleast : Word.least Int64 ≤ (version.toNat : Int) := by
    have hnegative : Word.least Int64 ≤ 0 := by decide
    omega
  unfold shownVersion
  by_cases hfits : (version.toNat : Int) ≤ Int64.maxValue.toInt
  · rw [if_pos hfits]
    exact .signed (Word.toInt_ofInt (version.toNat : Int) hleast hfits)
  · rw [if_neg hfits]
    exact .digits

def versionRow (entry : StoredEntry) : Row := ⟨[("version", shownVersion entry.version)]⟩

def entryRow (entry : StoredEntry) : Row :=
  ⟨[("version", shownVersion entry.version), ("start_time", .text entry.start),
    ("end_time", .bytes entry.finish.toUTF8)]⟩

def ordered (entries : List StoredEntry) : List StoredEntry :=
  entries.mergeSort fun a b => a.version ≤ b.version

theorem orders_ordered (entries : List StoredEntry) :
    StoredEntry.Orders (ordered entries) entries where
  perm := List.mergeSort_perm entries _
  ascending := by
    refine (List.pairwise_mergeSort ?_ ?_ entries).imp of_decide_eq_true
    · intro a b c hab hbc
      exact decide_eq_true (UInt64.le_trans (of_decide_eq_true hab) (of_decide_eq_true hbc))
    · intro a b
      rw [Bool.or_eq_true, decide_eq_true_eq, decide_eq_true_eq]
      exact UInt64.le_total a.version b.version

/-- A count, or the greatest number there is. -/
def reported (n : Nat) : UInt64 :=
  if n < UInt64.size then UInt64.ofNat n else UInt64.ofNat (UInt64.size - 1)

theorem reports_reported (n : Nat) : Reports (reported n) n := by
  unfold Reports reported
  by_cases hn : n < UInt64.size
  · rw [if_pos hn, if_pos hn]
    exact UInt64.toNat_ofNat_of_lt' hn
  · rw [if_neg hn, if_neg hn]
    decide

variable {δ : Type} [Catalog δ] (client : Client δ)

def database : Database (List StoredEntry) where
  query sql _ entries :=
    if sql = Statement.ledgerVersions client.dialect client.settings.ledgerTable then
      (.ok ((ordered entries).map versionRow), entries)
    else if sql = Statement.ledgerEntries client.dialect client.settings.ledgerTable then
      (.ok ((ordered entries).map entryRow), entries)
    else (.ok [], entries)
  execute sql params entries :=
    match params with
    | [.uint64 version, .text start, .text finish] =>
      if sql = Statement.recordEntry client.dialect client.settings.ledgerTable then
        (.ok 1, entries ++ [⟨version, start, finish⟩])
      else (.ok 0, entries)
    | [.uint64 version] =>
      if sql = Statement.removeVersion client.dialect client.settings.ledgerTable then
        (.ok (reported (entries.countP fun entry => entry.version = version)),
          entries.filter fun entry => entry.version ≠ version)
      else (.ok 0, entries)
    | _ => (.ok 0, entries)

theorem hostsLedger [Spelled δ] : HostsLedger (database client) client id where
  records entry entries := ⟨1, _, if_pos rfl, rfl⟩
  removes version entries := ⟨_, _, if_pos rfl, reports_reported _, rfl⟩
  listsVersions entries := by
    refine ⟨_, ordered entries, entries, if_pos rfl, orders_ordered entries, ?_, rfl⟩
    rw [List.forall₂_map_right_iff, List.forall₂_same]
    exact fun entry _ => ⟨_, showsVersion entry.version, rfl⟩
  listsEntries entries := by
    have hne := (Spelled.ledgerVersions_ne_ledgerEntries client.dialect
      client.settings.ledgerTable).symm
    have hquery : (database client).query
        (Statement.ledgerEntries client.dialect client.settings.ledgerTable) [] entries =
        (.ok ((ordered entries).map entryRow), entries) := by
      unfold database
      dsimp only
      rw [if_neg hne, if_pos rfl]
    refine ⟨_, ordered entries, entries, hquery, orders_ordered entries, ?_, rfl⟩
    rw [List.forall₂_map_right_iff, List.forall₂_same]
    exact fun entry _ => ⟨_, _, _, showsVersion entry.version, .characters, .bytes, rfl⟩

end LedgerServer

end SchemaChange
