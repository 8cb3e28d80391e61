import SchemaChange.Database.Recording
import SchemaChange.Proofs.LedgerHost

/-!
Times on their way through the database. They are sent as text without a fraction of a second. What
comes back may have one, and it may come as characters or as bytes and among other columns. An entry
that has been recorded is listed with its version and with both of its times cut to whole seconds.
-/
namespace SchemaChange

/-- The cell that the row has in a column, the first if there are several. -/
def Row.Holds (row : Row) (column : String) (v : Value) : Prop :=
  row.cells.find? (fun cell => cell.1 == column) = some (column, v)

theorem Row.Holds.get_eq {row : Row} {column : String} {v : Value} (h : row.Holds column v)
    {α : Type} [Decode α] : (row.get column : Except Failure α) = decode v := by
  rw [Row.get, h]

/-- The value stands for the text of a time, with or without a fraction behind it. -/
def ShowsTime (s : String) (v : Value) : Prop :=
  ∃ fraction, Timestamp.IsFraction fraction ∧ ShowsText (s ++ fraction) v

/-- The row has what was stored for an entry, whatever else it has. -/
structure StoredEntry.ReturnedBy (entry : StoredEntry) (row : Row) : Prop where
  version : ∃ v, row.Holds "version" v ∧ ShowsVersion entry.version v
  start : ∃ v, row.Holds "start_time" v ∧ ShowsTime entry.start v
  finish : ∃ v, row.Holds "end_time" v ∧ ShowsTime entry.finish v

namespace LedgerEntry

/-- The entry with both times cut to whole seconds. -/
def truncated (entry : LedgerEntry) : LedgerEntry :=
  { entry with start := entry.start.truncated, finish := entry.finish.truncated }

theorem time_of_shows {t : Timestamp} {v : Value} (h : ShowsTime t.toText v) :
    ∃ text, decode v = .ok text ∧ timeOfText text = .ok t.truncated := by
  obtain ⟨fraction, hfraction, hshows⟩ := h
  exact ⟨_, hshows.decode_eq, timeOfText_append t hfraction⟩

theorem decodeRow_of_returnedBy {entry : LedgerEntry} {row : Row}
    (h : (StoredEntry.ofEntry entry).ReturnedBy row) : decodeRow row = .ok entry.truncated := by
  obtain ⟨v, hv, hversion⟩ := h.version
  obtain ⟨w, hw, hstart⟩ := h.start
  obtain ⟨x, hx, hfinish⟩ := h.finish
  obtain ⟨start, hstart, hstart'⟩ := time_of_shows hstart
  obtain ⟨finish, hfinish, hfinish'⟩ := time_of_shows hfinish
  refine bind_eq_ok_iff.mpr ⟨entry.version, hv.get_eq.trans hversion.decode_eq, ?_⟩
  refine bind_eq_ok_iff.mpr ⟨start, hw.get_eq.trans hstart, ?_⟩
  refine bind_eq_ok_iff.mpr ⟨entry.start.truncated, hstart', ?_⟩
  refine bind_eq_ok_iff.mpr ⟨finish, hx.get_eq.trans hfinish, ?_⟩
  exact bind_eq_ok_iff.mpr ⟨entry.finish.truncated, hfinish', rfl⟩

end LedgerEntry

theorem statements_record {σ δ : Type} [Catalog δ] (db : Database σ) (client : Client δ) (s : σ)
    (entry : LedgerEntry) :
    let stored := StoredEntry.ofEntry entry
    (Action.run db (client.record entry) s).statements =
      [(Statement.recordEntry client.dialect client.settings.ledgerTable,
        [.uint64 stored.version, .text stored.start, .text stored.finish])] := by
  rw [Client.record, Action.run_bind, Action.run_execute]
  obtain ⟨answer, s'⟩ := db.execute (Statement.recordEntry client.dialect
    client.settings.ledgerTable) entry.params s
  cases answer with
  | error f => rfl
  | ok count => rfl

/-- What is sent when an entry is recorded is its version and the texts of its times. From a row
with these, in whatever form and with whatever fractions, the entry is read with its times cut to
whole seconds, and so the rows of several entries are listed as the entries, in their order. -/
theorem recorded_times_come_back {σ δ : Type} [Catalog δ] (db : Database σ) (client : Client δ) :
    (∀ (entry : LedgerEntry) (s : σ), let stored := StoredEntry.ofEntry entry
      (Action.run db (client.record entry) s).statements =
        [(Statement.recordEntry client.dialect client.settings.ledgerTable,
          [.uint64 stored.version, .text stored.start, .text stored.finish])]) ∧
    (∀ (entry : LedgerEntry) (row : Row), (StoredEntry.ofEntry entry).ReturnedBy row →
      LedgerEntry.decodeRow row = .ok entry.truncated) ∧
    ∀ (entries : List LedgerEntry) (rows : List Row) (s s' : σ),
      List.Forall₂ (fun entry row => (StoredEntry.ofEntry entry).ReturnedBy row) entries rows →
      db.query (Statement.ledgerEntries client.dialect client.settings.ledgerTable) [] s =
        (.ok rows, s') →
      (Action.run db client.ledgerEntries s).result = .ok (entries.map LedgerEntry.truncated) := by
  refine ⟨fun entry s => statements_record db client s entry,
    fun entry row => LedgerEntry.decodeRow_of_returnedBy, ?_⟩
  intro entries rows s s' hreturned hquery
  have hrows : rows.mapM LedgerEntry.decodeRow = .ok (entries.map LedgerEntry.truncated) := by
    rw [mapM_eq_ok_iff, List.forall₂_map_right_iff]
    exact (hreturned.imp fun entry row => LedgerEntry.decodeRow_of_returnedBy).flip
  rw [Client.ledgerEntries, Action.run_queryMap_ok db s hquery hrows]

/-- An entry that begins before the year zero and ends within a leap second. -/
def leapEntry : LedgerEntry where
  version := 18446744073709551615
  start := ⟨-44, 2, 29, 0, 0, 7, 250000000, by decide⟩
  finish := ⟨12016, 12, 31, 23, 59, 59, 1500000000, by decide⟩

def leapRow : Row :=
  ⟨[("end_time", .bytes "+12016-12-31 23:59:60.5 UTC".toUTF8), ("note", .null),
    ("version", .uint64 18446744073709551615), ("start_time", .text "-0044-02-29 00:00:07")]⟩

theorem leapEntry_comes_back :
    (StoredEntry.ofEntry leapEntry).ReturnedBy leapRow ∧
      LedgerEntry.decodeRow leapRow = .ok leapEntry.truncated ∧
      (Action.run Recording.database (Client.ledgerEntries ⟨({} : MySql), {}⟩)
        { script := [("SELECT version, start_time", [leapRow])] }).result =
          .ok [leapEntry.truncated] := by
  have hstart : leapEntry.start.toText ++ "" = "-0044-02-29 00:00:07" := by decide +kernel
  have hfinish : leapEntry.finish.toText ++ ".5 UTC" = "+12016-12-31 23:59:60.5 UTC" := by
    decide +kernel
  have hreturned : (StoredEntry.ofEntry leapEntry).ReturnedBy leapRow :=
    { version := ⟨_, rfl, .unsigned⟩
      start := ⟨_, rfl, "", .none, hstart ▸ .characters⟩
      finish := ⟨_, rfl, ".5 UTC", .point "5 UTC", hfinish ▸ .bytes⟩ }
  obtain ⟨-, hdecodes, hlists⟩ :=
    recorded_times_come_back Recording.database (⟨{}, {}⟩ : Client MySql)
  exact ⟨hreturned, hdecodes leapEntry leapRow hreturned,
    hlists [leapEntry] [leapRow] _ _ (.cons hreturned .nil) rfl⟩

end SchemaChange
