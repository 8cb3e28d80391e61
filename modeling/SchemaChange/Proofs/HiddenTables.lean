import SchemaChange.Proofs.LedgerPlace
import SchemaChange.Proofs.NamePatterns

/-!
Which tables SQLite hides from a lookup. Its listing leaves out the names that fit a pattern, which
is meant for the internal tables of the database but fits every longer name that begins like theirs.
A table of such a name is never found, and a ledger of such a name is created at every opening.
-/
namespace SchemaChange

/-- The tables that do not look internal, which are those that a listing shows. -/
def Schemas.visible (schemas : Schemas) : Schemas :=
  { schemas with
    tables := fun schema => {name ∈ schemas.tables schema | ¬ Text.LooksInternal name} }

theorem Schemas.has_visible_iff (schemas : Schemas) (schema table : String) :
    schemas.visible.Has schema table ↔
      schemas.Has schema table ∧ ¬ Text.LooksInternal table := by
  constructor
  · rintro ⟨name, ⟨hmem, hvisible⟩, hsame⟩
    exact ⟨⟨name, hmem, hsame⟩, (Text.looksInternal_iff_of_sameName hsame).not.mp hvisible⟩
  · rintro ⟨⟨name, hmem, hsame⟩, hvisible⟩
    exact ⟨name, ⟨hmem, (Text.looksInternal_iff_of_sameName hsame).not.mpr hvisible⟩, hsame⟩

namespace Sqlite

/-- What a statement lists: the tables of a schema, or of the current one, whose names do not fit a
pattern. -/
structure TableListing where
  schema? : Option String
  excluded : String
deriving DecidableEq, Repr

/-- The pattern in the condition that a listing is under. -/
def excludedPattern? : List Token → Option String
  | [.word "WHERE", .word "type", .sign '=', .literal "table", .word "AND", .word "name",
      .word "NOT", .word "LIKE", .literal pattern] => some pattern
  | _ => none

def tableListing? : List Token → Option TableListing
  | .word "SELECT" :: .word "name" :: .word "FROM" :: .word "sqlite_master" :: rest =>
    (excludedPattern? rest).map (⟨none, ·⟩)
  | .word "SELECT" :: .word "name" :: .word "FROM" :: .name schema :: .sign '.' ::
      .word "sqlite_master" :: rest =>
    (excludedPattern? rest).map (⟨some schema, ·⟩)
  | _ => none

theorem tableListing?_listTables (d : Sqlite) (schema? : Option String) :
    (Token.read quoteMark (Dialect.listTables d schema?)).bind tableListing? =
      some ⟨schema?, "sqlite_%"⟩ := by
  rw [read_listTables, Option.bind_some]
  cases schema? with
  | none => rfl
  | some schema => rfl

/-- The database answers a listing with the tables that its condition admits, and creates tables as
a database of several schemas does. -/
structure AnswersListings {σ : Type} (d : Sqlite) (db : Database σ) (view : σ → Schemas) :
    Prop where
  lists {sql : String} {listing : TableListing} (s : σ) :
    (Token.read quoteMark sql).bind tableListing? = some listing →
      ∃ rows names s', db.query sql [] s = (.ok rows, s') ∧
        rows.mapM (Catalog.decodeTable d) = .ok names ∧
        (∀ name, name ∈ names ↔ name ∈ (view s).tables ((view s).place listing.schema?) ∧
          Text.fits listing.excluded.toList name.toList = false) ∧
        view s' = view s
  creates {sql : String} {tokens : List Token} {schema? : Option String} {table : String} (s : σ) :
    Token.read quoteMark sql = some tokens → createdTable? tokens = some (schema?, table) →
      match db.execute sql [] s with
      | (.ok _, s') =>
        table ∉ (view s).tables ((view s).place schema?) ∧
          view s' = (view s).add ((view s).place schema?) table
      | (.error _, s') => view s' = view s

section

variable {σ : Type} {db : Database σ} {view : σ → Schemas} {client : Client Sqlite}
  (h : AnswersListings client.dialect db view)
include h

theorem AnswersListings.lists_visible (schema? : Option String) (s : σ) :
    ∃ rows names s', db.query (Dialect.listTables client.dialect schema?) [] s = (.ok rows, s') ∧
      rows.mapM (Catalog.decodeTable client.dialect) = .ok names ∧
      (∀ name, name ∈ names ↔ name ∈ (view s).visible.tables ((view s).place schema?)) ∧
      view s' = view s := by
  obtain ⟨rows, names, s', hquery, hdecode, hnames, hview⟩ :=
    h.lists s (tableListing?_listTables client.dialect schema?)
  refine ⟨rows, names, s', hquery, hdecode, fun name => ?_, hview⟩
  rw [hnames, ← Bool.not_eq_true, Text.fits_internal_iff]
  rfl

theorem AnswersListings.showsTables :
    ShowsTables client.dialect db fun s => (view s).visible where
  lists schema? s := by
    obtain ⟨rows, names, s', hquery, hdecode, hnames, hview⟩ := h.lists_visible schema? s
    exact ⟨rows, names, s', hquery, hdecode, hnames, congrArg Schemas.visible hview⟩

/-- A lookup finds the tables that are there and do not look internal. -/
theorem AnswersListings.run_hasTable (name : String) (s : σ) :
    ∃ found exchanges s', Action.run db (client.hasTable name) s = ⟨.ok found, exchanges, s'⟩ ∧
      (found = true ↔ (view s).Has ((view s).place (lookupSchema? client name))
          (Text.QualifiedName.table name) ∧
        ¬ Text.LooksInternal (Text.QualifiedName.table name)) ∧
      exchanges.filterMap Exchange.statement? = [] ∧ view s' = view s := by
  obtain ⟨rows, names, s', hquery, hdecode, hnames, hview⟩ :=
    h.lists_visible (lookupSchema? client name) s
  refine ⟨_, _, s', client.run_hasTable_of_listed name hquery hdecode, ?_, rfl, hview⟩
  rw [← Schemas.has_visible_iff]
  exact isListed_iff hnames

theorem AnswersListings.keepsLedger_iff (s : σ) :
    KeepsLedger client db s ↔ ShowsLedger client (view s) ∧
      ¬ Text.LooksInternal (Text.QualifiedName.table client.settings.ledgerTable) := by
  rw [keepsLedger_iff_of_showsTables client h.showsTables s]
  exact Schemas.has_visible_iff ..

/-- Behind a successful opening the ledger is there, be it shown or not. -/
theorem AnswersListings.showsLedger_ensured
    (hdots : client.settings.ledgerTable.toList.count '.' ≤ 1) {s : σ}
    (hplace : ledgerLookup client (view s) = ledgerPlace client (view s))
    (hok : (Action.run db client.ensureLedger s).result = .ok ()) :
    ShowsLedger client (view (Action.run db client.ensureLedger s).state) := by
  obtain ⟨found, exchanges, s', hrun, hfound, -, hview⟩ :=
    h.run_hasTable client.settings.ledgerTable s
  have hhas : Action.run db client.hasLedger s = ⟨.ok found, exchanges, s'⟩ := hrun
  rw [Client.ensureLedger, Action.run_bind, hhas, Outcome.andThen_ok] at hok ⊢
  cases found with
  | true =>
    have hshown : ShowsLedger client (view s) := (hfound.mp rfl).1
    change ShowsLedger client (view s')
    rw [hview]
    exact hshown
  | false =>
    have hcreates := h.creates s' (read_createLedger client.dialect client.settings.ledgerTable)
      (createdTable?_ledgerTokens hdots)
    simp only [Bool.false_eq_true, if_false, Client.run_change] at hok ⊢
    rw [hview] at hcreates
    generalize db.execute _ [] s' = executed at hcreates hok ⊢
    obtain ⟨answer, s''⟩ := executed
    cases answer with
    | error f => cases hok
    | ok count =>
      have hadded : view s'' = (view s).add (ledgerPlace client (view s))
          (Text.QualifiedName.table client.settings.ledgerTable) := hcreates.2
      have hlookup : ledgerLookup client (view s'') = ledgerPlace client (view s) := by
        rw [hadded, ledgerLookup, Schemas.place_add, ← hplace, ledgerLookup]
      change ShowsLedger client (view s'')
      rw [ShowsLedger, hlookup, hadded]
      exact Schemas.has_add_self ..

end

/-- A server of several schemas whose listings leave out what they are asked to. -/
def listingServer : Database SchemaServer where
  query sql _ server :=
    match (Token.read quoteMark sql).bind tableListing? with
    | some listing =>
      let names := (server.listed (listing.schema?.getD server.current)).filter fun name =>
        !Text.fits listing.excluded.toList name.toList
      (.ok (names.map (ListsTables.tableRow Sqlite)), server)
    | none => (.ok [], server)
  execute := (SchemaServer.database ({} : Sqlite)).execute

theorem answersListings_listingServer : AnswersListings {} listingServer SchemaServer.view where
  lists {sql listing} server hlisting := by
    let names := (server.listed (listing.schema?.getD server.current)).filter fun name =>
      !Text.fits listing.excluded.toList name.toList
    have hquery : listingServer.query sql [] server =
        (.ok (names.map (ListsTables.tableRow Sqlite)), server) := by
      simp only [listingServer, hlisting]
      rfl
    have hdecode : (names.map (ListsTables.tableRow Sqlite)).mapM
        (Catalog.decodeTable ({} : Sqlite)) = .ok names := by
      rw [mapM_eq_ok_iff, List.forall₂_map_left_iff, List.forall₂_same]
      exact fun name _ => ListsTables.decodeTable_tableRow ({} : Sqlite) name
    refine ⟨_, names, server, hquery, hdecode, fun name => ?_, rfl⟩
    rw [List.mem_filter, Bool.not_eq_true', SchemaServer.mem_listed_iff]
    rfl
  creates := (SchemaServer.hosts ({} : Sqlite)).creates

end Sqlite

/-- On a database that lists its tables as it is asked to, a lookup finds a table if and only if it
is there, in whatever case, and its name does not look internal; this is so for the prefix of
internal names, but also for every other character in place of its underscore. After a successful
opening where the ledger is looked up in the schema in which it is created, the ledger is found
again and left alone if and only if its name does not look internal either. -/
theorem hasTable_finds_unless_internal {σ : Type} {db : Database σ} {view : σ → Schemas}
    (client : Client Sqlite) (h : Sqlite.AnswersListings client.dialect db view) :
    (∀ (name : String) (s : σ), ∃ found,
      (Action.run db (client.hasTable name) s).result = .ok found ∧
        (found = true ↔ (view s).Has ((view s).place (lookupSchema? client name))
            (Text.QualifiedName.table name) ∧
          ¬ Text.LooksInternal (Text.QualifiedName.table name))) ∧
      (∀ name, Text.LooksInternal name ↔ Text.IsReserved name ∨
        ∃ c rest, c ≠ '_' ∧ name.toList.map Char.toLower = "sqlite".toList ++ c :: rest) ∧
      ∀ s : σ, client.settings.ledgerTable.toList.count '.' ≤ 1 →
        ledgerLookup client (view s) = ledgerPlace client (view s) →
        let o := Action.run db (Client.opened client.dialect client.settings) s
        o.result = .ok client → (KeepsLedger client db o.state ↔
          ¬ Text.LooksInternal (Text.QualifiedName.table client.settings.ledgerTable)) := by
  refine ⟨fun name s => ?_, Text.looksInternal_iff, ?_⟩
  · obtain ⟨found, exchanges, s', hrun, hfound, -, -⟩ := h.run_hasTable name s
    exact ⟨found, by rw [hrun], hfound⟩
  · intro s hdots hplace o hopened
    obtain ⟨hok, hstate⟩ := ensured_of_opened client hopened
    have hshows := h.showsLedger_ensured hdots hplace hok
    rw [hstate, h.keepsLedger_iff, and_iff_right hshows]

/-- A server with a table in capitals and an internal one. -/
def shopServer : SchemaServer where
  current := "main"
  tables := [("main", "USERS"), ("main", "sqlite_sequence")]

/-- A client with a ledger of this name. -/
def ledgerClient (ledgerTable : String) : Client Sqlite := ⟨{}, { ledgerTable }⟩

theorem shop_tables_found :
    (Action.run Sqlite.listingServer ((ledgerClient "strata_log").hasTable "users")
        shopServer).result = .ok true ∧
      (Action.run Sqlite.listingServer ((ledgerClient "strata_log").hasTable "sqlite_sequence")
        shopServer).result = .ok false ∧
      KeepsLedger (ledgerClient "strata_log") Sqlite.listingServer
        (Action.run Sqlite.listingServer
          (Client.opened ({} : Sqlite) (ledgerClient "strata_log").settings) shopServer).state := by
  obtain ⟨hfinds, -, hkeeps⟩ :=
    hasTable_finds_unless_internal (ledgerClient "strata_log") Sqlite.answersListings_listingServer
  refine ⟨?_, ?_, ?_⟩
  · obtain ⟨found, hresult, hfound⟩ := hfinds "users" shopServer
    have hthere : shopServer.view.Has "main" "users" :=
      ⟨"USERS", List.mem_cons_self .., by decide +kernel⟩
    rw [hresult, hfound.mpr ⟨hthere, by decide +kernel⟩]
  · obtain ⟨found, hresult, hfound⟩ := hfinds "sqlite_sequence" shopServer
    cases found with
    | false => exact hresult
    | true => exact absurd (hfound.mp rfl).2 (by decide +kernel)
  · exact (hkeeps shopServer (by decide) rfl (by decide +kernel)).mpr (by decide +kernel)

/-- A table whose name looks internal is there and not found. A ledger of such a name is created at
the first opening and not found at the second. -/
theorem sqlitelog_not_found :
    ¬ Text.IsReserved "sqlitelog" ∧
      (let client := ledgerClient "strata_log"
      let server : SchemaServer := ⟨"main", [("main", "sqlitelog")]⟩
      server.view.Has "main" "sqlitelog" ∧
        (Action.run Sqlite.listingServer (client.hasTable "sqlitelog") server).result =
          .ok false) ∧
      let client := ledgerClient "sqlitelog"
      let opening := Client.opened ({} : Sqlite) client.settings
      let first := Action.run Sqlite.listingServer opening ⟨"main", []⟩
      first.result = .ok client ∧
        (Action.run Sqlite.listingServer client.hasLedger first.state).result = .ok false ∧
        (Action.run Sqlite.listingServer opening first.state).result =
          .error (.reported .execution "The table exists already") := by
  refine ⟨by decide +kernel, ⟨?_, by decide +kernel⟩, by decide +kernel, by decide +kernel,
    by decide +kernel⟩
  exact ⟨"sqlitelog", List.mem_cons_self .., by decide +kernel⟩

end SchemaChange
