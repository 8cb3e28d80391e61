import SchemaChange.Proofs.SchemaServer
import SchemaChange.Proofs.TableLookup

/-!
Where the ledger is created and where it is looked up. A ledger with a schema in its name is created
in that schema and looked up there. Any other is created in the current schema of the database, but
looked up in the schema of the settings when these name one; once a client has been opened, its
ledger is found again exactly when both are the same, or when the ledger had been listed all along.
-/
namespace SchemaChange

section

variable {δ : Type} [Catalog δ] (client : Client δ)

/-- The schema in which the ledger is looked up. -/
def ledgerLookup (schemas : Schemas) : String :=
  schemas.place (lookupSchema? client client.settings.ledgerTable)

/-- The schema in which the ledger is created. -/
def ledgerPlace (schemas : Schemas) : String :=
  schemas.place (Text.QualifiedName.schema? client.settings.ledgerTable)

def ShowsLedger (schemas : Schemas) : Prop :=
  schemas.Has (ledgerLookup client schemas) (Text.QualifiedName.table client.settings.ledgerTable)

/-- The ledger is found, and neither opening the client again nor ensuring the ledger executes any
statement. -/
structure KeepsLedger {σ : Type} (db : Database σ) (s : σ) : Prop where
  found : (Action.run db client.hasLedger s).result = .ok true
  opened : (Action.run db (Client.opened client.dialect client.settings) s).result = .ok client
  opened_nothing :
    (Action.run db (Client.opened client.dialect client.settings) s).statements = []
  ensured : (Action.run db client.ensureLedger s).result = .ok ()
  ensured_nothing : (Action.run db client.ensureLedger s).statements = []

omit [Catalog δ] in
theorem ledgerLookup_eq_iff (schemas : Schemas) :
    ledgerLookup client schemas = ledgerPlace client schemas ↔
      (∃ schema, Text.QualifiedName.schema? client.settings.ledgerTable = some schema) ∨
        client.settings.database? = none ∨ client.settings.database? = some schemas.current := by
  unfold ledgerLookup ledgerPlace lookupSchema?
  cases Text.QualifiedName.schema? client.settings.ledgerTable with
  | some schema => simp
  | none =>
    cases client.settings.database? with
    | none => simp
    | some database => simp [Schemas.place]

end

section

variable {σ δ : Type} [Catalog δ] {db : Database σ} {view : σ → Schemas} (client : Client δ)

/-- Looking for the ledger asks once and changes nothing. -/
theorem run_hasLedger (shows : ShowsTables client.dialect db view) (s : σ) :
    ∃ found exchanges s', Action.run db client.hasLedger s = ⟨.ok found, exchanges, s'⟩ ∧
      (found = true ↔ ShowsLedger client (view s)) ∧
      exchanges.filterMap Exchange.statement? = [] ∧ view s' = view s :=
  client.run_hasTable client.settings.ledgerTable shows s

theorem run_ensureLedger_of_shows (shows : ShowsTables client.dialect db view) {s : σ}
    (h : ShowsLedger client (view s)) :
    ∃ exchanges s', Action.run db client.ensureLedger s = ⟨.ok (), exchanges, s'⟩ ∧
      exchanges.filterMap Exchange.statement? = [] ∧ view s' = view s := by
  obtain ⟨found, exchanges, s', hrun, hfound, hnone, hview⟩ := run_hasLedger client shows s
  have htrue : found = true := hfound.mpr h
  subst htrue
  refine ⟨exchanges, s', ?_, hnone, hview⟩
  rw [Client.ensureLedger, Action.run_bind, hrun, Outcome.andThen_ok]
  simp [Action.run_pure]

/-- A ledger that is not shown is created in its place, unless that fails. -/
theorem view_ensureLedger_of_not_shows [Spelled δ] (hosts : Hosts client.dialect db view)
    (hdots : client.settings.ledgerTable.toList.count '.' ≤ 1) {s : σ}
    (h : ¬ ShowsLedger client (view s))
    (hok : (Action.run db client.ensureLedger s).result = .ok ()) :
    view (Action.run db client.ensureLedger s).state =
      (view s).add (ledgerPlace client (view s))
        (Text.QualifiedName.table client.settings.ledgerTable) := by
  obtain ⟨found, exchanges, s', hrun, hfound, -, hview⟩ :=
    run_hasLedger client hosts.showsTables s
  have hfalse : found = false := by simpa [h] using hfound
  subst hfalse
  have hcreates := hosts.creates s' (read_createLedger client.dialect client.settings.ledgerTable)
    (createdTable?_ledgerTokens hdots)
  rw [hview] at hcreates
  rw [Client.ensureLedger, Action.run_bind, hrun, Outcome.andThen_ok] at hok ⊢
  simp only [Bool.false_eq_true, if_false, Client.change, Action.run_bind, Action.run_execute]
    at hok ⊢
  generalize db.execute _ [] s' = executed at hcreates hok ⊢
  obtain ⟨answer, s''⟩ := executed
  cases answer with
  | error f => cases hok
  | ok count => exact hcreates.2

/-- Opening a client is ensuring its ledger. -/
theorem run_opened (db : Database σ) (s : σ) :
    Action.run db (Client.opened client.dialect client.settings) s =
      (Action.run db client.ensureLedger s).andThen fun _ s => ⟨.ok client, [], s⟩ :=
  Action.run_bind db s _ _

/-- A client is opened when its ledger is ensured, and nothing else is done. -/
theorem ensured_of_opened {db : Database σ} {s : σ}
    (h : (Action.run db (Client.opened client.dialect client.settings) s).result = .ok client) :
    (Action.run db client.ensureLedger s).result = .ok () ∧
      (Action.run db (Client.opened client.dialect client.settings) s).state =
        (Action.run db client.ensureLedger s).state := by
  rw [run_opened] at h ⊢
  generalize Action.run db client.ensureLedger s = o at h ⊢
  obtain ⟨result, exchanges, s'⟩ := o
  cases result with
  | error f => cases h
  | ok u => exact ⟨rfl, rfl⟩

theorem keepsLedger_iff_of_showsTables (shows : ShowsTables client.dialect db view) (s : σ) :
    KeepsLedger client db s ↔ ShowsLedger client (view s) := by
  constructor
  · intro h
    obtain ⟨found, exchanges, s', hrun, hfound, -, -⟩ := run_hasLedger client shows s
    have hresult := h.found
    rw [hrun] at hresult
    exact hfound.mp (Except.ok.inj hresult)
  · intro h
    obtain ⟨found, asked, s', hhas, hfound, -, -⟩ := run_hasLedger client shows s
    obtain ⟨exchanges, s'', hensure, hnone, -⟩ := run_ensureLedger_of_shows client shows h
    have hopened := run_opened client db s
    rw [hensure, Outcome.andThen_ok, List.append_nil] at hopened
    exact {
      found := by rw [hhas, hfound.mpr h]
      opened := by rw [hopened]
      opened_nothing := by rw [hopened]; exact hnone
      ensured := by rw [hensure]
      ensured_nothing := by rw [hensure]; exact hnone }

theorem keepsLedger_iff (hosts : Hosts client.dialect db view) (s : σ) :
    KeepsLedger client db s ↔ ShowsLedger client (view s) :=
  keepsLedger_iff_of_showsTables client hosts.showsTables s

/-- After opening, the ledger is shown where it was created or where it had been shown before. -/
theorem showsLedger_ensured_iff [Spelled δ] (hosts : Hosts client.dialect db view)
    (hdots : client.settings.ledgerTable.toList.count '.' ≤ 1) {s : σ}
    (hok : (Action.run db client.ensureLedger s).result = .ok ()) :
    ShowsLedger client (view (Action.run db client.ensureLedger s).state) ↔
      ledgerLookup client (view s) = ledgerPlace client (view s) ∨ ShowsLedger client (view s) := by
  by_cases hshows : ShowsLedger client (view s)
  · obtain ⟨exchanges, s', hrun, -, hview⟩ :=
      run_ensureLedger_of_shows client hosts.showsTables hshows
    rw [hrun, hview]
    exact ⟨Or.inr, fun _ => hshows⟩
  · have hview := view_ensureLedger_of_not_shows client hosts hdots hshows hok
    have hlookup : ledgerLookup client (view (Action.run db client.ensureLedger s).state) =
        ledgerLookup client (view s) := by
      rw [hview, ledgerLookup, Schemas.place_add, ledgerLookup]
    rw [ShowsLedger, hlookup, hview]
    by_cases hplace : ledgerLookup client (view s) = ledgerPlace client (view s)
    · rw [hplace]
      exact ⟨fun _ => Or.inl rfl, fun _ => Schemas.has_add_self _ _ _⟩
    · rw [Schemas.has_add_iff_of_ne _ hplace]
      exact ⟨Or.inr, fun h => h.resolve_left hplace⟩

/-- Once a client has been opened, its ledger is found again and left alone exactly when the name of
the ledger or the settings do not lead the lookup away from the current schema, or when the ledger
had been there before. -/
theorem opened_keepsLedger_iff [Spelled δ] (hosts : Hosts client.dialect db view)
    (hdots : client.settings.ledgerTable.toList.count '.' ≤ 1) (s : σ)
    (hopened : (Action.run db (Client.opened client.dialect client.settings) s).result =
      .ok client) :
    KeepsLedger client db
        (Action.run db (Client.opened client.dialect client.settings) s).state ↔
      (∃ schema, Text.QualifiedName.schema? client.settings.ledgerTable = some schema) ∨
        client.settings.database? = none ∨
        client.settings.database? = some (view s).current ∨
        ShowsLedger client (view s) := by
  have hrun := run_opened client db s
  have hok : (Action.run db client.ensureLedger s).result = .ok () := by
    rw [hrun] at hopened
    generalize Action.run db client.ensureLedger s = o at hopened ⊢
    obtain ⟨result, exchanges, s'⟩ := o
    cases result with
    | error f => cases hopened
    | ok u => rfl
  have hstate : (Action.run db (Client.opened client.dialect client.settings) s).state =
      (Action.run db client.ensureLedger s).state := by
    rw [hrun, Outcome.andThen, hok]
  rw [hstate, keepsLedger_iff client hosts, showsLedger_ensured_iff client hosts hdots hok,
    ledgerLookup_eq_iff, or_assoc, or_assoc]

end

section

def emptyServer : SchemaServer := { current := "app" }

/-- A client that looks for its tables in another schema than the current one. -/
def strayClient : Client MySql := ⟨{}, { database? := some "other" }⟩

/-- How the opening of a client goes on a server without tables. -/
def openedOnEmpty (client : Client MySql) :
    Outcome SchemaServer (Except Failure (Client MySql)) :=
  Action.run (SchemaServer.database client.dialect)
    (Client.opened client.dialect client.settings) emptyServer

def usualClient : Client MySql := ⟨{}, {}⟩

theorem usual_ledger_kept :
    (openedOnEmpty usualClient).result = .ok usualClient ∧
      KeepsLedger usualClient (SchemaServer.database usualClient.dialect)
        (openedOnEmpty usualClient).state := by
  have hopened : (openedOnEmpty usualClient).result = .ok usualClient := by decide +kernel
  have hkept := opened_keepsLedger_iff usualClient (SchemaServer.hosts usualClient.dialect)
    (by decide) emptyServer hopened
  exact ⟨hopened, hkept.mpr (Or.inr (Or.inl rfl))⟩

/-- The ledger of a client that looks elsewhere is created, but not found again. -/
theorem stray_ledger_lost :
    Hosts strayClient.dialect (SchemaServer.database strayClient.dialect) SchemaServer.view ∧
      (openedOnEmpty strayClient).result = .ok strayClient ∧
      ¬ KeepsLedger strayClient (SchemaServer.database strayClient.dialect)
        (openedOnEmpty strayClient).state := by
  refine ⟨SchemaServer.hosts _, by decide +kernel, fun h => ?_⟩
  have hfound : (Action.run (SchemaServer.database strayClient.dialect) strayClient.hasLedger
      (openedOnEmpty strayClient).state).result = .ok false := by
    decide +kernel
  exact absurd (h.found.symm.trans hfound) (by decide)

end

end SchemaChange
