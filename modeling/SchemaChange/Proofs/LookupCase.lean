import SchemaChange.Database.Recording
import SchemaChange.Proofs.RecasedRows

/-!
What is looked up and what is decided when names are given or listed in another case. Two clients
that ask for the same things, the one in the case of the other or not, on two databases that list
the same things, again in one case or another, get the same answers and make the same changes. What
each operation makes of a listing comes first, and then the two runs are compared.
-/
namespace SchemaChange

/-- The database answers the query with rows that decode to these. -/
def Database.Lists {σ α : Type} (db : Database σ) (sql : String)
    (decodeRow : Row → Except Failure α) (s : σ) (xs : List α) : Prop :=
  ∃ rows s', db.query sql [] s = (.ok rows, s') ∧ rows.mapM decodeRow = .ok xs

theorem Database.lists_iff {σ α : Type} {db : Database σ} {sql : String}
    {decodeRow : Row → Except Failure α} {s : σ} {xs : List α} :
    db.Lists sql decodeRow s xs ↔ db.listing sql decodeRow s = .ok xs := by
  unfold Lists listing
  rw [bind_eq_ok_iff]
  constructor
  · rintro ⟨rows, s', hquery, hrows⟩
    exact ⟨rows, congrArg Prod.fst hquery, hrows⟩
  · rintro ⟨rows, hquery, hrows⟩
    exact ⟨rows, (db.query sql [] s).2, Prod.ext hquery rfl, hrows⟩

namespace Client

variable {σ δ : Type} [Catalog δ] {db : Database σ} {s : σ} {client : Client δ} {table : String}

theorem result_hasTable {names : List String}
    (h : db.Lists (Dialect.listTables client.dialect (lookupSchema? client table))
      (Catalog.decodeTable client.dialect) s names) :
    (Action.run db (client.hasTable table) s).result = .ok (isListed table names) := by
  obtain ⟨rows, s', hquery, hnames⟩ := h
  rw [client.run_hasTable_of_listed table hquery hnames]

/-- The ledger is created unless it is listed. -/
theorem statements_ensureLedger {names : List String}
    (h : db.Lists
      (Dialect.listTables client.dialect (lookupSchema? client client.settings.ledgerTable))
      (Catalog.decodeTable client.dialect) s names) :
    (Action.run db client.ensureLedger s).statements =
      if isListed client.settings.ledgerTable names then []
      else [(Statement.createLedger client.dialect client.settings.ledgerTable, [])] := by
  obtain ⟨rows, s', hquery, hnames⟩ := h
  have hledger := client.run_hasTable_of_listed client.settings.ledgerTable hquery hnames
  rw [ensureLedger, hasLedger, Action.run_bind, hledger, Outcome.andThen_ok]
  cases isListed client.settings.ledgerTable names with
  | true => rfl
  | false =>
    simp only [Bool.false_eq_true, if_false, run_change]
    rfl

section

variable {listed : List ListedColumn}
  (h : db.Lists (Dialect.listColumns client.dialect table) (Catalog.decodeColumn client.dialect) s
    listed)
include h

theorem result_hasColumn (column : String) :
    (Action.run db (client.hasColumn table column) s).result =
      .ok (listed.any fun c => Text.sameName c.name column) := by
  obtain ⟨rows, s', hquery, hlisted⟩ := h
  rw [hasColumn_eq, Action.run_bind, Action.run_queryMap_ok db s hquery hlisted,
    ← List.isSome_find?]
  rfl

/-- The first listed column of the name gives the new one its definition. -/
theorem renameColumn_of_listed (column newName : String) :
    let o := Action.run db (client.renameColumn table column newName) s
    match listed.find? fun c => Text.sameName c.name column with
    | some definition =>
      o.statements =
        [(Dialect.renameColumn client.dialect table column newName definition, [])]
    | none => o.result = .error (.missingColumn table column) ∧ o.statements = [] := by
  obtain ⟨rows, s', hquery, hlisted⟩ := h
  intro o
  have hrun : o = (Action.run db
      (match listed.find? fun c => Text.sameName c.name column with
        | some definition =>
          change (Dialect.renameColumn client.dialect table column newName definition)
        | none => throw (Failure.missingColumn table column)) s').after
      (.query (Dialect.listColumns client.dialect table) [] (.ok rows)) := by
    change Action.run db (client.renameColumn table column newName) s = _
    rw [renameColumn_eq, Action.run_bind, Action.run_queryMap_ok db s hquery hlisted]
    rfl
  rw [hrun]
  cases listed.find? fun c => Text.sameName c.name column with
  | some definition =>
    dsimp only
    rw [run_change]
    rfl
  | none => exact ⟨rfl, rfl⟩

end

section

variable {parts : List (Option IndexPart)}
  (h : db.Lists (Dialect.listIndexes client.dialect table)
    (Catalog.decodeIndexPart client.dialect) s parts)
include h

theorem listsParts_of_lists : ∃ s' rows, ListsParts client table db s s' rows parts := by
  obtain ⟨rows, s', hquery, hparts⟩ := h
  exact ⟨s', rows, hquery, hparts⟩

/-- A lookup without columns is a failure whatever is listed. -/
theorem result_hasIndex_of_lists (columns : List String) :
    (Action.run db (client.hasIndex table columns) s).result =
      if columns = [] then .error (.emptyLookup table)
      else .ok ((ListedIndex.ofParts (parts.filterMap id)).any (·.covers columns)) := by
  obtain ⟨s', rows, hlists⟩ := listsParts_of_lists h
  by_cases hcolumns : columns = []
  · rw [if_pos hcolumns, hasIndex, if_pos hcolumns]
    rfl
  · rw [if_neg hcolumns]
    exact result_hasIndex hlists hcolumns

/-- The indexes with exactly the columns are dropped in order, up to a statement that fails. -/
theorem dropIndex_of_lists (columns : List String) :
    let o := Action.run db (client.dropIndex table columns) s
    if removedNames columns parts = [] then
      o.result = .error (.missingIndex table columns) ∧ o.statements = []
    else o.Executes ((removedNames columns parts).map fun index =>
      (Dialect.dropIndex client.dialect table index, [])) := by
  obtain ⟨s', rows, hlists⟩ := listsParts_of_lists h
  intro o
  have hrun : o = _ := run_dropIndex_of_listed columns hlists
  rw [hrun]
  by_cases hnone : removedNames columns parts = []
  · rw [if_pos hnone, if_pos hnone]
    exact ⟨rfl, rfl⟩
  · rw [if_neg hnone, if_neg hnone]
    have hdrops : (removedNames columns parts).forM (client.dropIndexNamed table) =
        (fun _ => ()) <$> Plan.executeAll ((removedNames columns parts).map fun index =>
          (Dialect.dropIndex client.dialect table index, [])) := by
      have hforM : forM ((removedNames columns parts).map
          (Dialect.dropIndex client.dialect table)) change = _ := Plan.forM_change _
      rw [List.forM_map, List.map_map] at hforM
      exact hforM
    rw [hdrops]
    have hexecutes := (executes_map_iff db (fun _ => ()) _ s' _).mpr
      (Plan.executes_executeAll db ((removedNames columns parts).map fun index =>
        (Dialect.dropIndex client.dialect table index, [])) s')
    exact hexecutes.after_query _ _ rows

end

end Client

/-- Both databases answer the query, with rows that decode to things alike, one by one. -/
structure ListAlike {σ τ α : Type} (R : α → α → Prop) (sql : String)
    (decodeRow : Row → Except Failure α) (db : Database σ) (s : σ) (db' : Database τ) (t : τ)
    (xs xs' : List α) : Prop where
  first : db.Lists sql decodeRow s xs
  second : db'.Lists sql decodeRow t xs'
  alike : List.Forall₂ R xs xs'

/-- The clients are the same but for the case of letters in the name of the ledger. -/
structure Client.Recased {δ : Type} (a b : Client δ) : Prop where
  dialect : a.dialect = b.dialect
  rest : { a.settings with ledgerTable := b.settings.ledgerTable } = b.settings
  ledger : RecasedTable a.settings.ledgerTable b.settings.ledgerTable

theorem Client.Recased.lookupSchema?_eq {δ : Type} {client client' : Client δ}
    (h : client.Recased client') {table table' : String} (htable : RecasedTable table table') :
    lookupSchema? client' table' = lookupSchema? client table := by
  have hdatabase : client.settings.database? = client'.settings.database? := by
    have hrest := congrArg Settings.database? h.rest
    exact hrest
  unfold lookupSchema?
  rw [htable.schema, hdatabase]

section

variable {σ τ δ : Type} [Catalog δ]

/-- What two clients find and do whose requests and listings differ in the case of letters. -/
structure SameDecisions (db : Database σ) (db' : Database τ) (client client' : Client δ) (s : σ)
    (t : τ) : Prop where
  hasTable {table table' : String} {names names' : List String} (htable : RecasedTable table table')
    (hlists : ListAlike Recased
      (Dialect.listTables client.dialect (lookupSchema? client table))
      (Catalog.decodeTable client.dialect) db s db' t names names') :
    ∃ found, (Action.run db (client.hasTable table) s).result = .ok found ∧
      (Action.run db' (client'.hasTable table') t).result = .ok found
  ensureLedger {names names' : List String}
    (hlists : ListAlike Recased
      (Dialect.listTables client.dialect (lookupSchema? client client.settings.ledgerTable))
      (Catalog.decodeTable client.dialect) db s db' t names names') :
    let o := Action.run db client.ensureLedger s
    let o' := Action.run db' client'.ensureLedger t
    (o.statements = [] ∧ o'.statements = []) ∨
      (o.statements =
          [(Statement.createLedger client.dialect client.settings.ledgerTable, [])] ∧
        o'.statements =
          [(Statement.createLedger client'.dialect client'.settings.ledgerTable, [])])
  hasColumn {table column column' : String} {listed listed' : List ListedColumn}
    (hcolumn : Recased column column')
    (hlists : ListAlike ListedColumn.Recased (Dialect.listColumns client.dialect table)
      (Catalog.decodeColumn client.dialect) db s db' t listed listed') :
    ∃ found, (Action.run db (client.hasColumn table column) s).result = .ok found ∧
      (Action.run db' (client'.hasColumn table column') t).result = .ok found
  /-- Both take the definition from the same place in the listing. -/
  renameColumn {table column column' newName : String} {listed listed' : List ListedColumn}
    (hcolumn : Recased column column')
    (hlists : ListAlike ListedColumn.Recased (Dialect.listColumns client.dialect table)
      (Catalog.decodeColumn client.dialect) db s db' t listed listed') :
    let o := Action.run db (client.renameColumn table column newName) s
    let o' := Action.run db' (client'.renameColumn table column' newName) t
    (∃ (i : Nat) (own own' : ListedColumn), listed[i]? = some own ∧ listed'[i]? = some own' ∧
        o.statements = [(Dialect.renameColumn client.dialect table column newName own, [])] ∧
        o'.statements =
          [(Dialect.renameColumn client'.dialect table column' newName own', [])]) ∨
      (o.result = .error (.missingColumn table column) ∧ o.statements = [] ∧
        o'.result = .error (.missingColumn table column') ∧ o'.statements = [])
  /-- A request without columns is refused by both alike. -/
  hasIndex {table : String} {columns columns' : List String} {parts parts' : List (Option IndexPart)}
    (hcolumns : List.Forall₂ Recased columns columns')
    (hlists : ListAlike (Option.Rel IndexPart.Recased) (Dialect.listIndexes client.dialect table)
      (Catalog.decodeIndexPart client.dialect) db s db' t parts parts') :
    (Action.run db (client.hasIndex table columns) s).result =
      (Action.run db' (client'.hasIndex table columns') t).result
  /-- Both drop the same indexes in the same order, each as far as the database lets it. -/
  dropIndex {table : String} {columns columns' : List String}
    {parts parts' : List (Option IndexPart)}
    (hcolumns : List.Forall₂ Recased columns columns')
    (hlists : ListAlike (Option.Rel IndexPart.Recased) (Dialect.listIndexes client.dialect table)
      (Catalog.decodeIndexPart client.dialect) db s db' t parts parts') :
    let o := Action.run db (client.dropIndex table columns) s
    let o' := Action.run db' (client'.dropIndex table columns') t
    (∃ indexes : List String, indexes ≠ [] ∧
        o.Executes (indexes.map fun index => (Dialect.dropIndex client.dialect table index, [])) ∧
        o'.Executes
          (indexes.map fun index => (Dialect.dropIndex client'.dialect table index, []))) ∨
      (o.result = .error (.missingIndex table columns) ∧ o.statements = [] ∧
        o'.result = .error (.missingIndex table columns') ∧ o'.statements = [])

/-- Names that are asked for or listed in another case lead to the same decisions. -/
theorem sameDecisions_of_recased (db : Database σ) (db' : Database τ) {client client' : Client δ}
    (hclient : client.Recased client') (s : σ) (t : τ) :
    SameDecisions db db' client client' s t where
  hasTable {table table' names names'} htable hlists := by
    have hsecond := hlists.second
    rw [← hclient.lookupSchema?_eq htable, hclient.dialect] at hsecond
    refine ⟨isListed table names, Client.result_hasTable hlists.first, ?_⟩
    rw [isListed_eq_of_recased htable hlists.alike]
    exact Client.result_hasTable hsecond
  ensureLedger {names names'} hlists := by
    intro o o'
    have hsecond := hlists.second
    rw [← hclient.lookupSchema?_eq hclient.ledger, hclient.dialect] at hsecond
    have hfirst : o.statements = _ := Client.statements_ensureLedger hlists.first
    have hother : o'.statements = _ := Client.statements_ensureLedger hsecond
    rw [← isListed_eq_of_recased hclient.ledger hlists.alike] at hother
    cases hlisted : isListed client.settings.ledgerTable names with
    | true =>
      rw [hlisted] at hfirst hother
      exact Or.inl ⟨hfirst, hother⟩
    | false =>
      rw [hlisted] at hfirst hother
      exact Or.inr ⟨hfirst, hother⟩
  hasColumn {table column column' listed listed'} hcolumn hlists := by
    have hsecond := hlists.second
    rw [hclient.dialect] at hsecond
    have hsame := any_eq_of_forall₂ hlists.alike fun own own' hown =>
      hown.name.sameName_eq hcolumn
    refine ⟨_, Client.result_hasColumn hlists.first column, ?_⟩
    rw [hsame]
    exact Client.result_hasColumn hsecond column'
  renameColumn {table column column' newName listed listed'} hcolumn hlists := by
    intro o o'
    have hsecond := hlists.second
    rw [hclient.dialect] at hsecond
    have hfirst := Client.renameColumn_of_listed hlists.first column newName
    have hother := Client.renameColumn_of_listed hsecond column' newName
    have hfound := find?_of_forall₂ hlists.alike fun own own' hown =>
      hown.name.sameName_eq hcolumn
    rcases hfound with ⟨i, own, own', -, hown, hown', hfind, hfind'⟩ | ⟨hnone, hnone'⟩
    · rw [hfind] at hfirst
      rw [hfind'] at hother
      exact Or.inl ⟨i, own, own', hown, hown', hfirst, hother⟩
    · rw [hnone] at hfirst
      rw [hnone'] at hother
      exact Or.inr ⟨hfirst.1, hfirst.2, hother⟩
  hasIndex {table columns columns' parts parts'} hcolumns hlists := by
    have hsecond := hlists.second
    rw [hclient.dialect] at hsecond
    have hcovers := any_eq_of_forall₂ (recased_listedIndexes hlists.alike) fun index index' hindex =>
      ListedIndex.covers_eq_of_recased hindex hcolumns
    have hempty : columns = [] ↔ columns' = [] := by
      cases hcolumns with
      | nil => exact Iff.rfl
      | cons hcolumn hrest => exact ⟨nofun, nofun⟩
    rw [Client.result_hasIndex_of_lists hlists.first, Client.result_hasIndex_of_lists hsecond,
      hcovers]
    simp only [hempty]
  dropIndex {table columns columns' parts parts'} hcolumns hlists := by
    intro o o'
    have hsecond := hlists.second
    rw [hclient.dialect] at hsecond
    have hfirst := Client.dropIndex_of_lists hlists.first columns
    have hother := Client.dropIndex_of_lists hsecond columns'
    rw [← removedNames_eq_of_recased hcolumns hlists.alike] at hother
    by_cases hnone : removedNames columns parts = []
    · rw [if_pos hnone] at hfirst hother
      exact Or.inr ⟨hfirst.1, hfirst.2, hother⟩
    · rw [if_neg hnone] at hfirst hother
      exact Or.inl ⟨_, hnone, hfirst, hother⟩

end

/-- A listing that decodes does so in another case too; and whatever two databases list, changing
the case of ASCII letters in names that are asked for or listed changes nothing of what is found,
created, taken over or dropped. -/
theorem lookups_ignore_ascii_case :
    (∀ d : MySql, ReadsRecased d "Field" "Column_name") ∧
    (∀ d : Sqlite, ReadsRecased d "name" "column_name") ∧
    ∀ {σ τ δ : Type} [Catalog δ] (db : Database σ) (db' : Database τ) {client client' : Client δ},
      client.Recased client' → ∀ (s : σ) (t : τ), SameDecisions db db' client client' s t :=
  ⟨MySql.readsRecased, Sqlite.readsRecased, fun db db' _ _ hclient s t =>
    sameDecisions_of_recased db db' hclient s t⟩

section

theorem Recording.lists_of_rowsFor {α : Type} {sql : String} {decodeRow : Row → Except Failure α}
    {s : State} (rows : List Row) {xs : List α} (hrows : s.rowsFor sql = rows)
    (hdecodes : rows.mapM decodeRow = .ok xs) : database.Lists sql decodeRow s xs :=
  ⟨s.rowsFor sql, _, rfl, hrows ▸ hdecodes⟩

/-- A client with a capital sigma in the name of its ledger. -/
def sigmaClient (ledgerTable : String) : Client MySql := ⟨{}, { ledgerTable }⟩

/-- The rows that list one table. -/
def sigmaTables (name : String) : List Row := [⟨[("Tables", .text name)]⟩]

/-- The rows that list one index, on one column. -/
def sigmaParts (name : String) : List Row :=
  [⟨[("Non_unique", .text "1"), ("Key_name", .text "by_road"), ("Column_name", .text name)]⟩]

/-- A database with one table, which has one index, on a column of the same name. -/
def sigmaListing (name : String) : Recording.State where
  script :=
    [("SHOW TABLES IN `app`", sigmaTables name),
      ("SHOW INDEXES FROM `app`.`a`", sigmaParts name)]

/-- How dropping the index goes. -/
def sigmaRemoval (client : Client MySql) (requested listed : String) :
    Outcome Recording.State (Except Failure Unit) :=
  Action.run Recording.database (client.dropIndex "app.a" [requested]) (sigmaListing listed)

/-- Behind an ASCII letter a capital sigma is a final one, in whatever case the letter is. -/
theorem final_sigma_in_either_case :
    let client := sigmaClient "app.logΣ"
    let client' := sigmaClient "app.LogΣ"
    client.Recased client' ∧ RecasedTable "app.roadΣ" "app.RoadΣ" ∧ Recased "ROADΣ" "roadΣ" ∧
      (∃ found, (Action.run Recording.database (client.hasTable "app.roadΣ")
            (sigmaListing "ROADΣ")).result = .ok found ∧
          (Action.run Recording.database (client'.hasTable "app.RoadΣ")
            (sigmaListing "roadΣ")).result = .ok found) ∧
      ∃ indexes : List String, indexes ≠ [] ∧
        (sigmaRemoval client "roadΣ" "ROADΣ").Executes
          (indexes.map fun index => (Dialect.dropIndex client.dialect "app.a" index, [])) ∧
        (sigmaRemoval client' "RoadΣ" "roadΣ").Executes
          (indexes.map fun index => (Dialect.dropIndex client'.dialect "app.a" index, [])) := by
  intro client client'
  have hclient : client.Recased client' := ⟨rfl, rfl, by decide, by decide⟩
  have htable : RecasedTable "app.roadΣ" "app.RoadΣ" := ⟨by decide, by decide⟩
  have hlisted : Recased "ROADΣ" "roadΣ" := by decide
  obtain ⟨hread, -, hdecisions⟩ := lookups_ignore_ascii_case
  have hcell : (Value.text "ROADΣ").Recased (.text "roadΣ") := Or.inr ⟨_, _, rfl, rfl, hlisted⟩
  have htableRows : List.Forall₂ (Row.RecasedIn fun _ => True) (sigmaTables "ROADΣ")
      (sigmaTables "roadΣ") :=
    .cons (.cons ⟨rfl, hcell, fun h => absurd trivial h⟩ .nil) .nil
  have hpartRows : List.Forall₂ (Row.RecasedIn (· = "Column_name")) (sigmaParts "ROADΣ")
      (sigmaParts "roadΣ") :=
    .cons (.cons ⟨rfl, Or.inl rfl, fun _ => rfl⟩ (.cons ⟨rfl, Or.inl rfl, fun _ => rfl⟩
      (.cons ⟨rfl, hcell, fun h => absurd rfl h⟩ .nil))) .nil
  obtain ⟨names', hnames', halike⟩ := (hread client.dialect).tables htableRows ["ROADΣ"] rfl
  obtain ⟨parts', hparts', halikeParts⟩ := (hread client.dialect).parts hpartRows
    [some ⟨"by_road", "ROADΣ", false⟩] rfl
  have hsame := hdecisions Recording.database Recording.database hclient
    (sigmaListing "ROADΣ") (sigmaListing "roadΣ")
  have htables : ListAlike Recased (Dialect.listTables client.dialect (some "app"))
      (Catalog.decodeTable client.dialect) Recording.database (sigmaListing "ROADΣ")
      Recording.database (sigmaListing "roadΣ") ["ROADΣ"] names' :=
    ⟨Recording.lists_of_rowsFor (sigmaTables "ROADΣ") (by decide +kernel) rfl,
      Recording.lists_of_rowsFor (sigmaTables "roadΣ") (by decide +kernel) hnames', halike⟩
  have hparts : ListAlike (Option.Rel IndexPart.Recased) (Dialect.listIndexes client.dialect "app.a")
      (Catalog.decodeIndexPart client.dialect) Recording.database (sigmaListing "ROADΣ")
      Recording.database (sigmaListing "roadΣ") [some ⟨"by_road", "ROADΣ", false⟩] parts' :=
    ⟨Recording.lists_of_rowsFor (sigmaParts "ROADΣ") (by decide +kernel) rfl,
      Recording.lists_of_rowsFor (sigmaParts "roadΣ") (by decide +kernel) hparts', halikeParts⟩
  have hrequested : List.Forall₂ Recased ["roadΣ"] ["RoadΣ"] := .cons (by decide) .nil
  have hfound := hsame.hasTable htable htables
  have hdropped := hsame.dropIndex hrequested hparts
  have hstatements : (sigmaRemoval client "roadΣ" "ROADΣ").statements ≠ [] := by
    unfold client
    decide +kernel
  exact ⟨hclient, htable, hlisted, hfound,
    hdropped.resolve_right fun hmissing => hstatements hmissing.2.1⟩

end

end SchemaChange
