import SchemaChange.Proofs.LookupCase

/-!
Changes that look before they act. Renaming a column, dropping an index by its columns and creating
the ledger begin with a listing, and the lookups of a client read the same listings. So a lookup
tells how the change behind it goes, as long as the database answers queries alike in between: a
column is renamed exactly when it is found, an index that is dropped is found, and the ledger is
created exactly when it is not found. A listing that fails, be it in its last row, fails both.
-/
namespace SchemaChange

/-- The database answers each query alike in the two states. -/
def Database.AnswersAlike {σ : Type} (db : Database σ) (s t : σ) : Prop :=
  ∀ sql, (db.query sql [] s).1 = (db.query sql [] t).1

theorem Database.AnswersAlike.listing_eq {σ α : Type} {db : Database σ} {s t : σ}
    (h : db.AnswersAlike s t) (sql : String) (decodeRow : Row → Except Failure α) :
    db.listing sql decodeRow s = db.listing sql decodeRow t := by
  unfold Database.listing
  rw [h sql]

/-- It has failed before anything was executed. -/
def Outcome.FailedUntouched {σ α : Type} (o : Outcome σ (Except Failure α)) (f : Failure) : Prop :=
  o.result = .error f ∧ o.statements = []

theorem Outcome.FailedUntouched.statements_ne_cons {σ α : Type} {o : Outcome σ (Except Failure α)}
    {f : Failure} (h : o.FailedUntouched f) {statement : String × List Value}
    {rest : List (String × List Value)} : o.statements ≠ statement :: rest := by
  rw [h.2]
  exact (List.cons_ne_nil _ _).symm

namespace Action

variable {σ α β : Type} {db : Database σ} {s : σ} {f : Failure}

theorem failedUntouched_queryMap {sql : String} {decodeRow : Row → Except Failure α}
    (h : db.listing sql decodeRow s = .error f) :
    (run db (queryMap sql decodeRow) s).FailedUntouched f := by
  rw [run_queryMap, h]
  exact ⟨rfl, rfl⟩

/-- What would follow has no part in it. -/
theorem failedUntouched_bind {x : Action α} (h : (run db x s).FailedUntouched f)
    (next : α → Action β) : (run db (x >>= next) s).FailedUntouched f := by
  obtain ⟨hresult, hstatements⟩ := h
  rw [run_bind, Outcome.andThen, hresult]
  exact ⟨rfl, hstatements⟩

end Action

section

variable {σ δ : Type} [Catalog δ] (db : Database σ) (client : Client δ) (table : String)

/-- The columns of a table as the database lists them. -/
def Client.listedColumns (s : σ) : Except Failure (List ListedColumn) :=
  db.listing (Dialect.listColumns client.dialect table) (Catalog.decodeColumn client.dialect) s

/-- The ways in which a listing of columns can come out, with the answer to a lookup and the course
of a renaming. -/
inductive ColumnCourse (column newName : String) (listing : Except Failure (List ListedColumn))
    (found : Except Failure Bool) (o : Outcome σ (Except Failure Unit)) : Prop
  | unlisted {f : Failure} (hlisting : listing = .error f) (hfound : found = .error f)
      (hfailed : o.FailedUntouched f)
  | missing {listed : List ListedColumn} (hlisting : listing = .ok listed)
      (hfound : found = .ok false) (hfailed : o.FailedUntouched (.missingColumn table column))
  | renamed {definition : ListedColumn} (hfound : found = .ok true)
      (hstatements : o.statements =
        [(Dialect.renameColumn client.dialect table column newName definition, [])])

namespace ColumnCourse

variable {client table} {column newName : String}
  {listing : Except Failure (List ListedColumn)} {found : Except Failure Bool}
  {o : Outcome σ (Except Failure Unit)}
  (h : ColumnCourse client table column newName listing found o)
include h

theorem unlisted_iff (f : Failure) :
    found = .error f ↔ o.FailedUntouched f ∧ listing = .error f := by
  cases h with
  | unlisted hlisting hfound hfailed =>
    rw [hfound, hlisting]
    constructor
    · intro heq
      cases heq
      exact ⟨hfailed, rfl⟩
    · rintro ⟨-, heq⟩
      cases heq
      rfl
  | missing hlisting hfound hfailed =>
    rw [hfound, hlisting]
    exact iff_of_false nofun fun hboth => nomatch hboth.2
  | renamed hfound hstatements =>
    rw [hfound]
    exact iff_of_false nofun fun hboth => hboth.1.statements_ne_cons hstatements

theorem missing_iff :
    found = .ok false ↔
      o.FailedUntouched (.missingColumn table column) ∧ ∃ listed, listing = .ok listed := by
  cases h with
  | unlisted hlisting hfound hfailed =>
    rw [hfound, hlisting]
    exact iff_of_false nofun fun hboth => nomatch hboth.2.choose_spec
  | missing hlisting hfound hfailed => exact iff_of_true hfound ⟨hfailed, _, hlisting⟩
  | renamed hfound hstatements =>
    rw [hfound]
    exact iff_of_false nofun fun hboth => hboth.1.statements_ne_cons hstatements

/-- No other failure without a statement is of this kind. -/
theorem missing_iff_kind (hlisting : ∀ f, listing = .error f → f.kind ≠ .columnNotFound) :
    found = .ok false ↔ ∃ f, o.FailedUntouched f ∧ f.kind = .columnNotFound := by
  cases h with
  | @unlisted own hown hfound hfailed =>
    rw [hfound]
    refine iff_of_false nofun ?_
    rintro ⟨f, hother, hkind⟩
    have heq : own = f := Except.error.inj (hfailed.1.symm.trans hother.1)
    rw [← heq] at hkind
    exact hlisting own hown hkind
  | missing hlisted hfound hfailed => exact iff_of_true hfound ⟨_, hfailed, rfl⟩
  | renamed hfound hstatements =>
    rw [hfound]
    exact iff_of_false nofun fun ⟨_, hfailed, _⟩ => hfailed.statements_ne_cons hstatements

theorem renamed_iff :
    found = .ok true ↔ ∃ definition, o.statements =
      [(Dialect.renameColumn client.dialect table column newName definition, [])] := by
  cases h with
  | unlisted hlisting hfound hfailed =>
    rw [hfound]
    exact iff_of_false nofun fun ⟨_, hstatements⟩ => hfailed.statements_ne_cons hstatements
  | missing hlisting hfound hfailed =>
    rw [hfound]
    exact iff_of_false nofun fun ⟨_, hstatements⟩ => hfailed.statements_ne_cons hstatements
  | renamed hfound hstatements => exact iff_of_true hfound ⟨_, hstatements⟩

end ColumnCourse

/-- What lookups find in one state, and how the changes go in another. -/
structure TellsChanges (s t : σ) : Prop where
  columns_unlisted (column newName : String) (f : Failure) :
    (Action.run db (client.hasColumn table column) s).result = .error f ↔
      (Action.run db (client.renameColumn table column newName) t).FailedUntouched f ∧
        client.listedColumns db table t = .error f
  column_missing (column newName : String) :
    (Action.run db (client.hasColumn table column) s).result = .ok false ↔
      (Action.run db (client.renameColumn table column newName) t).FailedUntouched
          (.missingColumn table column) ∧
        ∃ listed, client.listedColumns db table t = .ok listed
  /-- The kind of the failure is enough, unless the listing fails with that kind by itself. -/
  column_missing_kind (column newName : String)
    (hlisting : ∀ f, client.listedColumns db table t = .error f → f.kind ≠ .columnNotFound) :
    (Action.run db (client.hasColumn table column) s).result = .ok false ↔
      ∃ f, (Action.run db (client.renameColumn table column newName) t).FailedUntouched f ∧
        f.kind = .columnNotFound
  column_found (column newName : String) :
    (Action.run db (client.hasColumn table column) s).result = .ok true ↔
      ∃ definition, (Action.run db (client.renameColumn table column newName) t).statements =
        [(Dialect.renameColumn client.dialect table column newName definition, [])]
  index_found {columns : List String} (hcolumns : columns ≠ [])
    (hstatements : (Action.run db (client.dropIndex table columns) t).statements ≠ []) :
    (Action.run db (client.hasIndex table columns) s).result = .ok true
  ledger_lookup : client.hasLedger = client.hasTable client.settings.ledgerTable
  ledger_missing :
    (Action.run db client.hasLedger s).result = .ok false ↔
      (Action.run db client.ensureLedger t).statements =
        [(Statement.createLedger client.dialect client.settings.ledgerTable, [])]
  ledger_untouched (h : (Action.run db client.hasLedger s).result ≠ .ok false) :
    (Action.run db client.ensureLedger t).statements = []

variable {db} {s t : σ} (h : db.AnswersAlike s t)
include h

theorem columnCourse (column newName : String) :
    ColumnCourse client table column newName (client.listedColumns db table t)
      (Action.run db (client.hasColumn table column) s).result
      (Action.run db (client.renameColumn table column newName) t) := by
  have hsame := h.listing_eq (Dialect.listColumns client.dialect table)
    (Catalog.decodeColumn client.dialect)
  change _ = client.listedColumns db table t at hsame
  cases hlisting : client.listedColumns db table t with
  | error f =>
    rw [hlisting] at hsame
    have hfound : (Action.run db (client.hasColumn table column) s).FailedUntouched f := by
      rw [Client.hasColumn_eq]
      exact Action.failedUntouched_bind (Action.failedUntouched_queryMap hsame) _
    have hrenamed : (Action.run db
        (client.renameColumn table column newName) t).FailedUntouched f := by
      rw [Client.renameColumn_eq]
      exact Action.failedUntouched_bind (Action.failedUntouched_queryMap hlisting) _
    exact .unlisted rfl hfound.1 hrenamed
  | ok listed =>
    rw [hlisting] at hsame
    have hfound := Client.result_hasColumn (Database.lists_iff.mpr hsame) column
    have hrenamed := Client.renameColumn_of_listed (Database.lists_iff.mpr hlisting) column newName
    rw [← List.isSome_find?] at hfound
    cases hfind : listed.find? fun c => Text.sameName c.name column with
    | none =>
      rw [hfind] at hfound hrenamed
      exact .missing rfl hfound hrenamed
    | some definition =>
      rw [hfind] at hfound hrenamed
      exact .renamed hfound hrenamed

/-- An index with exactly the columns has all of them. -/
theorem result_hasIndex_of_dropped {columns : List String} (hcolumns : columns ≠ [])
    (hstatements : (Action.run db (client.dropIndex table columns) t).statements ≠ []) :
    (Action.run db (client.hasIndex table columns) s).result = .ok true := by
  have hsame := h.listing_eq (Dialect.listIndexes client.dialect table)
    (Catalog.decodeIndexPart client.dialect)
  cases hlisting : db.listing (Dialect.listIndexes client.dialect table)
      (Catalog.decodeIndexPart client.dialect) t with
  | error f =>
    have hindexes : (Action.run db (client.indexes table) t).FailedUntouched f :=
      Action.failedUntouched_bind (Action.failedUntouched_queryMap hlisting) _
    exact absurd (Action.failedUntouched_bind hindexes _).2 hstatements
  | ok parts =>
    have hfound := Client.result_hasIndex_of_lists
      (Database.lists_iff.mpr (hsame.trans hlisting)) columns
    have hdropped := Client.dropIndex_of_lists (Database.lists_iff.mpr hlisting) columns
    rw [hfound, if_neg hcolumns]
    by_cases hnone : removedNames columns parts = []
    · rw [if_pos hnone] at hdropped
      exact absurd hdropped.2 hstatements
    · obtain ⟨name, hname⟩ := List.exists_mem_of_ne_nil _ hnone
      obtain ⟨index, hindex, -⟩ := List.mem_map.mp hname
      obtain ⟨hlisted, hexactly⟩ := List.mem_filter.mp hindex
      have hcovers : index.covers columns = true := by
        unfold ListedIndex.isExactly at hexactly
        exact (Bool.and_eq_true_iff.mp hexactly).1
      exact congrArg Except.ok (List.any_eq_true.mpr ⟨index, hlisted, hcovers⟩)

/-- The ledger is created when it is not found, and nothing is executed in any other case. -/
theorem statements_ensureLedger_of_alike :
    (Action.run db client.ensureLedger t).statements =
      if (Action.run db client.hasLedger s).result = .ok false then
        [(Statement.createLedger client.dialect client.settings.ledgerTable, [])]
      else [] := by
  let sql := Dialect.listTables client.dialect (lookupSchema? client client.settings.ledgerTable)
  have hsame := h.listing_eq sql (Catalog.decodeTable client.dialect)
  cases hlisting : db.listing sql (Catalog.decodeTable client.dialect) t with
  | error f =>
    have hfound : (Action.run db client.hasLedger s).FailedUntouched f :=
      Action.failedUntouched_bind (Action.failedUntouched_queryMap (hsame.trans hlisting)) _
    have hlooked : (Action.run db client.hasLedger t).FailedUntouched f :=
      Action.failedUntouched_bind (Action.failedUntouched_queryMap hlisting) _
    have hensured : (Action.run db client.ensureLedger t).FailedUntouched f :=
      Action.failedUntouched_bind hlooked _
    rw [hensured.2, hfound.1, if_neg nofun]
  | ok names =>
    have hfound : (Action.run db client.hasLedger s).result = _ :=
      Client.result_hasTable (Database.lists_iff.mpr (hsame.trans hlisting))
    rw [Client.statements_ensureLedger (Database.lists_iff.mpr hlisting), hfound]
    cases isListed client.settings.ledgerTable names with
    | true => rfl
    | false => rfl

end

/-- On a database that answers queries alike, lookups tell how the changes go. -/
theorem lookups_tell_changes {σ δ : Type} [Catalog δ] (db : Database σ) (client : Client δ)
    (table : String) {s t : σ} (h : db.AnswersAlike s t) : TellsChanges db client table s t where
  columns_unlisted column newName := (columnCourse client table h column newName).unlisted_iff
  column_missing column newName := (columnCourse client table h column newName).missing_iff
  column_missing_kind column newName :=
    (columnCourse client table h column newName).missing_iff_kind
  column_found column newName := (columnCourse client table h column newName).renamed_iff
  index_found := result_hasIndex_of_dropped client table h
  ledger_lookup := rfl
  ledger_missing := by
    rw [statements_ensureLedger_of_alike client h]
    by_cases hmissing : (Action.run db client.hasLedger s).result = .ok false
    · rw [if_pos hmissing]
      exact iff_of_true hmissing rfl
    · rw [if_neg hmissing]
      exact iff_of_false hmissing (List.cons_ne_nil _ _).symm
  ledger_untouched hfound := by
    rw [statements_ensureLedger_of_alike client h, if_neg hfound]

section

/-- A table with one column and an index on it, and no ledger. -/
def tagListing : Recording.State where
  script :=
    [("SHOW COLUMNS FROM", [⟨[("Field", .text "Tag"), ("Type", .text "varchar(20)"),
        ("Null", .text "NO"), ("Default", .null), ("Extra", .text "")]⟩]),
      ("SHOW INDEXES FROM", [indexRow "by_tag" (some "TAG") none])]

/-- The same listings, when there has been a query already. -/
def tagsAsked : Recording.State := { tagListing with queried := ["SHOW TABLES"] }

def tagClient : Client MySql := ⟨{}, {}⟩

theorem tag_found_and_renamed :
    let db := Recording.database
    db.AnswersAlike tagListing tagsAsked ∧
      (Action.run db (tagClient.hasColumn "notes" "TAG") tagListing).result = .ok true ∧
      (∃ definition, (Action.run db (tagClient.renameColumn "notes" "TAG" "label")
          tagsAsked).statements =
        [(Dialect.renameColumn tagClient.dialect "notes" "TAG" "label" definition, [])]) ∧
      (Action.run db (tagClient.renameColumn "notes" "text" "label") tagsAsked).FailedUntouched
        (.missingColumn "notes" "text") ∧
      (Action.run db (tagClient.hasIndex "notes" ["tag"]) tagListing).result = .ok true ∧
      (Action.run db tagClient.ensureLedger tagsAsked).statements =
        [(Statement.createLedger tagClient.dialect "strata_log", [])] := by
  intro db
  have halike : db.AnswersAlike tagListing tagsAsked := fun sql => rfl
  have htells := lookups_tell_changes db tagClient "notes" halike
  have hfound : (Action.run db (tagClient.hasColumn "notes" "TAG") tagListing).result =
      .ok true := by
    unfold db
    decide +kernel
  have hmissing : (Action.run db (tagClient.hasColumn "notes" "text") tagListing).result =
      .ok false := by
    unfold db
    decide +kernel
  have hdropped : (Action.run db (tagClient.dropIndex "notes" ["tag"]) tagsAsked).statements ≠
      [] := by
    unfold db
    decide +kernel
  have hledger : (Action.run db tagClient.hasLedger tagListing).result = .ok false := by
    unfold db
    decide +kernel
  exact ⟨halike, hfound, (htells.column_found "TAG" "label").mp hfound,
    ((htells.column_missing "text" "label").mp hmissing).1,
    htells.index_found (List.cons_ne_nil _ _) hdropped, htells.ledger_missing.mp hledger⟩

end

end SchemaChange
