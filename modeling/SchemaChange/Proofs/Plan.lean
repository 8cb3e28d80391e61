import SchemaChange.Operation
import SchemaChange.Proofs.Outcome

/-!
The plan of an operation. It names the one query that the operation asks, if it asks any; the rows
of the answer settle either a failure or the statements to execute, and the answer of the operation
may count the rows that they affect. Every operation does what its plan says and nothing else.
-/
namespace SchemaChange

/-- What is left to do when the rows have been read. -/
structure Steps (α : Type) where
  statements : List (String × List Value)
  answer : List UInt64 → α

structure Plan (α : Type) where
  question? : Option String
  settle : List Row → Except Failure (Steps α)

namespace Plan

variable {α : Type}

def ask (plan : Plan α) : Action (List Row) :=
  match plan.question? with
  | some sql => Action.query sql
  | none => pure []

def executeAll (statements : List (String × List Value)) : Action (List UInt64) :=
  statements.mapM fun (sql, params) => Action.execute sql params

/-- Carries out a plan. -/
def action (plan : Plan α) : Action α := do
  let rows ← plan.ask
  let steps ← liftM (plan.settle rows)
  let counts ← executeAll steps.statements
  return steps.answer counts

/-- The statements that are to be executed after these rows. -/
def planned (plan : Plan α) (rows : List Row) : Except Failure (List (String × List Value)) :=
  (plan.settle rows).map (·.statements)

/-- The plan to make no call. -/
def knowing (known : Except Failure α) : Plan α :=
  ⟨none, fun _ => known.map fun a => ⟨[], fun _ => a⟩⟩

/-- The plan to ask and to execute nothing. -/
def reading (sql : String) (decode : List Row → Except Failure α) : Plan α :=
  ⟨some sql, fun rows => (decode rows).map fun a => ⟨[], fun _ => a⟩⟩

/-- The plan to execute statements that depend on no answer. -/
def executing (statements : Except Failure (List String)) : Plan Answer :=
  ⟨none, fun _ => statements.map fun sqls => ⟨sqls.map (·, []), fun _ => .done⟩⟩

/-- The plan to execute what the answer to a query settles. -/
def changing (sql : String) (statements : List Row → Except Failure (List String)) : Plan Answer :=
  ⟨some sql, fun rows => (statements rows).map fun sqls => ⟨sqls.map (·, []), fun _ => .done⟩⟩

/-- The plan to execute one statement and to tell how many rows it affected. -/
def ordering (sql : String) (params : List Value) (answer : UInt64 → α) : Plan α :=
  ⟨none, fun _ => .ok ⟨[(sql, params)], fun counts => answer (counts.headD 0)⟩⟩

end Plan

section

variable {δ : Type} [Catalog δ] (client : Client δ)

/-- The schema in which a table is looked up. -/
def lookupSchema? (table : String) : Option String :=
  (Text.QualifiedName.schema? table).or client.settings.database?

/-- The table is among listed ones. -/
def isListed (table : String) (names : List String) : Bool :=
  names.any fun name => Text.sameName name (Text.QualifiedName.table table)

def findingTable (table : String) : Plan Answer :=
  .reading (Dialect.listTables client.dialect (lookupSchema? client table)) fun rows =>
    (fun names => .truth (isListed table names)) <$> rows.mapM (Catalog.decodeTable client.dialect)

/-- The statement that creates the ledger unless it is listed. -/
def ledgerCreation (rows : List Row) : Except Failure (List String) := do
  let table := client.settings.ledgerTable
  let names ← rows.mapM (Catalog.decodeTable client.dialect)
  return if isListed table names then [] else [Statement.createLedger client.dialect table]

def ensuringLedger : Plan Answer :=
  .changing (Dialect.listTables client.dialect (lookupSchema? client client.settings.ledgerTable))
    (ledgerCreation client)

/-- The plan to look at the columns of a table. -/
def readingColumns (table : String) (answer : List ListedColumn → Answer) : Plan Answer :=
  .reading (Dialect.listColumns client.dialect table) fun rows =>
    answer <$> rows.mapM (Catalog.decodeColumn client.dialect)

/-- The plan to look at the indexes of a table. -/
def readingIndexes (table : String) (answer : List ListedIndex → Answer) : Plan Answer :=
  .reading (Dialect.listIndexes client.dialect table) fun rows =>
    (fun parts => answer (ListedIndex.ofParts (parts.filterMap id))) <$>
      rows.mapM (Catalog.decodeIndexPart client.dialect)

/-- The statement that renames a listed column. -/
def columnRenaming (table column newName : String) (rows : List Row) :
    Except Failure (List String) := do
  let listed ← rows.mapM (Catalog.decodeColumn client.dialect)
  match listed.find? fun c => Text.sameName c.name column with
  | some definition =>
    .ok [Dialect.renameColumn client.dialect table column newName definition]
  | none => .error (.missingColumn table column)

/-- The statements that drop the listed indexes with exactly the columns. -/
def indexRemoval (table : String) (columns : List String) (rows : List Row) :
    Except Failure (List String) := do
  let parts ← rows.mapM (Catalog.decodeIndexPart client.dialect)
  let listed := ListedIndex.ofParts (parts.filterMap id)
  let names := (listed.filter (·.isExactly columns)).map (·.name)
  if names = [] then .error (.missingIndex table columns)
  else .ok (names.map (Dialect.dropIndex client.dialect table))

namespace Operation

def plan : Operation → Plan Answer
  | dialectName => .knowing (.ok (.text (Dialect.name client.dialect)))
  | settings => .knowing (.ok (.settings client.settings))
  | sqlType typeName => .knowing ((Dialect.sqlTypeNamed client.dialect typeName).map .sqlType)
  | quoteTable table => .knowing (.ok (.text (Dialect.quoteTable client.dialect table)))
  | quoteName name => .knowing (.ok (.text (Dialect.quoteName client.dialect name)))
  | hasTable table => findingTable client table
  | hasColumn table name =>
    readingColumns client table fun listed =>
      .truth (listed.find? fun c => Text.sameName c.name name).isSome
  | hasIndex table names =>
    if names = [] then .knowing (.error (.emptyLookup table))
    else readingIndexes client table fun listed => .truth (listed.any (·.covers names))
  | createTable table => .executing (Statement.createTable client.dialect table)
  | renameTable table newName =>
    .executing (.ok [Dialect.renameTable client.dialect table newName])
  | dropTable table => .executing (.ok [Statement.dropTable client.dialect table])
  | addColumn table definition =>
    .executing ((Statement.addColumn client.dialect table definition).map ([·]))
  | renameColumn table name newName =>
    .changing (Dialect.listColumns client.dialect table) (columnRenaming client table name newName)
  | dropColumn table name => .executing (.ok [Statement.dropColumn client.dialect table name])
  | addIndex table index =>
    .executing ((Statement.addIndex client.dialect table index).map ([·]))
  | dropIndex table names =>
    .changing (Dialect.listIndexes client.dialect table) (indexRemoval client table names)
  | dropIndexNamed table name => .executing (.ok [Dialect.dropIndex client.dialect table name])
  | createDatabase name options =>
    let charset := options.charset?.getD client.settings.charset
    .executing ((Dialect.createDatabase client.dialect name
      { options with charset? := some charset }).map ([·]))
  | dropDatabase name => .executing ((Dialect.dropDatabase client.dialect name).map ([·]))
  | tables =>
    .reading (Dialect.listTables client.dialect client.settings.database?) fun rows =>
      .names <$> rows.mapM (Catalog.decodeTable client.dialect)
  | columns table => readingColumns client table .columns
  | column table name =>
    readingColumns client table fun listed =>
      .column (listed.find? fun c => Text.sameName c.name name)
  | indexes table => readingIndexes client table .indexes
  | ledgerTable => .knowing (.ok (.text client.settings.ledgerTable))
  | hasLedger => findingTable client client.settings.ledgerTable
  | ensureLedger => ensuringLedger client
  | ledgerVersions =>
    .reading (Statement.ledgerVersions client.dialect client.settings.ledgerTable) fun rows =>
      .versions <$> rows.mapM (·.get "version")
  | ledgerEntries =>
    .reading (Statement.ledgerEntries client.dialect client.settings.ledgerTable) fun rows =>
      .entries <$> rows.mapM LedgerEntry.decodeRow
  | record entry =>
    .ordering (Statement.recordEntry client.dialect client.settings.ledgerTable) entry.params
      fun _ => .done
  | forget version =>
    .ordering (Statement.removeVersion client.dialect client.settings.ledgerTable) [encode version]
      fun affected => .truth (0 < affected)
  | execute sql params => .ordering sql params .count
  | query sql => .reading sql fun rows => .ok (.rows rows)

end Operation

end

namespace Action

variable {α β : Type}

theorem liftM_ok (a : α) : (liftM (Except.ok a : Except Failure α) : Action α) = pure a := rfl

theorem liftM_bind (x : Except Failure α) (f : α → Except Failure β) :
    (liftM (x >>= f) : Action β) = liftM x >>= fun a => liftM (f a) := by
  cases x <;> rfl

theorem liftM_map (x : Except Failure α) (f : α → β) :
    (liftM (f <$> x) : Action β) = f <$> liftM x := by
  cases x <;> rfl

end Action

namespace Plan

variable {α β : Type}

theorem action_knowing (known : Except Failure α) : (knowing known).action = liftM known := by
  cases known <;> rfl

theorem action_reading (sql : String) (decode : List Row → Except Failure α) :
    (reading sql decode).action = Action.query sql >>= fun rows => liftM (decode rows) := by
  simp only [action, reading, ask]
  congr 1
  funext rows
  cases decode rows <;> rfl

theorem action_ordering (sql : String) (params : List Value) (answer : UInt64 → α) :
    (ordering sql params answer).action = answer <$> Action.execute sql params := by
  simp [action, ordering, ask, executeAll, Action.liftM_ok]

theorem forM_change (sqls : List String) :
    sqls.forM Client.change = (fun _ => ()) <$> executeAll (sqls.map (·, [])) := by
  induction sqls with
  | nil => rfl
  | cons sql rest ih =>
    change (Client.change sql >>= fun _ => rest.forM Client.change) = _
    rw [ih]
    simp [executeAll, Client.change]

theorem action_executing (statements : Except Failure (List String)) :
    (executing statements).action =
      liftM statements >>= fun sqls => (fun _ => .done) <$> sqls.forM Client.change := by
  cases statements with
  | error f => rfl
  | ok sqls =>
    rw [Action.liftM_ok, pure_bind, forM_change]
    simp [action, executing, ask, Except.map, Action.liftM_ok]

theorem action_changing (sql : String) (statements : List Row → Except Failure (List String)) :
    (changing sql statements).action =
      Action.query sql >>= fun rows => (executing (statements rows)).action := by
  simp only [action, changing, executing, ask, pure_bind]

/-- What is made of decoded rows needs no further call. -/
theorem map_queryMap (f : List α → β) (sql : String) (decode : Row → Except Failure α) :
    f <$> Action.queryMap sql decode = (reading sql fun rows => f <$> rows.mapM decode).action := by
  simp only [action_reading, Action.queryMap, map_bind, Action.liftM_map]

theorem finished_change (sql : String) :
    Operation.perform.finished (Client.change sql) = (executing (.ok [sql])).action := by
  simp [Operation.perform.finished, action_executing, Action.liftM_ok, Client.change]

theorem finished_liftM (statement : Except Failure String) :
    Operation.perform.finished (do Client.change (← liftM statement)) =
      (executing (statement.map ([·]))).action := by
  cases statement with
  | error f => rfl
  | ok sql => exact finished_change sql

end Plan

variable {δ : Type} [Catalog δ] (client : Client δ)

theorem truth_hasTable (table : String) :
    Answer.truth <$> client.hasTable table = (findingTable client table).action := by
  simp only [Client.hasTable, Client.tablesIn, bind_pure_comp, Functor.map_map]
  exact Plan.map_queryMap _ _ _

theorem map_columns (table : String) (answer : List ListedColumn → Answer) :
    answer <$> client.columns table = (readingColumns client table answer).action :=
  Plan.map_queryMap _ _ _

theorem map_indexes (table : String) (answer : List ListedIndex → Answer) :
    answer <$> client.indexes table = (readingIndexes client table answer).action := by
  simp only [Client.indexes, bind_pure_comp, Functor.map_map]
  exact Plan.map_queryMap _ _ _

theorem finished_ensureLedger :
    Operation.perform.finished client.ensureLedger = (ensuringLedger client).action := by
  simp only [Operation.perform.finished, Client.ensureLedger, Client.hasLedger, Client.hasTable,
    Client.tablesIn, Action.queryMap, bind_assoc, pure_bind, ensuringLedger, ledgerCreation,
    Plan.action_changing, Plan.action_executing, Action.liftM_bind, map_bind]
  congr 1
  funext rows
  congr 1
  funext names
  unfold isListed
  cases names.any fun name =>
    Text.sameName name (Text.QualifiedName.table client.settings.ledgerTable) with
  | true => rfl
  | false => exact (Plan.finished_change _).trans (Plan.action_executing _)

theorem finished_renameColumn (table name newName : String) :
    Operation.perform.finished (client.renameColumn table name newName) =
      ((Operation.renameColumn table name newName).plan client).action := by
  simp only [Operation.perform.finished, Client.renameColumn, Client.column?, Client.columns,
    Action.queryMap, bind_assoc, pure_bind, Operation.plan, columnRenaming, Plan.action_changing,
    Plan.action_executing, Action.liftM_bind, map_bind]
  congr 1
  funext rows
  congr 1
  funext listed
  cases listed.find? fun c => Text.sameName c.name name with
  | none => rfl
  | some definition => exact (Plan.finished_change _).trans (Plan.action_executing _)

theorem finished_dropIndex (table : String) (names : List String) :
    Operation.perform.finished (client.dropIndex table names) =
      ((Operation.dropIndex table names).plan client).action := by
  simp only [Operation.perform.finished, Client.dropIndex, Client.indexes, Action.queryMap,
    bind_assoc, pure_bind, Operation.plan, indexRemoval, Plan.action_changing,
    Plan.action_executing, Action.liftM_bind, map_bind]
  congr 1
  funext rows
  congr 1
  funext parts
  split
  · rfl
  · rw [Action.liftM_ok, pure_bind]
    change _ = (fun _ => Answer.done) <$> forM (List.map _ _) Client.change
    rw [List.forM_map]
    rfl

theorem perform_eq_action (operation : Operation) :
    operation.perform client = (operation.plan client).action := by
  cases operation with
  | dialectName => rfl
  | settings => rfl
  | sqlType typeName =>
    simp only [Operation.perform, Operation.plan, Plan.action_knowing]
    cases Dialect.sqlTypeNamed client.dialect typeName <;> rfl
  | quoteTable table => rfl
  | quoteName name => rfl
  | hasTable table => exact truth_hasTable client table
  | hasColumn table name =>
    simp only [Operation.perform, Client.hasColumn, Client.column?, bind_pure_comp, Functor.map_map]
    exact map_columns client table _
  | hasIndex table names =>
    simp only [Operation.perform, Operation.plan, Client.hasIndex]
    split
    · rfl
    · simp only [bind_pure_comp, Functor.map_map]
      exact map_indexes client table _
  | createTable table =>
    simp only [Operation.perform, Operation.plan, Client.createTable, Operation.perform.finished,
      map_bind, Plan.action_executing]
  | renameTable table newName => exact Plan.finished_change _
  | dropTable table => exact Plan.finished_change _
  | addColumn table definition => exact Plan.finished_liftM _
  | renameColumn table name newName => exact finished_renameColumn client table name newName
  | dropColumn table name => exact Plan.finished_change _
  | addIndex table index => exact Plan.finished_liftM _
  | dropIndex table names => exact finished_dropIndex client table names
  | dropIndexNamed table name => exact Plan.finished_change _
  | createDatabase name options => exact Plan.finished_liftM _
  | dropDatabase name => exact Plan.finished_liftM _
  | tables => exact Plan.map_queryMap _ _ _
  | columns table => exact map_columns client table _
  | column table name =>
    simp only [Operation.perform, Client.column?, bind_pure_comp, Functor.map_map]
    exact map_columns client table _
  | indexes table => exact map_indexes client table _
  | ledgerTable => rfl
  | hasLedger => exact truth_hasTable client client.settings.ledgerTable
  | ensureLedger => exact finished_ensureLedger client
  | ledgerVersions => exact Plan.map_queryMap _ _ _
  | ledgerEntries => exact Plan.map_queryMap _ _ _
  | record entry =>
    simp [Operation.perform, Operation.perform.finished, Operation.plan, Plan.action_ordering,
      Client.record]
  | forget version =>
    simp only [Operation.perform, Operation.plan, Plan.action_ordering, Client.forget,
      bind_pure_comp, Functor.map_map]
  | execute sql params => exact (Plan.action_ordering sql params Answer.count).symm
  | query sql =>
    simp only [Operation.perform, Operation.plan, Plan.action_reading]
    rfl

end SchemaChange
