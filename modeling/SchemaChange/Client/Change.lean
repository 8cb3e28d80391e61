import SchemaChange.Client

/-!
Changes of the schema. Each change writes its statements first and then executes them in order, so
that a description which is refused leaves the database as it was.
-/
namespace SchemaChange.Client

variable {δ : Type} [Catalog δ] (client : Client δ)

/-- Executes a statement, whatever number of rows it affects. -/
def change (sql : String) : Action Unit := do
  let _ ← Action.execute sql

def createTable (table : Table) : Action Unit := do
  let statements ← liftM (Statement.createTable client.dialect table)
  statements.forM change

def renameTable (table newName : String) : Action Unit :=
  change (Dialect.renameTable client.dialect table newName)

def dropTable (table : String) : Action Unit :=
  change (Statement.dropTable client.dialect table)

def addColumn (table : String) (column : Column) : Action Unit := do
  change (← liftM (Statement.addColumn client.dialect table column))

/-- The column is looked up first, so that its new definition can state the old one again. -/
def renameColumn (table column newName : String) : Action Unit := do
  match ← client.column? table column with
  | some definition =>
    change (Dialect.renameColumn client.dialect table column newName definition)
  | none => throw (.missingColumn table column)

def dropColumn (table column : String) : Action Unit :=
  change (Statement.dropColumn client.dialect table column)

def addIndex (table : String) (index : Index) : Action Unit := do
  change (← liftM (Statement.addIndex client.dialect table index))

def dropIndexNamed (table name : String) : Action Unit :=
  change (Dialect.dropIndex client.dialect table name)

/-- Drops every index that has exactly the columns, of which there has to be one. -/
def dropIndex (table : String) (columns : List String) : Action Unit := do
  let listed ← client.indexes table
  let names := (listed.filter (·.isExactly columns)).map (·.name)
  if names = [] then throw (.missingIndex table columns)
  names.forM (client.dropIndexNamed table)

/-- A database without a charset of its own gets that of the settings. -/
def createDatabase (name : String) (options : DatabaseOptions) : Action Unit := do
  let charset := options.charset?.getD client.settings.charset
  change (← liftM (Dialect.createDatabase client.dialect name
    { options with charset? := some charset }))

def dropDatabase (name : String) : Action Unit := do
  change (← liftM (Dialect.dropDatabase client.dialect name))

end SchemaChange.Client
