import SchemaChange.Proofs.SchemaServer
import SchemaChange.Proofs.TableLookup
import SchemaChange.Proofs.Wording

/-!
Which table is found under which name after a renaming. A statement that renames a table says into
which schema the table goes: on MySQL the one in front of the new name or else the current one, on
SQLite always the schema that the table is in. A client looks for the new name where that name says,
and so it finds the table wherever both are the same schema.
-/
namespace SchemaChange

namespace Schemas

def remove (schemas : Schemas) (schema table : String) : Schemas :=
  { schemas with
    tables := fun other =>
      if other = schema then schemas.tables other \ {table} else schemas.tables other }

/-- More than one table of the schema has the name when case is ignored. -/
def Ambiguous (schemas : Schemas) (schema table : String) : Prop :=
  ∃ one ∈ schemas.tables schema, ∃ other ∈ schemas.tables schema, one ≠ other ∧
    Text.sameName one table = true ∧ Text.sameName other table = true

variable (schemas : Schemas)

@[simp] theorem place_remove (schema table : String) (schema? : Option String) :
    (schemas.remove schema table).place schema? = schemas.place schema? := rfl

theorem mem_tables_remove (schema table other name : String) :
    name ∈ (schemas.remove schema table).tables other ↔
      name ∈ schemas.tables other ∧ ¬ (other = schema ∧ name = table) := by
  unfold remove
  by_cases h : other = schema <;> simp [h]

/-- What is in a schema after a table has been taken out of one and put into another. -/
theorem mem_tables_moved (schema own target made other name : String) :
    name ∈ ((schemas.remove schema own).add target made).tables other ↔
      (name ∈ schemas.tables other ∧ ¬ (other = schema ∧ name = own)) ∨
        (other = target ∧ name = made) := by
  rw [tables_add, ← mem_tables_remove]
  by_cases h : other = target
  · rw [if_pos h, Set.mem_insert_iff, or_comm]
    simp [h]
  · rw [if_neg h]
    simp [h]

theorem has_moved_iff (schema own target made other name : String) :
    ((schemas.remove schema own).add target made).Has other name ↔
      (∃ left ∈ schemas.tables other, ¬ (other = schema ∧ left = own) ∧
          Text.sameName left name = true) ∨
        other = target ∧ Text.sameName made name = true := by
  constructor
  · rintro ⟨found, hfound, hsame⟩
    rcases (mem_tables_moved ..).mp hfound with ⟨hleft, hother⟩ | ⟨hplace, rfl⟩
    · exact Or.inl ⟨found, hleft, hother, hsame⟩
    · exact Or.inr ⟨hplace, hsame⟩
  · rintro (⟨left, hleft, hother, hsame⟩ | ⟨hplace, hsame⟩)
    · exact ⟨left, (mem_tables_moved ..).mpr (Or.inl ⟨hleft, hother⟩), hsame⟩
    · exact ⟨made, (mem_tables_moved ..).mpr (Or.inr ⟨hplace, rfl⟩), hsame⟩

/-- Another table of the name is left exactly when there had been two. -/
theorem exists_other_iff {schema own name : String} (hown : own ∈ schemas.tables schema)
    (hname : Text.sameName own name = true) :
    (∃ left ∈ schemas.tables schema, left ≠ own ∧ Text.sameName left name = true) ↔
      schemas.Ambiguous schema name := by
  constructor
  · rintro ⟨left, hleft, hne, hsame⟩
    exact ⟨left, hleft, own, hown, hne, hsame, hname⟩
  · rintro ⟨one, hone, other, hother, hne, hsame, hsame'⟩
    by_cases h : one = own
    · exact ⟨other, hother, fun heq => hne (h.trans heq.symm), hsame'⟩
    · exact ⟨one, hone, h, hsame⟩

/-- A schema that has lost a table has it again when the table went there. -/
theorem has_new_iff {schema target made other name : String} (own : String)
    (hmade : Text.sameName made name = true) (hother : other = target ∨ other ≠ schema) :
    ((schemas.remove schema own).add target made).Has other name ↔
      other = target ∨ schemas.Has other name := by
  rw [has_moved_iff]
  constructor
  · rintro (⟨left, hleft, -, hsame⟩ | ⟨hplace, -⟩)
    · exact Or.inr ⟨left, hleft, hsame⟩
    · exact Or.inl hplace
  · intro h
    by_cases hplace : other = target
    · exact Or.inr ⟨hplace, hmade⟩
    · obtain ⟨left, hleft, hsame⟩ := h.resolve_left hplace
      have hne : other ≠ schema := hother.resolve_left hplace
      exact Or.inl ⟨left, hleft, fun hboth => hne hboth.1, hsame⟩

theorem has_old_iff {schema own target made newName name : String}
    (hown : own ∈ schemas.tables schema) (hname : Text.sameName own name = true)
    (hmade : Text.sameName made newName = true) :
    ((schemas.remove schema own).add target made).Has schema name ↔
      schemas.Ambiguous schema name ∨ schema = target ∧ Text.sameName newName name = true := by
  have hnew : Text.sameName made name = true ↔ Text.sameName newName name = true := by
    constructor
    · exact Text.sameName_trans (Text.sameName_comm made newName ▸ hmade)
    · exact Text.sameName_trans hmade
  rw [has_moved_iff, hnew, ← exists_other_iff schemas hown hname]
  simp only [true_and, ne_eq]

end Schemas

/-- A table with its schema, and the name that it gets in a schema. -/
structure Move where
  schema? : Option String
  table : String
  target? : Option String
  newName : String
deriving DecidableEq, Repr

/-- A dialect whose statements that rename a table tell from where to where it goes. -/
class RenamesTables (δ : Type) [Dialect δ] where
  readMove : List Token → Option Move
  target? : (table newName : String) → Option String
  readMove_renameTable (d : δ) {table newName : String} (hdots : table.toList.count '.' ≤ 1)
    (hdots' : newName.toList.count '.' ≤ 1) :
    (Token.read (Dialect.quoteMark d) (Dialect.renameTable d table newName)).bind readMove =
      some ⟨Text.QualifiedName.schema? table, Text.QualifiedName.table table,
        target? table newName, Text.QualifiedName.table newName⟩

namespace MySql

def readMove : List Token → Option Move
  | .word "RENAME" :: .word "TABLE" :: rest =>
    match readQualified rest with
    | some ((schema?, table), .word "TO" :: rest) =>
      match readQualified rest with
      | some ((target?, newName), []) => some ⟨schema?, table, target?, newName⟩
      | _ => none
    | _ => none
  | _ => none

instance : RenamesTables MySql where
  readMove := readMove
  target? _ newName := Text.QualifiedName.schema? newName
  readMove_renameTable d {table newName} hdots hdots' := by
    have hnew := @readQualified_append (Text.QualifiedName.schema? newName)
      (Text.QualifiedName.table newName) [] (by simp)
    rw [List.append_nil] at hnew
    change (Token.read quoteMark _).bind _ = _
    rw [(wording d).renameTable, Option.bind_some, tableNameTokens_eq hdots,
      tableNameTokens_eq hdots']
    simp only [keywords, List.map, List.cons_append, List.nil_append, readMove]
    rw [readQualified_append _ _ (by simp)]
    simp only [hnew]

end MySql

namespace Sqlite

/-- The table stays in its schema. -/
def readMove : List Token → Option Move
  | .word "ALTER" :: .word "TABLE" :: rest =>
    match readQualified rest with
    | some ((schema?, table), [.word "RENAME", .word "TO", .name newName]) =>
      some ⟨schema?, table, schema?, newName⟩
    | _ => none
  | _ => none

instance : RenamesTables Sqlite where
  readMove := readMove
  target? table _ := Text.QualifiedName.schema? table
  readMove_renameTable d {table newName} hdots _ := by
    change (Token.read quoteMark _).bind _ = _
    rw [(wording d).renameTable, Option.bind_some, tableNameTokens_eq hdots]
    simp only [keywords, List.map, List.cons_append, List.nil_append, readMove]
    rw [readQualified_append _ _ (by simp)]
    rfl

end Sqlite

/-- The database shows its tables and renames them as its dialect says, or leaves them as they are.
How it keeps the case of names is its own affair. -/
structure Renames {σ δ : Type} [Catalog δ] [RenamesTables δ] (d : δ) (db : Database σ)
    (view : σ → Schemas) : Prop extends ShowsTables d db view where
  renames {sql : String} {move : Move} (s : σ) :
    (Token.read (Dialect.quoteMark d) sql).bind (RenamesTables.readMove δ) = some move →
      match db.execute sql [] s with
      | (.ok _, s') => ∃ own made,
        own ∈ (view s).tables ((view s).place move.schema?) ∧
          Text.sameName own move.table = true ∧ Text.sameName made move.newName = true ∧
          view s' = ((view s).remove ((view s).place move.schema?) own).add
            ((view s).place move.target?) made
      | (.error _, s') => view s' = view s

namespace Client

variable {σ δ : Type} [Catalog δ] {view : σ → Schemas} (client : Client δ) (db : Database σ)

/-- A client renames with one statement, whatever the new name is. -/
theorem statements_renameTable (table newName : String) (s : σ) :
    (Action.run db (client.renameTable table newName) s).statements =
      [(Dialect.renameTable client.dialect table newName, [])] := by
  rw [renameTable, run_change]
  rfl

/-- Looking for the table succeeds and tells whether this holds. -/
def Tells (table : String) (s : σ) (p : Prop) : Prop :=
  ∃ found, (Action.run db (client.hasTable table) s).result = .ok found ∧ (found = true ↔ p)

variable {db} in
/-- Where the settings name no schema, a table is looked for where its name says. -/
theorem tells_hasTable (shows : ShowsTables client.dialect db view)
    (hdatabase : client.settings.database? = none) (table : String) (s : σ) :
    client.Tells db table s ((view s).Has ((view s).place (Text.QualifiedName.schema? table))
      (Text.QualifiedName.table table)) := by
  obtain ⟨found, exchanges, s', hrun, hfound, -, -⟩ := client.run_hasTable table shows s
  rw [lookupSchema?, hdatabase, Option.or_none] at hfound
  exact ⟨found, by rw [hrun], hfound⟩

end Client

/-- What is found after a table has been renamed into the schema. -/
structure FoundAfter {σ δ : Type} [Catalog δ] (client : Client δ) (db : Database σ)
    (view : σ → Schemas) (table newName : String) (s : σ) (target : String) : Prop where
  /-- The table is there under the last component of the new name. -/
  moved : (view (Action.run db (client.renameTable table newName) s).state).Has target
    (Text.QualifiedName.table newName)
  tells_new : client.Tells db newName (Action.run db (client.renameTable table newName) s).state
    ((view s).place (Text.QualifiedName.schema? newName) = target ∨
      (view s).Has ((view s).place (Text.QualifiedName.schema? newName))
        (Text.QualifiedName.table newName))
  tells_old : client.Tells db table (Action.run db (client.renameTable table newName) s).state
    ((view s).Ambiguous ((view s).place (Text.QualifiedName.schema? table))
        (Text.QualifiedName.table table) ∨
      (view s).place (Text.QualifiedName.schema? table) = target ∧
        Text.sameName (Text.QualifiedName.table newName) (Text.QualifiedName.table table) = true)

section

variable {σ δ : Type} [Catalog δ] [RenamesTables δ] {db : Database σ} {view : σ → Schemas}
  (client : Client δ) {table newName : String} {s : σ}

/-- After a renaming that succeeds the table is in the schema that the statement says. -/
theorem Renames.view_renameTable (renames : Renames client.dialect db view)
    (hdots : table.toList.count '.' ≤ 1) (hdots' : newName.toList.count '.' ≤ 1)
    (hok : (Action.run db (client.renameTable table newName) s).result = .ok ()) :
    ∃ own made,
      own ∈ (view s).tables ((view s).place (Text.QualifiedName.schema? table)) ∧
        Text.sameName own (Text.QualifiedName.table table) = true ∧
        Text.sameName made (Text.QualifiedName.table newName) = true ∧
        view (Action.run db (client.renameTable table newName) s).state =
          ((view s).remove ((view s).place (Text.QualifiedName.schema? table)) own).add
            ((view s).place (RenamesTables.target? δ table newName)) made := by
  have hrenames := renames.renames s
    (RenamesTables.readMove_renameTable client.dialect hdots hdots')
  rw [Client.renameTable, Client.run_change] at hok ⊢
  generalize db.execute _ [] s = executed at hrenames hok ⊢
  obtain ⟨answer, s'⟩ := executed
  cases answer with
  | error f => cases hok
  | ok count => exact hrenames

theorem Renames.foundAfter (renames : Renames client.dialect db view)
    (hdatabase : client.settings.database? = none)
    (hdots : table.toList.count '.' ≤ 1) (hdots' : newName.toList.count '.' ≤ 1)
    (htarget : RenamesTables.target? δ table newName = Text.QualifiedName.schema? newName ∨
      RenamesTables.target? δ table newName = Text.QualifiedName.schema? table)
    (hok : (Action.run db (client.renameTable table newName) s).result = .ok ()) :
    FoundAfter client db view table newName s
      ((view s).place (RenamesTables.target? δ table newName)) := by
  obtain ⟨own, made, hown, hname, hmade, hview⟩ := renames.view_renameTable client hdots hdots' hok
  have hshows := renames.toShowsTables
  have hnew := client.tells_hasTable hshows hdatabase newName
    (Action.run db (client.renameTable table newName) s).state
  have hold := client.tells_hasTable hshows hdatabase table
    (Action.run db (client.renameTable table newName) s).state
  rw [hview] at hnew hold
  simp only [Schemas.place_add, Schemas.place_remove] at hnew hold
  refine ⟨?_, ?_, ?_⟩
  · rw [hview, Schemas.has_moved_iff]
    exact Or.inr ⟨rfl, hmade⟩
  · have hplace : (view s).place (Text.QualifiedName.schema? newName) =
          (view s).place (RenamesTables.target? δ table newName) ∨
        (view s).place (Text.QualifiedName.schema? newName) ≠
          (view s).place (Text.QualifiedName.schema? table) := by
      rcases htarget with htarget | htarget
      · exact Or.inl (by rw [htarget])
      · rw [htarget]
        exact Classical.em _
    rwa [Schemas.has_new_iff _ own hmade hplace] at hnew
  · rwa [Schemas.has_old_iff _ hown hname hmade] at hold

end

/-- On MySQL a renamed table is found under its new name. On SQLite it is when the new name means
the schema of the table, or when that name had been there before; otherwise the table has got the
last component of the new name in its own schema. The old name is found no more, unless two tables
had it in either case or the new name is the old one in another case. No new name is refused. -/
theorem renamed_table_found {σ : Type} (db : Database σ) (view : σ → Schemas) :
    (∀ (client : Client MySql) (table newName : String) (s : σ),
      Renames client.dialect db view → client.settings.database? = none →
      table.toList.count '.' ≤ 1 → newName.toList.count '.' ≤ 1 →
      let o := Action.run db (client.renameTable table newName) s
      o.statements = [(Dialect.renameTable client.dialect table newName, [])] ∧
        (o.result = .ok () →
          (Action.run db (client.hasTable newName) o.state).result = .ok true ∧
          FoundAfter client db view table newName s
            ((view s).place (Text.QualifiedName.schema? newName)))) ∧
    (∀ (client : Client Sqlite) (table newName : String) (s : σ),
      Renames client.dialect db view → client.settings.database? = none →
      table.toList.count '.' ≤ 1 → newName.toList.count '.' ≤ 1 →
      let o := Action.run db (client.renameTable table newName) s
      o.statements = [(Dialect.renameTable client.dialect table newName, [])] ∧
        (o.result = .ok () → FoundAfter client db view table newName s
          ((view s).place (Text.QualifiedName.schema? table)))) := by
  constructor
  · intro client table newName s renames hdatabase hdots hdots' o
    refine ⟨client.statements_renameTable db table newName s, fun hok => ?_⟩
    have hafter := renames.foundAfter client hdatabase hdots hdots' (Or.inl rfl) hok
    obtain ⟨found, hresult, hfound⟩ := hafter.tells_new
    have htrue : found = true := hfound.mpr (Or.inl rfl)
    exact ⟨htrue ▸ hresult, hafter⟩
  · intro client table newName s renames hdatabase hdots hdots' o
    exact ⟨client.statements_renameTable db table newName s,
      renames.foundAfter client hdatabase hdots hdots' (Or.inr rfl)⟩

namespace SchemaServer

/-- Places are the same when their schemas and names are, as texts. -/
local instance : LawfulBEq (String × String) := inferInstance

/-- Moves a table to where there is none of its new name. -/
def move (server : SchemaServer) (own made : String × String) :
    Except Failure UInt64 × SchemaServer :=
  if own ∈ server.tables ∧ made ∉ server.tables then
    (.ok 0, { server with tables := server.tables.filter (· ≠ own) ++ [made] })
  else (.error (.reported .execution "The table cannot be renamed"), server)

theorem view_move {server : SchemaServer} {own made : String × String}
    (h : own ∈ server.tables ∧ made ∉ server.tables) :
    (server.move own made).2.view = (server.view.remove own.1 own.2).add made.1 made.2 := by
  have htables : ∀ schema name, name ∈ (server.move own made).2.view.tables schema ↔
      name ∈ ((server.view.remove own.1 own.2).add made.1 made.2).tables schema := by
    intro schema name
    rw [Schemas.mem_tables_moved, move, if_pos h]
    simp [view, Prod.ext_iff, imp_iff_not_or]
  rw [move, if_pos h] at htables ⊢
  exact congrArg (Schemas.mk server.current) (funext fun schema => Set.ext (htables schema))

variable {δ : Type} [Catalog δ] [Spelled δ] [ListsTables δ] [RenamesTables δ] (d : δ)

/-- A database that renames tables as well. -/
def movingDatabase : Database SchemaServer where
  query := (database d).query
  execute sql params server :=
    match (Token.read (Dialect.quoteMark d) sql).bind (RenamesTables.readMove δ) with
    | some m =>
      server.move (m.schema?.getD server.current, m.table) (m.target?.getD server.current, m.newName)
    | none => (database d).execute sql params server

theorem renames : Renames d (movingDatabase d) view where
  lists := (hosts d).lists
  renames {sql m} server hread := by
    let own := (m.schema?.getD server.current, m.table)
    let made := (m.target?.getD server.current, m.newName)
    have hexecute : (movingDatabase d).execute sql [] server = server.move own made := by
      simp only [movingDatabase, hread]
      rfl
    rw [hexecute]
    by_cases h : own ∈ server.tables ∧ made ∉ server.tables
    · have hview := view_move h
      rw [move, if_pos h] at hview ⊢
      exact ⟨m.table, m.newName, h.1, Text.sameName_refl _, Text.sameName_refl _, hview⟩
    · rw [move, if_neg h]

end SchemaServer

section

/-- A server with one table, which is in the current schema. -/
def usersServer (current : String) : SchemaServer := ⟨current, [(current, "users")]⟩

def mySqlClient : Client MySql := ⟨{}, {}⟩

def sqliteClient : Client Sqlite := ⟨{}, {}⟩

/-- How renaming the table goes. -/
def usersRenamed {δ : Type} [Catalog δ] [Spelled δ] [ListsTables δ] [RenamesTables δ]
    (client : Client δ) (server : SchemaServer) (newName : String) :
    Outcome SchemaServer (Except Failure Unit) :=
  Action.run (SchemaServer.movingDatabase client.dialect) (client.renameTable "users" newName)
    server

theorem users_renamed_across_schemas :
    (usersRenamed mySqlClient (usersServer "app") "old.people").result = .ok () ∧
      (Action.run (SchemaServer.movingDatabase mySqlClient.dialect)
          (mySqlClient.hasTable "old.people")
          (usersRenamed mySqlClient (usersServer "app") "old.people").state).result = .ok true ∧
      (usersRenamed sqliteClient (usersServer "main") "main.people").result = .ok () ∧
      FoundAfter sqliteClient (SchemaServer.movingDatabase sqliteClient.dialect) SchemaServer.view
        "users" "main.people" (usersServer "main") "main" := by
  have hmysql : (usersRenamed mySqlClient (usersServer "app") "old.people").result = .ok () := by
    decide +kernel
  have hsqlite : (usersRenamed sqliteClient (usersServer "main") "main.people").result =
      .ok () := by
    decide +kernel
  have hfound := (renamed_table_found _ SchemaServer.view).1 mySqlClient "users" "old.people"
    (usersServer "app") (SchemaServer.renames _) rfl (by decide) (by decide)
  have hmoved := (renamed_table_found _ SchemaServer.view).2 sqliteClient "users" "main.people"
    (usersServer "main") (SchemaServer.renames _) rfl (by decide) (by decide)
  exact ⟨hmysql, (hfound.2 hmysql).1, hsqlite, hmoved.2 hsqlite⟩

/-- A server that tells the case of names, with two tables. -/
def casesServer : SchemaServer := ⟨"app", [("app", "users"), ("app", "USERS")]⟩

/-- On SQLite a name in another schema is not refused, and the table is not found under it; and on
MySQL a second table may have the old name in another case. -/
theorem people_not_found_elsewhere :
    (Renames sqliteClient.dialect (SchemaServer.movingDatabase sqliteClient.dialect)
        SchemaServer.view ∧
      (usersServer "main").view.Has "main" "users" ∧ ¬ (usersServer "main").view.Has "aux" "people" ∧
      (usersRenamed sqliteClient (usersServer "main") "aux.people").result = .ok () ∧
      (Action.run (SchemaServer.movingDatabase sqliteClient.dialect)
          (sqliteClient.hasTable "aux.people")
          (usersRenamed sqliteClient (usersServer "main") "aux.people").state).result =
        .ok false) ∧
    (Renames mySqlClient.dialect (SchemaServer.movingDatabase mySqlClient.dialect)
        SchemaServer.view ∧
      casesServer.view.Has "app" "users" ∧ ¬ casesServer.view.Has "app" "people" ∧
      Text.sameName "users" "people" = false ∧
      (usersRenamed mySqlClient casesServer "people").result = .ok () ∧
      (Action.run (SchemaServer.movingDatabase mySqlClient.dialect) (mySqlClient.hasTable "users")
          (usersRenamed mySqlClient casesServer "people").state).result = .ok true) := by
  refine ⟨⟨SchemaServer.renames _, ⟨"users", List.mem_singleton_self _, by decide⟩, ?_,
      by decide +kernel, by decide +kernel⟩,
    SchemaServer.renames _, ⟨"users", List.mem_cons_self .., by decide⟩, ?_, by decide,
      by decide +kernel, by decide +kernel⟩
  · rintro ⟨name, hmem, -⟩
    exact absurd (List.mem_singleton.mp hmem) (by simp)
  · rintro ⟨name, hmem, hsame⟩
    have hnames : name = "users" ∨ name = "USERS" := by simpa [casesServer, SchemaServer.view] using hmem
    rcases hnames with rfl | rfl
    · exact absurd hsame (by decide)
    · exact absurd hsame (by decide)

end

end SchemaChange
