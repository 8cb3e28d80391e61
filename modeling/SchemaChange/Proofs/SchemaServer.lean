import SchemaChange.Proofs.DialectTokens
import SchemaChange.Proofs.Schemas

/-!
A database that meets the assumptions on databases of several schemas. It takes every statement
apart and knows two kinds: one that lists the tables of a schema, in the words of a dialect, and one
that creates a table. Everything else is answered with nothing.
-/
namespace SchemaChange

/-- A dialect whose listing of tables tells which schema it asks for. -/
class ListsTables (δ : Type) [Catalog δ] [Spelled δ] where
  askedSchema? : List Token → Option (Option String)
  listingTokens : Option String → List Token
  read_listTables (d : δ) (schema? : Option String) :
    Token.read (Dialect.quoteMark d) (Dialect.listTables d schema?) = some (listingTokens schema?)
  askedSchema?_listingTokens (schema? : Option String) :
    askedSchema? (listingTokens schema?) = some schema?
  tableRow : String → Row
  decodeTable_tableRow (d : δ) (name : String) : Catalog.decodeTable d (tableRow name) = .ok name

/-- The tables of all schemas, each with its schema in front. -/
structure SchemaServer where
  current : String
  tables : List (String × String) := []
deriving DecidableEq

namespace SchemaServer

def view (server : SchemaServer) : Schemas where
  current := server.current
  tables schema := {table | (schema, table) ∈ server.tables}

/-- The tables of a schema. -/
def listed (server : SchemaServer) (schema : String) : List String :=
  (server.tables.filter fun entry => entry.1 = schema).map (·.2)

def create (server : SchemaServer) (schema table : String) : Except Failure UInt64 × SchemaServer :=
  if (schema, table) ∈ server.tables then
    (.error (.reported .execution "The table exists already"), server)
  else (.ok 0, { server with tables := server.tables ++ [(schema, table)] })

theorem mem_listed_iff (server : SchemaServer) (schema name : String) :
    name ∈ server.listed schema ↔ name ∈ server.view.tables schema := by
  simp [listed, view]

theorem view_create (server : SchemaServer) {schema table : String}
    (h : (schema, table) ∉ server.tables) :
    (server.create schema table).2.view = server.view.add schema table := by
  rw [create, if_neg h]
  simp only [view, Schemas.add, Schemas.mk.injEq, true_and]
  funext other
  by_cases hother : other = schema
  · subst hother
    ext name
    simp [or_comm]
  · ext name
    simp [hother]

variable {δ : Type} [Catalog δ] [Spelled δ] [ListsTables δ] (d : δ)

def database : Database SchemaServer where
  query sql _ server :=
    match (Token.read (Dialect.quoteMark d) sql).bind (ListsTables.askedSchema? δ) with
    | some schema? =>
      (.ok ((server.listed (schema?.getD server.current)).map (ListsTables.tableRow δ)), server)
    | none => (.ok [], server)
  execute sql _ server :=
    match (Token.read (Dialect.quoteMark d) sql).bind createdTable? with
    | some (schema?, table) => server.create (schema?.getD server.current) table
    | none => (.ok 0, server)

theorem hosts : Hosts d (database d) view where
  lists schema? server := by
    let names := server.listed (schema?.getD server.current)
    have hquery : (database d).query (Dialect.listTables d schema?) [] server =
        (.ok (names.map (ListsTables.tableRow δ)), server) := by
      simp only [database, ListsTables.read_listTables, Option.bind_some,
        ListsTables.askedSchema?_listingTokens]
      rfl
    have hdecode : (names.map (ListsTables.tableRow δ)).mapM (Catalog.decodeTable d) =
        .ok names := by
      rw [mapM_eq_ok_iff, List.forall₂_map_left_iff, List.forall₂_same]
      exact fun name _ => ListsTables.decodeTable_tableRow d name
    exact ⟨_, names, server, hquery, hdecode, mem_listed_iff server _, rfl⟩
  creates {sql tokens schema? table} server hread hcreated := by
    have hexecute : (database d).execute sql [] server =
        server.create (schema?.getD server.current) table := by
      simp only [database, hread, Option.bind_some, hcreated]
    rw [hexecute]
    by_cases hmem : (schema?.getD server.current, table) ∈ server.tables
    · rw [create, if_pos hmem]
    · have hview := view_create server hmem
      rw [create, if_neg hmem] at hview ⊢
      exact ⟨hmem, hview⟩

end SchemaServer

namespace MySql

def listingTokens : Option String → List Token
  | some schema => keywords ["SHOW", "TABLES", "IN"] ++ [.name schema]
  | none => keywords ["SHOW", "TABLES"]

theorem read_listTables (d : MySql) (schema? : Option String) :
    Token.read quoteMark (Dialect.listTables d schema?) = some (listingTokens schema?) := by
  cases schema? with
  | none =>
    have htables : Written quoteMark "SHOW TABLES" (keywords ["SHOW", "TABLES"]) :=
      Written.keywords _ rfl (by decide)
    exact htables.read_eq
  | some schema =>
    have hschema := Phrased.single (Written.name isMark schema)
    exact (Phrased.consKeywords ["SHOW", "TABLES", "IN"] rfl (by decide) hschema).written.read_eq

instance : ListsTables MySql where
  askedSchema?
    | [.word "SHOW", .word "TABLES"] => some none
    | [.word "SHOW", .word "TABLES", .word "IN", .name schema] => some (some schema)
    | _ => none
  listingTokens := listingTokens
  read_listTables := read_listTables
  askedSchema?_listingTokens schema? := by cases schema? <;> rfl
  tableRow name := ⟨[("Tables", .text name)]⟩
  decodeTable_tableRow _ _ := rfl

end MySql

namespace Sqlite

/-- The words behind the table of all tables. -/
def restrictionTokens : List Token :=
  keywords ["WHERE", "type"] ++ [.sign '=', .literal "table"] ++
    keywords ["AND", "name", "NOT", "LIKE"] ++ [.literal "sqlite_%"]

def listingTokens : Option String → List Token
  | some schema =>
    keywords ["SELECT", "name", "FROM"] ++
      ([.name schema, .sign '.', .word "sqlite_master"] ++ restrictionTokens)
  | none =>
    keywords ["SELECT", "name", "FROM"] ++ ([.word "sqlite_master"] ++ restrictionTokens)

theorem written_restriction :
    Written quoteMark "WHERE type = 'table' AND name NOT LIKE 'sqlite_%'" restrictionTokens :=
  Written.of_read isMark (by decide +kernel)

theorem read_listTables (d : Sqlite) (schema? : Option String) :
    Token.read quoteMark (Dialect.listTables d schema?) = some (listingTokens schema?) := by
  have hselect : Written quoteMark "SELECT name FROM" (keywords ["SELECT", "name", "FROM"]) :=
    Written.keywords _ rfl (by decide)
  have hmaster : Written quoteMark "sqlite_master" [.word "sqlite_master"] :=
    Written.word (by decide)
  cases schema? with
  | none =>
    exact (Phrased.cons hselect
      (Phrased.cons hmaster (Phrased.single written_restriction))).written.read_eq
  | some schema =>
    have htable : Written quoteMark (quoteName schema ++ ".sqlite_master")
        [.name schema, .sign '.', .word "sqlite_master"] := by
      have hdot : Written quoteMark ".sqlite_master" [.sign '.', .word "sqlite_master"] :=
        Written.separated Separates.dot hmaster
      refine (Written.name isMark schema).append hdot fun rest => ?_
      exact Token.Breaks.cons rfl _
    exact (Phrased.cons hselect
      (Phrased.cons htable (Phrased.single written_restriction))).written.read_eq

instance : ListsTables Sqlite where
  askedSchema?
    | .word "SELECT" :: .word "name" :: .word "FROM" :: .word "sqlite_master" :: _ => some none
    | .word "SELECT" :: .word "name" :: .word "FROM" :: .name schema :: _ => some (some schema)
    | _ => none
  listingTokens := listingTokens
  read_listTables := read_listTables
  askedSchema?_listingTokens schema? := by cases schema? <;> rfl
  tableRow name := ⟨[("name", .text name)]⟩
  decodeTable_tableRow _ _ := rfl

end Sqlite

end SchemaChange
