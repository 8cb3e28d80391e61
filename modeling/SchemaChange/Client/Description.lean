import SchemaChange.Client
import SchemaChange.UrlDialect

/-!
How a client shows itself to a reader: its dialect, its connection, of which nothing is told, and
its settings with every text quoted.
-/
namespace SchemaChange

/-- A name with named fields behind it. -/
def recordText (name : String) (fields : List (String × String)) : String :=
  let members := fields.map fun (field, text) => field ++ ": " ++ text
  Text.phrase [name, "\x7b", Text.clauseList members, "\x7d"]

class Describe (α : Type) where
  describe : α → String

export Describe (describe)

instance : Describe String := ⟨Text.quotation⟩

instance {α : Type} [Describe α] : Describe (Option α) where
  describe
    | none => "None"
    | some x => Text.applied "Some" (describe x)

instance : Describe MySql where
  describe d := recordText "MysqlDialect" [("engine", describe d.engine)]

instance : Describe Sqlite where
  describe _ := "SqliteDialect"

instance : Describe UrlDialect where
  describe
    | .mySql d => Text.applied "Mysql" (describe d)
    | .sqlite d => Text.applied "Sqlite" (describe d)

instance : Describe Settings where
  describe s := recordText "AdapterOptions" [("url", describe s.url),
    ("database", describe s.database?), ("ledger_table", describe s.ledgerTable),
    ("engine", describe s.engine), ("charset", describe s.charset)]

instance {δ : Type} [Describe δ] : Describe (Client δ) where
  describe client := recordText "Adapter" [("dialect", describe client.dialect),
    ("conn", Text.phrase ["Connection", "\x7b", "..", "\x7d"]),
    ("options", describe client.settings)]

end SchemaChange
