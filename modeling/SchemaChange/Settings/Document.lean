import SchemaChange.Json.Parser
import SchemaChange.Settings

/-!
Settings from a JSON document. An object gives settings by their names, each at most once, and other
names are skipped; a list gives them in their order and may stop early. Every setting is a text, and
the database may be null. What the document does not give has its default.
-/
namespace SchemaChange.Settings

/-- The settings that a document can give, in the order of a list. -/
inductive Key where
  | url
  | database
  | ledgerTable
  | engine
  | charset
deriving DecidableEq, Repr

namespace Key

def all : List Key := [.url, .database, .ledgerTable, .engine, .charset]

def name : Key → String
  | url => "url"
  | database => "database"
  | ledgerTable => "ledger_table"
  | engine => "engine"
  | charset => "charset"

def ofName? (name : String) : Option Key := all.find? fun key => key.name == name

end Key

/-- The settings with one of them replaced, if the value suits it. -/
def set? (settings : Settings) (key : Key) (value : Json) : Option Settings :=
  match key, value with
  | .url, .text (some s) => some { settings with url := s }
  | .database, .text (some s) => some { settings with database? := some s }
  | .database, .null => some { settings with database? := none }
  | .ledgerTable, .text (some s) => some { settings with ledgerTable := s }
  | .engine, .text (some s) => some { settings with engine := s }
  | .charset, .text (some s) => some { settings with charset := s }
  | _, _ => none

def ofItems? (settings : Settings) : List Key → List Json → Option Settings
  | _, [] => some settings
  | [], _ :: _ => none
  | key :: keys, item :: items => do ofItems? (← settings.set? key item) keys items

/-- Takes the members of an object of which the keys `given` have been seen. -/
def ofMembers? (settings : Settings) (given : List Key) :
    List (Option String × Json) → Option Settings
  | [] => some settings
  | (none, _) :: _ => none
  | (some name, value) :: rest =>
    match Key.ofName? name with
    | none => ofMembers? settings given rest
    | some key =>
      if key ∈ given then none
      else do ofMembers? (← settings.set? key value) (key :: given) rest

def ofJson? : Json → Option Settings
  | .array items => ofItems? {} Key.all items
  | .object members => ofMembers? {} [] members
  | _ => none

def ofDocument? (text : String) : Option Settings := Json.parse? text >>= ofJson?

end SchemaChange.Settings
