import SchemaChange.Dialogue

/-!
A database that keeps every statement it is given. Its script gives rows to the queries with a
certain beginning, the first entry that fits counting, and other queries have no rows. Statements
that are executed affect no rows and never fail.
-/
namespace SchemaChange.Recording

structure State where
  script : List (String × List Row) := []
  executed : List String := []
  queried : List String := []
deriving DecidableEq

namespace State

/-- Adds an entry behind the others. -/
def extend (s : State) (beginning : String) (rows : List Row) : State :=
  { s with script := s.script ++ [(beginning, rows)] }

def rowsFor (s : State) (sql : String) : List Row :=
  match s.script.find? fun entry => entry.1.toList.isPrefixOf sql.toList with
  | some (_, rows) => rows
  | none => []

end State

def database : Database State where
  query sql _ s := (.ok (s.rowsFor sql), { s with queried := s.queried ++ [sql] })
  execute sql _ s := (.ok 0, { s with executed := s.executed ++ [sql] })

/-- A row as a protocol of texts returns it: every cell is bytes or null. -/
def textRow (cells : List (String × Option String)) : Row :=
  ⟨cells.map fun (column, text?) =>
    (column, match text? with
      | some text => .bytes text.toUTF8
      | none => .null)⟩

end SchemaChange.Recording
