import SchemaChange.Value.Coding

/-!
Rows of a result. A row keeps its columns in the order in which the database returned them, and a
column is found by its exact name or by its position; of columns with one name the first counts.
-/
namespace SchemaChange

structure Row where
  cells : List (String × Value)
deriving DecidableEq

namespace Row

def columns (row : Row) : List String := row.cells.map (·.1)

def size (row : Row) : Nat := row.cells.length

def isEmpty (row : Row) : Bool := row.cells.isEmpty

def get {α : Type} [Decode α] (row : Row) (column : String) : Except Failure α :=
  match row.cells.find? fun cell => cell.1 == column with
  | some (_, v) => decode v
  | none => .error (.missingCell column row.columns)

def getAt {α : Type} [Decode α] (row : Row) (position : Nat) : Except Failure α :=
  match row.cells[position]? with
  | some (_, v) => decode v
  | none => .error (.missingPosition position row.size)

end Row

end SchemaChange
