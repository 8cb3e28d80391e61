/-!
The kinds of column that a schema change can ask for, whatever the database. Every dialect gives
each of them a type of its own.
-/
namespace SchemaChange

inductive ColumnType where
  | primaryKey
  | string
  | text
  | integer
  | float
  | decimal
  | datetime
  | timestamp
  | time
  | date
  | binary
  | boolean
deriving DecidableEq, Repr

namespace ColumnType

def all : List ColumnType :=
  [.primaryKey, .string, .text, .integer, .float, .decimal, .datetime, .timestamp, .time, .date,
    .binary, .boolean]

def name : ColumnType → String
  | primaryKey => "primary_key"
  | string => "string"
  | text => "text"
  | integer => "integer"
  | float => "float"
  | decimal => "decimal"
  | datetime => "datetime"
  | timestamp => "timestamp"
  | time => "time"
  | date => "date"
  | binary => "binary"
  | boolean => "boolean"

def ofName? (name : String) : Option ColumnType := all.find? fun type => type.name == name

theorem mem_all (type : ColumnType) : type ∈ all := by cases type <;> decide

theorem ofName?_name (type : ColumnType) : ofName? type.name = some type := by
  cases type <;> decide

theorem eq_name_of_ofName? {name : String} {type : ColumnType} (h : ofName? name = some type) :
    name = type.name := by
  have := List.find?_some h
  simpa using (beq_iff_eq.mp this).symm

end ColumnType

/-- The type that a dialect gives a column, with the length it takes unless the column says one. -/
structure SqlType where
  name : String
  limit : Option Nat := none
deriving DecidableEq, Repr

end SchemaChange
