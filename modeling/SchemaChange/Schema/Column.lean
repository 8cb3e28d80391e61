import SchemaChange.Failure

/-!
Columns as a schema change asks for them: a name, a kind, and what deviates from the usual column,
which has the length of its dialect, takes no null, has no default and counts nothing.
-/
namespace SchemaChange

/-- The default of a column. Statements carry its text as a string literal. -/
inductive DefaultValue where
  | text (s : String)
  | integer (n : Int64)
  | float (x : Float)
  | bool (b : Bool)
deriving DecidableEq

namespace DefaultValue

/-- Defaults show a float with all its places and without an exponent. -/
def floatLayout : Decimal.FloatLayout := .plain

def toText : DefaultValue → String
  | text s => s
  | integer n => Decimal.integerText n.toInt
  | float x => floatLayout.render x
  | bool b => if b then "1" else "0"

end DefaultValue

structure Column where
  name : String
  type : ColumnType
  limit : Option Nat := none
  nullable : Bool := false
  default? : Option DefaultValue := none
  autoIncrement : Bool := false
  after? : Option String := none
deriving DecidableEq

/-- The kind of column that a name stands for. -/
def ColumnType.ofName (name : String) : Except Failure ColumnType :=
  match ofName? name with
  | some type => .ok type
  | none => .error (.unknownType name)

/-- The usual column of a kind given by its name. -/
def Column.ofTypeName (name typeName : String) : Except Failure Column :=
  (ColumnType.ofName typeName).map fun type => { name, type }

/-- A column has a name. -/
def Column.check (column : Column) : Except Failure Unit :=
  if column.name = "" then .error (.unnamedColumn column.type) else .ok ()

theorem Column.check_eq_ok_iff {column : Column} : column.check = .ok () ↔ column.name ≠ "" := by
  unfold check
  split <;> simp_all

end SchemaChange
