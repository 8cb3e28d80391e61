import SchemaChange.Failure
import SchemaChange.Text.QualifiedName

/-!
Indexes as a schema change asks for them. An index without a name of its own is named after its
table, without the schema, and its columns.
-/
namespace SchemaChange

structure Index where
  columns : List String
  unique : Bool := false
  name? : Option String := none
deriving DecidableEq, Repr

namespace Index

def nameFor (index : Index) (table : String) : String :=
  match index.name? with
  | some name => name
  | none => "_".intercalate [Text.QualifiedName.table table, "_".intercalate index.columns, "index"]

/-- An index has columns, and each of them has a name. -/
def check (index : Index) : Except Failure Unit :=
  if index.columns = [] then .error .emptyIndex
  else if "" ∈ index.columns then .error (.unnamedIndexColumn index.columns)
  else .ok ()

theorem check_eq_ok_iff {index : Index} :
    index.check = .ok () ↔ index.columns ≠ [] ∧ "" ∉ index.columns := by
  unfold check
  split
  · simp_all
  · split <;> simp_all

end Index

end SchemaChange
