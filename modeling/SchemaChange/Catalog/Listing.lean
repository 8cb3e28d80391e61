import SchemaChange.Text.LetterCase

/-!
What a database tells about its tables. Columns come one by one; an index comes as its parts, one
row for each column, and the parts of different indexes may be mixed. Grouping puts the parts of one
name together, in the order in which the names appear first. Requests name columns in any order and
any case.
-/
namespace SchemaChange

structure ListedColumn where
  name : String
  type : String
  nullable : Bool := false
  default? : Option String := none
  extra : String := ""
deriving DecidableEq, Repr

/-- One column of one index. -/
structure IndexPart where
  index : String
  column : String
  unique : Bool
deriving DecidableEq, Repr

structure ListedIndex where
  name : String
  columns : List String
  unique : Bool
deriving DecidableEq, Repr

namespace ListedIndex

/-- Every requested column is one of the index. -/
def covers (index : ListedIndex) (requested : List String) : Bool :=
  requested.all fun column => index.columns.any fun own => Text.sameName own column

/-- The index has the requested columns and no other. -/
def isExactly (index : ListedIndex) (requested : List String) : Bool :=
  index.covers requested &&
    index.columns.all fun own => requested.any fun column => Text.sameName own column

/-- Puts a part to the index of its name, or behind the others as a new index. -/
def insertPart (part : IndexPart) : List ListedIndex → List ListedIndex
  | [] => [⟨part.index, [part.column], part.unique⟩]
  | index :: rest =>
    if index.name = part.index then
      { index with columns := index.columns ++ [part.column] } :: rest
    else index :: insertPart part rest

/-- The indexes of a listing, each with its columns in order. -/
def ofParts (parts : List IndexPart) : List ListedIndex :=
  parts.foldl (fun indexes part => insertPart part indexes) []

end ListedIndex

end SchemaChange
