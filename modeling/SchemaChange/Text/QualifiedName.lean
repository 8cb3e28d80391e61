import SchemaChange.Text.Quoted

/-!
Names of tables with their schemas in front, separated by dots. Quoting takes a name apart at every
dot and quotes each component; a catalog query asks for the text before the last dot as the schema
and for the text after it as the table. Both agree on names with at most one dot.
-/
namespace SchemaChange.Text.QualifiedName

/-- The text before the last dot, when there is a dot, and the text after it. -/
def splitLast : List Char → Option (List Char) × List Char
  | [] => (none, [])
  | c :: rest =>
    match splitLast rest with
    | (some schema, table) => (some (c :: schema), table)
    | (none, table) => if c = '.' then (some [], table) else (none, c :: table)

def schema? (name : String) : Option String := (splitLast name.toList).1.map String.ofList

def table (name : String) : String := String.ofList (splitLast name.toList).2

/-- The texts between the dots of a name. -/
def components (name : String) : List String := (name.toList.splitOn '.').map String.ofList

def quote (mark : Char) (name : String) : String :=
  ".".intercalate ((components name).map (Text.quote mark))

end SchemaChange.Text.QualifiedName
