/-!
Statements are written as phrases: their parts in order with one blank between each two. A list
inside a statement is separated by commas, without blanks when it lists names.
-/
namespace SchemaChange.Text

/-- The parts in order, with one blank between each two. -/
def phrase (parts : List String) : String := " ".intercalate parts

def commaList (items : List String) : String := ",".intercalate items

def clauseList (clauses : List String) : String := ", ".intercalate clauses

def parenthesized (content : String) : String := "(" ++ content ++ ")"

/-- A name with its content in parentheses right behind it. -/
def applied (name content : String) : String := name ++ parenthesized content

theorem toList_phrase (parts : List String) :
    (phrase parts).toList = [' '].intercalate (parts.map String.toList) := by
  simp [phrase]

end SchemaChange.Text
