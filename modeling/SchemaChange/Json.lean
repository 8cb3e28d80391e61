/-!
The values of a JSON document. The settings need no number, so a number has no content here, and a
text that is no sequence of characters, because an escape in it is half of a surrogate pair, is kept
as a text without content: where it is skipped it does no harm.
-/
namespace SchemaChange

inductive Json where
  | null
  | bool (b : Bool)
  | number
  | text (s? : Option String)
  | array (items : List Json)
  | object (members : List (Option String × Json))

end SchemaChange
