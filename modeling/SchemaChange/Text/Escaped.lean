import SchemaChange.Text.Escaped.Table

/-!
Quotations of texts for a reader: between double quotes, with a backslash before a quote and before
a backslash, short names for the usual controls, and the code point in hexadecimal for every other
character that shows nothing of its own.
-/
namespace SchemaChange.Text

namespace Escaped

def isHidden (c : Char) : Bool :=
  hiddenRanges.any fun (first, last) => first ≤ c.toNat && c.toNat ≤ last

def byNumber (c : Char) : List Char :=
  ['\\', 'u', '\x7b'] ++ Nat.toDigits 16 c.toNat ++ ['\x7d']

def char (c : Char) : List Char :=
  match c with
  | '"' => ['\\', '"']
  | '\\' => ['\\', '\\']
  | '\n' => ['\\', 'n']
  | '\r' => ['\\', 'r']
  | '\t' => ['\\', 't']
  | '\x00' => ['\\', '0']
  | c => if isHidden c then byNumber c else [c]

end Escaped

/-- A text between double quotes, in which every character can be seen. -/
def quotation (s : String) : String :=
  "\"" ++ String.ofList (s.toList.flatMap Escaped.char) ++ "\""

/-- Items between square brackets, separated by a comma and a blank. -/
def bracketed (items : List String) : String := "[" ++ ", ".intercalate items ++ "]"

/-- The quotations of several texts as one list. -/
def quotations (texts : List String) : String := bracketed (texts.map quotation)

end SchemaChange.Text
