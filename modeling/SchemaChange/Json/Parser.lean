import SchemaChange.Json
import SchemaChange.Json.Text

/-!
Reading a JSON document. The grammar is the strict one: a document is one value with nothing but
blanks around it, lists have no comma before their end, and the keys of an object are texts.
-/
namespace SchemaChange.Json

abbrev Reader := StateT (List Char) Option

namespace Reader

def isBlank (c : Char) : Bool := c = ' ' || c = '\t' || c = '\n' || c = '\r'

def blanks : Reader Unit := fun s => some ((), s.dropWhile isBlank)

def next : Reader Char
  | [] => none
  | c :: rest => some (c, rest)

def peek? : Reader (Option Char) := fun s => some (s.head?, s)

def literal (text : List Char) : Reader Unit := fun s =>
  if text.isPrefixOf s then some ((), s.drop text.length) else none

def fail {α : Type} : Reader α := fun _ => none

/-- The digits at the front, at least one. -/
def digits : Reader Unit := fun s =>
  if (s.takeWhile Char.isDigit).isEmpty then none else some ((), s.dropWhile Char.isDigit)

/-- A whole number without a needless zero in front. -/
def wholeNumber : Reader Unit
  | '0' :: rest => if (rest.takeWhile Char.isDigit).isEmpty then some ((), rest) else none
  | s => digits s

/-- A part of a number that one of some characters starts, when it is there. -/
def optionally (starts : Char → Bool) (part : Reader Unit) : Reader Unit
  | [] => some ((), [])
  | c :: rest => if starts c then part rest else some ((), c :: rest)

def sign : Reader Unit := optionally (fun c => c = '+' || c = '-') (pure ())

def number : Reader Unit := do
  optionally (· = '-') (pure ())
  wholeNumber
  optionally (· = '.') digits
  optionally (fun c => c = 'e' || c = 'E') (do sign; digits)

/-- Items separated by commas up to a closing mark, at most `bound` of them. -/
def itemsUntil {α : Type} (close : Char) (item : Reader α) : (bound : Nat) → Reader (List α)
  | 0 => fail
  | bound + 1 => do
    let first ← item
    blanks
    let mark ← next
    if mark = close then return [first]
    else if mark = ',' then return first :: (← itemsUntil close item bound)
    else fail

/-- The items behind an opening mark. -/
def list {α : Type} (opening close : Char) (item : Reader α) (bound : Nat) :
    Reader (List α) := do
  literal [opening]
  blanks
  if (← peek?) = some close then
    literal [close]
    return []
  else itemsUntil close item bound

def quoted : Reader (Option String) := do
  literal ['"']
  readText

/-- A key of an object, and the colon behind it. -/
def key : Reader (Option String) := do
  blanks
  let text? ← quoted
  blanks
  literal [':']
  return text?

/-- A value whose lists nest less than `bound` deep and have fewer than `bound` items. -/
def value : (bound : Nat) → Reader Json
  | 0 => fail
  | bound + 1 => do
    blanks
    match ← peek? with
    | some '"' => return .text (← quoted)
    | some '[' => return .array (← list '[' ']' (value bound) bound)
    | some '\x7b' =>
      let member := do return (← key, ← value bound)
      return .object (← list '\x7b' '\x7d' member bound)
    | some 'n' => do literal "null".toList; return .null
    | some 't' => do literal "true".toList; return .bool true
    | some 'f' => do literal "false".toList; return .bool false
    | _ => do number; return .number

end Reader

/-- The value of a whole document, which nests and lists less than it has characters. -/
def parse? (text : String) : Option Json :=
  let s := text.toList
  match Reader.value (s.length + 1) s with
  | some (v, rest) => if rest.all Reader.isBlank then some v else none
  | none => none

end SchemaChange.Json
