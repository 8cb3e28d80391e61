import SchemaChange.Decimal.Numeral
import SchemaChange.Text.Whitespace
import SchemaChange.Timestamp

/-!
Times as text: year, month and day separated by hyphens, a blank, then hour, minute and second
separated by colons. A year of more or fewer than four digits is written with its sign. Reading
allows white space before each number and any white space between date and time, takes a year of any
length when a sign stands before it, and tests each number as soon as it is read; whether the day
exists is tested last.
-/
namespace SchemaChange.Timestamp

inductive TextFault where
  | tooShort
  | unexpected
  | trailing
  | outOfRange
deriving DecidableEq, Repr

def TextFault.message : TextFault → String
  | .tooShort => "premature end of input"
  | .unexpected => "input contains invalid characters"
  | .trailing => "trailing input"
  | .outOfRange => "input is out of range"

/-- The digits of a number with zeros in front up to a given count of digits. -/
def padded (count n : Nat) : List Char :=
  let digits := Nat.toDigits 10 n
  List.replicate (count - digits.length) '0' ++ digits

def yearText (year : Int) : List Char :=
  if year < 0 then '-' :: padded 4 year.natAbs
  else if year ≤ 9999 then padded 4 year.natAbs
  else '+' :: padded 4 year.natAbs

def toList (t : Timestamp) : List Char :=
  yearText t.year ++ ['-'] ++ padded 2 t.month ++ ['-'] ++ padded 2 t.day ++ [' '] ++
    padded 2 t.hour ++ [':'] ++ padded 2 t.minute ++ [':'] ++
    padded 2 (if t.isLeapSecond then 60 else t.second)

def toText (t : Timestamp) : String := String.ofList t.toList

/-- A reader takes characters from the front of a text. -/
abbrev Reader := StateT (List Char) (Except TextFault)

namespace Reader

def digitsValue (digits : List Char) : Nat := Nat.ofDigitChars 10 digits 0

/-- The digits at the front of a text, at least one. -/
def digits (limit : Option Nat) : Reader Nat := fun s =>
  let found := ((limit.map s.take).getD s).takeWhile Char.isDigit
  if s = [] then .error .tooShort
  else if found = [] then .error .unexpected
  else if digitsValue found ≤ Int64.maxValue.toInt then .ok (digitsValue found, s.drop found.length)
  else .error .outOfRange

def space : Reader Unit := fun s => .ok ((), Text.trimLeft s)

def literal (c : Char) : Reader Unit
  | [] => .error .tooShort
  | d :: rest => if d = c then .ok ((), rest) else .error .unexpected

/-- A number of one or two digits in a range. -/
def number (least greatest : Nat) : Reader Nat := do
  space
  let n ← digits (some 2)
  if least ≤ n ∧ n ≤ greatest then pure n else throw .outOfRange

/-- Four digits at most, or a sign and any number of digits. -/
def signedYear : Reader Int := fun s =>
  match s with
  | '-' :: rest => (digits none rest).map fun (n, rest) => (-(n : Int), rest)
  | '+' :: rest => (digits none rest).map fun (n, rest) => ((n : Int), rest)
  | s => (digits (some 4) s).map fun (n, rest) => ((n : Int), rest)

def year : Reader Int := do
  space
  let n ← signedYear
  if Int32.minValue.toInt ≤ n ∧ n ≤ Int32.maxValue.toInt then pure n else throw .outOfRange

def finish : Reader Unit
  | [] => .ok ((), [])
  | _ :: _ => .error .trailing

def timestamp : Reader Timestamp := do
  let year ← year
  literal '-'
  let month ← number 1 12
  literal '-'
  let day ← number 1 31
  space
  let hour ← number 0 23
  literal ':'
  let minute ← number 0 59
  literal ':'
  let second ← number 0 60
  finish
  let time :=
    if second = 60 then of? year month day hour minute 59 1000000000
    else of? year month day hour minute second 0
  match time with
  | some t => pure t
  | none => throw .outOfRange

end Reader

def ofList (s : List Char) : Except TextFault Timestamp := Reader.timestamp.run' s

/-- The text in front of the first point, which is where a fraction of a second starts. -/
def withoutFraction (s : String) : String := String.ofList (s.toList.takeWhile (· ≠ '.'))

def ofText (s : String) : Except TextFault Timestamp := ofList s.toList

end SchemaChange.Timestamp
