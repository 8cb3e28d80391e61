/-!
Whole numbers as decimal text. Reading allows a plus sign and any number of leading zeros, and a
minus sign only where negative numbers are in range. It goes from left to right, so of a character
that is no digit and a number that leaves the range the one that is met first is reported.
-/
namespace SchemaChange.Decimal

inductive NumeralFault where
  | empty
  | invalidDigit
  | tooLarge
  | tooSmall
deriving DecidableEq, Repr

def numeral (n : Int) : List Char :=
  if n < 0 then '-' :: Nat.toDigits 10 n.natAbs else Nat.toDigits 10 n.natAbs

def integerText (n : Int) : String := String.ofList (numeral n)

def digitValue (c : Char) : Nat := c.toNat - '0'.toNat

/-- Reads further digits behind a number that is at most `limit`, and stops with `beyond` at the
digit that takes the number above it. -/
def readDigits (limit : Nat) (beyond : NumeralFault) (n : Nat) :
    List Char → Except NumeralFault Nat
  | [] => .ok n
  | c :: rest =>
    if c.isDigit then
      if 10 * n + digitValue c ≤ limit then
        readDigits limit beyond (10 * n + digitValue c) rest
      else .error beyond
    else .error .invalidDigit

/-- The whole number from `least` to `greatest` that a text denotes. -/
def readNumeral (least greatest : Int) : List Char → Except NumeralFault Int
  | [] => .error .empty
  | ['+'] => .error .invalidDigit
  | ['-'] => .error .invalidDigit
  | '+' :: digits => (readDigits greatest.toNat .tooLarge 0 digits).map fun n => (n : Int)
  | '-' :: digits =>
    if least < 0 then
      (readDigits least.natAbs .tooSmall 0 digits).map fun n => -(n : Int)
    else .error .invalidDigit
  | digits => (readDigits greatest.toNat .tooLarge 0 digits).map fun n => (n : Int)

def NumeralFault.message : NumeralFault → String
  | .empty => "cannot parse integer from empty string"
  | .invalidDigit => "invalid digit found in string"
  | .tooLarge => "number too large to fit in target type"
  | .tooSmall => "number too small to fit in target type"

end SchemaChange.Decimal
