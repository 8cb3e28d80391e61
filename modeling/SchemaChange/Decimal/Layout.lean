import SchemaChange.Decimal.Numeral
import SchemaChange.Decimal.Shortest

/-!
Floating-point numbers as text. The digits are the shortest that read back; a layout decides whether
a whole number keeps a point and for which places of the point the number is written with an
exponent. A zero keeps its sign in every layout.
-/
namespace SchemaChange.Decimal

/-- Where the point stands is counted from the front of the digits: 1 in `1.5`, 0 in `0.15`. -/
structure FloatLayout where
  keepsPoint : Bool
  isPositional : Int → Bool

/-- Every number without an exponent, and a whole number without a point. -/
def FloatLayout.plain : FloatLayout := ⟨false, fun _ => true⟩

/-- A point or an exponent in every number: numbers below a ten-thousandth and numbers of more than
sixteen digits before the point have an exponent. -/
def FloatLayout.marked : FloatLayout := ⟨true, fun point => -4 < point && point ≤ 16⟩

def zeros (n : Nat) : List Char := List.replicate n '0'

/-- Digits with a point after the first `point` of them, filled up with zeros on either side. -/
def positional (keepsPoint : Bool) (digits : List Char) (point : Int) : List Char :=
  if point ≤ 0 then ['0', '.'] ++ zeros (-point).toNat ++ digits
  else if point < digits.length then
    digits.take point.toNat ++ ['.'] ++ digits.drop point.toNat
  else
    digits ++ zeros (point.toNat - digits.length) ++ (if keepsPoint then ['.', '0'] else [])

/-- One digit before the point, the other digits behind it, then the power of ten. -/
def exponential (digits : List Char) (point : Int) : List Char :=
  let mantissa :=
    match digits with
    | first :: second :: rest => first :: '.' :: second :: rest
    | _ => digits
  mantissa ++ ['e'] ++ numeral (point - 1)

def FloatLayout.write (layout : FloatLayout) (d : Scientific) : List Char :=
  let digits := Nat.toDigits 10 d.significand
  let point := digits.length + d.exponent
  if layout.isPositional point then positional layout.keepsPoint digits point
  else exponential digits point

/-- A double by its bits: sign, eleven bits of exponent, fifty-two of fraction. -/
structure DoubleParts where
  negative : Bool
  exponent : Nat
  fraction : Nat

def DoubleParts.ofFloat (x : Float) : DoubleParts :=
  let bits := x.toBits
  ⟨bits >>> 63 == 1, (bits >>> 52 &&& 0x7FF).toNat, (bits &&& 0xFFFFFFFFFFFFF).toNat⟩

/-- A number with the least exponent has no hidden leading bit. -/
def DoubleParts.binary (p : DoubleParts) : Binary :=
  if p.exponent = 0 then ⟨p.fraction, -1074, false⟩
  else ⟨0x10000000000000 + p.fraction, p.exponent - 1075, p.fraction == 0⟩

def FloatLayout.render (layout : FloatLayout) (x : Float) : String :=
  let p := DoubleParts.ofFloat x
  if p.exponent = 2047 ∧ p.fraction ≠ 0 then "NaN"
  else
    let size :=
      if p.exponent = 2047 then ['i', 'n', 'f']
      else if p.exponent = 0 ∧ p.fraction = 0 then positional layout.keepsPoint ['0'] 1
      else layout.write p.binary.shortest
    String.ofList (if p.negative then '-' :: size else size)

end SchemaChange.Decimal
