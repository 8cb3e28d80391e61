/-!
The shortest decimal that reads back as a given binary floating-point number. A finite number is a
significand times a power of two, and all reals of an interval around it round to it; the ends
belong to the interval when the significand is even. Of the decimals with one digit, two digits and
so on the first grid with a point in the interval gives the digits, of two such points the nearer,
and an exact tie goes up.
-/
namespace SchemaChange.Decimal

/-- The number `significand * 10 ^ exponent`. -/
structure Scientific where
  significand : Nat
  exponent : Int
deriving DecidableEq, Repr

/-- The parts of a finite number `fraction * 2 ^ exponent`; below a power of two the numbers may lie
closer together than above it. -/
structure Binary where
  fraction : Nat
  exponent : Int
  closerBelow : Bool
deriving DecidableEq, Repr

/-- A number and the ends of its rounding interval over one denominator. -/
structure Interval where
  low : Nat
  value : Nat
  high : Nat
  denominator : Nat
  closed : Bool

def Binary.interval (b : Binary) : Interval :=
  let scale := Nat.pow 2 (b.exponent - 2).toNat
  { low := (4 * b.fraction - if b.closerBelow then 1 else 2) * scale
    value := 4 * b.fraction * scale
    high := (4 * b.fraction + 2) * scale
    denominator := Nat.pow 2 (2 - b.exponent).toNat
    closed := b.fraction % 2 == 0 }

/-- The interval measured in units of `10 ^ unit`. -/
def Interval.inUnits (i : Interval) (unit : Int) : Interval :=
  let scale := Nat.pow 10 (-unit).toNat
  { low := i.low * scale
    value := i.value * scale
    high := i.high * scale
    denominator := i.denominator * Nat.pow 10 unit.toNat
    closed := i.closed }

def Interval.holds (i : Interval) (n : Nat) : Bool :=
  if i.closed then i.low ≤ n * i.denominator && n * i.denominator ≤ i.high
  else i.low < n * i.denominator && n * i.denominator < i.high

/-- The whole number of the interval that is nearest to its value. -/
def Interval.nearest? (i : Interval) : Option Nat :=
  let below := i.value / i.denominator
  let nearerAbove := i.denominator ≤ 2 * (i.value % i.denominator)
  if i.holds (below + 1) && (nearerAbove || !i.holds below) then some (below + 1)
  else if i.holds below then some below
  else none

/-- The number of digits before the point, or minus the number of zeros behind it. -/
def Interval.magnitude (i : Interval) : Int :=
  if i.denominator ≤ i.value then (Nat.toDigits 10 (i.value / i.denominator)).length
  else 1 - ((Nat.toDigits 10 (i.denominator / i.value)).length : Int)

/-- A double needs at most seventeen digits. -/
def mostDigits : Nat := 17

/-- The point of a grid of `digits` digits; rounded up to a power of ten it has one digit. -/
def Scientific.onGrid (digits : Nat) (unit : Int) (n : Nat) : Scientific :=
  if n = Nat.pow 10 digits then ⟨1, unit + digits⟩ else ⟨n, unit⟩

/-- The shortest decimal in the rounding interval of a number that is not zero. -/
def Binary.shortest (b : Binary) : Scientific :=
  let i := b.interval
  let found := (List.range' 1 mostDigits).findSome? fun (digits : Nat) =>
    let unit := i.magnitude - digits
    (i.inUnits unit).nearest?.map (Scientific.onGrid digits unit)
  found.getD ⟨0, 0⟩

end SchemaChange.Decimal
