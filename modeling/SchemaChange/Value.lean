import SchemaChange.Decimal.Layout
import SchemaChange.Text.Escaped
import SchemaChange.Text.Phrase

/-!
The values that cross a connection: parameters of a statement and the cells of a result row. A
database may answer a number natively or as text, and text as characters or as bytes.
-/
namespace SchemaChange

/-- Byte sequences are equal when all their bytes are. -/
instance instDecidableEqBytes : DecidableEq ByteArray := ByteArray.instDecidableEq

inductive Value where
  | null
  | bool (b : Bool)
  | int64 (n : Int64)
  | uint64 (n : UInt64)
  | float (x : Float)
  | text (s : String)
  | bytes (b : ByteArray)
deriving DecidableEq

namespace Value

/-- Every float shows a point or an exponent, so that it cannot be taken for a whole number. -/
def floatLayout : Decimal.FloatLayout := .marked

/-- A value as messages show it: the kind of the value, then its content. -/
def describe : Value → String
  | null => "Null"
  | bool b => Text.applied "Bool" (if b then "true" else "false")
  | int64 n => Text.applied "I64" (Decimal.integerText n.toInt)
  | uint64 n => Text.applied "U64" (Decimal.integerText n.toNat)
  | float x => Text.applied "F64" (floatLayout.render x)
  | text s => Text.applied "Str" (Text.quotation s)
  | bytes b =>
    Text.applied "Bytes" (Text.bracketed (b.toList.map fun byte => Decimal.integerText byte.toNat))

end Value

end SchemaChange
