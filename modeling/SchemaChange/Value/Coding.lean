import SchemaChange.Failure
import SchemaChange.Text.Whitespace

/-!
Values and the types of the program. A whole number may arrive as a truth value, as a number of
either sign or as text, and decodes to a type exactly when it lies in the range of that type. Null
decodes to an optional type only.
-/
namespace SchemaChange

/-- A type of whole numbers with a range, and the name that messages give it. -/
class Word (α : Type) where
  typeName : String
  least : Int
  greatest : Int
  toInt : α → Int
  ofInt : Int → α
  least_le_toInt : ∀ x, least ≤ toInt x
  toInt_le_greatest : ∀ x, toInt x ≤ greatest
  toInt_ofInt : ∀ n, least ≤ n → n ≤ greatest → toInt (ofInt n) = n
  ofInt_toInt : ∀ x, ofInt (toInt x) = x

instance : Word Int32 where
  typeName := "i32"
  least := Int32.minValue.toInt
  greatest := Int32.maxValue.toInt
  toInt := Int32.toInt
  ofInt := Int32.ofInt
  least_le_toInt := Int32.minValue_le_toInt
  toInt_le_greatest := Int32.toInt_le
  toInt_ofInt n h₁ h₂ := by
    rw [Int32.toInt_minValue] at h₁
    rw [Int32.toInt_maxValue] at h₂
    exact Int32.toInt_ofInt_of_le h₁ (by omega)
  ofInt_toInt := Int32.ofInt_toInt

instance : Word Int64 where
  typeName := "i64"
  least := Int64.minValue.toInt
  greatest := Int64.maxValue.toInt
  toInt := Int64.toInt
  ofInt := Int64.ofInt
  least_le_toInt := Int64.minValue_le_toInt
  toInt_le_greatest := Int64.toInt_le
  toInt_ofInt n h₁ h₂ := by
    rw [Int64.toInt_minValue] at h₁
    rw [Int64.toInt_maxValue] at h₂
    exact Int64.toInt_ofInt_of_le h₁ (by omega)
  ofInt_toInt := Int64.ofInt_toInt

instance : Word UInt32 where
  typeName := "u32"
  least := 0
  greatest := UInt32.size - 1
  toInt x := x.toNat
  ofInt n := UInt32.ofNat n.toNat
  least_le_toInt x := by omega
  toInt_le_greatest x := by have := x.toNat_lt_size; omega
  toInt_ofInt n h₁ h₂ := by
    rw [UInt32.toNat_ofNat_of_lt' (by omega)]
    omega
  ofInt_toInt x := by simp

instance : Word UInt64 where
  typeName := "u64"
  least := 0
  greatest := UInt64.size - 1
  toInt x := x.toNat
  ofInt n := UInt64.ofNat n.toNat
  least_le_toInt x := by omega
  toInt_le_greatest x := by have := x.toNat_lt_size; omega
  toInt_ofInt n h₁ h₂ := by
    rw [UInt64.toNat_ofNat_of_lt' (by omega)]
    omega
  ofInt_toInt x := by simp

class Encode (α : Type) where
  encode : α → Value

class Decode (α : Type) where
  decode : Value → Except Failure α

export Encode (encode)
export Decode (decode)

instance : Encode Bool := ⟨.bool⟩
instance : Encode Int32 := ⟨fun n => .int64 n.toInt64⟩
instance : Encode Int64 := ⟨.int64⟩
instance : Encode UInt32 := ⟨fun n => .uint64 n.toUInt64⟩
instance : Encode UInt64 := ⟨.uint64⟩
instance : Encode Float := ⟨.float⟩
instance : Encode String := ⟨.text⟩
instance : Encode ByteArray := ⟨.bytes⟩

instance {α : Type} [Encode α] : Encode (Option α) where
  encode
    | none => .null
    | some x => encode x

/-- The number in a type whose range holds it. -/
def Word.fit {α : Type} [Word α] (n : Int) : Except Failure α :=
  if n < Word.least α then .error (.unfit n .tooSmall)
  else if Word.greatest α < n then .error (.unfit n .tooLarge)
  else .ok (Word.ofInt n)

/-- The number that a text denotes between white space. -/
def Word.ofText {α : Type} [Word α] (text : String) : Except Failure α :=
  match Decimal.readNumeral (Word.least α) (Word.greatest α) (Text.trim text.toList) with
  | .ok n => .ok (Word.ofInt n)
  | .error fault => .error (.unreadableNumber text fault)

/-- The text of characters or of bytes. -/
def textOfBytes (b : ByteArray) : Except Failure String :=
  (Text.Utf8.decode b).mapError .unreadableBytes

def decodeWord {α : Type} [Word α] : Value → Except Failure α
  | .bool b => .ok (Word.ofInt (if b then 1 else 0))
  | .int64 n => Word.fit n.toInt
  | .uint64 n => Word.fit n.toNat
  | .text s => Word.ofText s
  | .bytes b => textOfBytes b >>= Word.ofText
  | v => .error (.mismatch v (Word.typeName α))

instance : Decode Int32 := ⟨decodeWord⟩
instance : Decode Int64 := ⟨decodeWord⟩
instance : Decode UInt32 := ⟨decodeWord⟩
instance : Decode UInt64 := ⟨decodeWord⟩

/-- A number is true unless it is zero. -/
instance : Decode Bool where
  decode
    | .bool b => .ok b
    | .int64 n => .ok (n != 0)
    | .uint64 n => .ok (n != 0)
    | .text s => (Word.ofText s).map fun n : Int64 => n != 0
    | .bytes b => (textOfBytes b >>= Word.ofText).map fun n : Int64 => n != 0
    | v => .error (.mismatch v "bool")

instance : Decode Float where
  decode
    | .float x => .ok x
    | .int64 n => .ok n.toFloat
    | .uint64 n => .ok n.toFloat
    | v => .error (.mismatch v "f64")

instance : Decode String where
  decode
    | .text s => .ok s
    | .bytes b => textOfBytes b
    | .int64 n => .ok (Decimal.integerText n.toInt)
    | .uint64 n => .ok (Decimal.integerText n.toNat)
    | v => .error (.mismatch v "String")

instance : Decode ByteArray where
  decode
    | .bytes b => .ok b
    | .text s => .ok s.toUTF8
    | v => .error (.mismatch v "Vec<u8>")

instance {α : Type} [Decode α] : Decode (Option α) where
  decode
    | .null => .ok none
    | v => (decode v).map some

end SchemaChange
