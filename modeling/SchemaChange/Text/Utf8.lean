import SchemaChange.Decimal.Numeral

/-!
Texts that arrive as bytes. Bytes that are no UTF-8 are refused at the first character that cannot
be read: its position, and how many of its bytes could still have started a character. When the
bytes end inside a character that could go on, the character is incomplete.
-/
namespace SchemaChange.Text.Utf8

inductive Fault where
  | invalid (position length : Nat)
  | incomplete (position : Nat)
deriving DecidableEq, Repr

def Fault.message : Fault → String
  | .invalid position length =>
    "invalid utf-8 sequence of " ++ Decimal.integerText length ++ " bytes from index " ++
      Decimal.integerText position
  | .incomplete position =>
    "incomplete utf-8 byte sequence from index " ++ Decimal.integerText position

/-- What the first byte of a character asks for: how many bytes must follow, and the least and the
greatest of the first that follows. -/
def continuation (b : UInt8) : Option (Nat × UInt8 × UInt8) :=
  if b < 0x80 then some (0, 0x80, 0xBF)
  else if b < 0xC2 then none
  else if b < 0xE0 then some (1, 0x80, 0xBF)
  else if b == 0xE0 then some (2, 0xA0, 0xBF)
  else if b == 0xED then some (2, 0x80, 0x9F)
  else if b < 0xF0 then some (2, 0x80, 0xBF)
  else if b == 0xF0 then some (3, 0x90, 0xBF)
  else if b < 0xF4 then some (3, 0x80, 0xBF)
  else if b == 0xF4 then some (3, 0x80, 0x8F)
  else none

/-- The fault met after `taken` bytes of the character at `position`, which wants `wanted` more, the
next of them from `least` to `greatest`. -/
def faultFrom (position taken wanted : Nat) (least greatest : UInt8) : List UInt8 → Option Fault
  | [] => if wanted = 0 then none else some (.incomplete position)
  | b :: rest =>
    if wanted = 0 then
      match continuation b with
      | some (more, least, greatest) => faultFrom (position + taken) 1 more least greatest rest
      | none => some (.invalid (position + taken) 1)
    else if least ≤ b && b ≤ greatest then
      faultFrom position (taken + 1) (wanted - 1) 0x80 0xBF rest
    else some (.invalid position taken)

def fault? (bytes : List UInt8) : Option Fault := faultFrom 0 0 0 0x80 0xBF bytes

def decode (bytes : ByteArray) : Except Fault String :=
  match String.fromUTF8? bytes with
  | some s => .ok s
  | none => .error ((fault? bytes.toList).getD (.incomplete bytes.size))

theorem decode_toUTF8 (s : String) : decode s.toUTF8 = .ok s := by
  have h : String.fromUTF8? s.toUTF8 = some s := dif_pos s.isValidUTF8
  simp only [decode, h]

theorem decode_eq_ok_iff {bytes : ByteArray} {s : String} :
    decode bytes = .ok s ↔ bytes = s.toUTF8 := by
  constructor
  · intro h
    by_cases hb : bytes.IsValidUTF8
    · simp only [decode, String.fromUTF8?, dif_pos hb, Except.ok.injEq] at h
      subst h
      rfl
    · simp [decode, String.fromUTF8?, hb] at h
  · rintro rfl
    exact decode_toUTF8 s

end SchemaChange.Text.Utf8
