import Mathlib.Algebra.Group.Int.Defs
import SchemaChange.Proofs.NumeralGrammar
import SchemaChange.Proofs.Success
import SchemaChange.Proofs.TextForm

/-!
Whole numbers as values, and the types they decode to. A value stands for at most one number: a
truth value for zero or one, a number for itself, and a text for the number that it is a text of. A
value decodes to a type exactly when it stands for a number in the range of the type, and then to
this number. So nothing is cut off or wrapped around, and it makes no difference whether a number
comes as itself or in digits.
-/
namespace SchemaChange

namespace Value

/-- The whole number that a value stands for. White space around a text does not count, and bytes
stand for what their text does. -/
inductive Denotes (signed : Bool) : Value → Int → Prop
  | bool (b : Bool) : Denotes signed (.bool b) (if b then 1 else 0)
  | int64 (x : Int64) : Denotes signed (.int64 x) x.toInt
  | uint64 (x : UInt64) : Denotes signed (.uint64 x) x.toNat
  | text {s : String} {numeral : List Char} {n : Int} (hpadded : Text.Padded numeral s.toList)
      (h : Decimal.Denotes signed numeral n) : Denotes signed (.text s) n
  | bytes {s : String} {n : Int} (h : Denotes signed (.text s) n) :
      Denotes signed (.bytes s.toUTF8) n

/-- The value is the number itself. -/
inductive Carries : Value → Int → Prop
  | int64 (x : Int64) : Carries (.int64 x) x.toInt
  | uint64 (x : UInt64) : Carries (.uint64 x) x.toNat

/-- The value is the number in digits, with white space around them or not. -/
inductive Spells : Value → Int → Prop
  | text {s : String} {n : Int} (h : Text.Padded (Decimal.numeral n) s.toList) : Spells (.text s) n
  | bytes {s : String} {n : Int} (h : Text.Padded (Decimal.numeral n) s.toList) :
      Spells (.bytes s.toUTF8) n

end Value

/-- A value has been refused as none of the type. -/
def Refused {α : Type} (result : Except Failure α) : Prop :=
  ∃ f, result = .error f ∧ f.kind = .fromValue

namespace Word

variable {α : Type} [Word α]

theorem ofInt_eq_iff {n : Int} (hleast : Word.least α ≤ n) (hgreatest : n ≤ Word.greatest α)
    (x : α) : Word.ofInt n = x ↔ n = Word.toInt x := by
  constructor
  · rintro rfl
    exact (Word.toInt_ofInt n hleast hgreatest).symm
  · rintro rfl
    exact Word.ofInt_toInt x

theorem fit_eq_ok_iff {n : Int} {x : α} : Word.fit n = .ok x ↔ n = Word.toInt x := by
  have hleast := Word.least_le_toInt x
  have hgreatest := Word.toInt_le_greatest x
  unfold Word.fit
  by_cases hsmall : n < Word.least α
  · rw [if_pos hsmall]
    exact ⟨nofun, fun h => by omega⟩
  · rw [if_neg hsmall]
    by_cases hlarge : Word.greatest α < n
    · rw [if_pos hlarge]
      exact ⟨nofun, fun h => by omega⟩
    · rw [if_neg hlarge, Except.ok.injEq]
      exact ofInt_eq_iff (by omega) (by omega) x

theorem ofText_eq_ok_iff (hleast : Word.least α ≤ 0) (hgreatest : 0 ≤ Word.greatest α)
    {s : String} {x : α} :
    Word.ofText s = .ok x ↔
      Decimal.Denotes (decide (Word.least α < 0)) (Text.trim s.toList) (Word.toInt x) := by
  have hread (n : Int) : Decimal.readNumeral (Word.least α) (Word.greatest α)
      (Text.trim s.toList) = .ok n ↔ _ := Decimal.readNumeral_eq_ok_iff hleast hgreatest
  have hrange := And.intro (Word.least_le_toInt x) (Word.toInt_le_greatest x)
  rw [← and_iff_left hrange (a := Decimal.Denotes _ _ _), ← hread, Word.ofText]
  cases hresult : Decimal.readNumeral (Word.least α) (Word.greatest α) (Text.trim s.toList) with
  | error fault =>
    constructor
    · intro h
      cases h
    · intro h
      cases h
  | ok n =>
    obtain ⟨-, hl, hg⟩ := (hread n).mp hresult
    rw [Except.ok.injEq, Except.ok.injEq]
    exact ofInt_eq_iff hl hg x

end Word

theorem textOfBytes_eq_ok_iff {b : ByteArray} {s : String} :
    textOfBytes b = .ok s ↔ b = s.toUTF8 := by
  rw [← Text.Utf8.decode_eq_ok_iff, textOfBytes]
  cases Text.Utf8.decode b with
  | ok t => simp [Except.mapError]
  | error fault =>
    constructor
    · intro h
      cases h
    · intro h
      cases h

namespace Value

variable {signed : Bool} {n : Int}

theorem denotes_bool_iff {b : Bool} :
    (bool b).Denotes signed n ↔ (if b then 1 else 0) = n := by
  constructor
  · rintro ⟨⟩
    rfl
  · rintro rfl
    exact .bool b

theorem denotes_int64_iff {x : Int64} : (int64 x).Denotes signed n ↔ x.toInt = n := by
  constructor
  · rintro ⟨⟩
    rfl
  · rintro rfl
    exact .int64 x

theorem denotes_uint64_iff {x : UInt64} : (uint64 x).Denotes signed n ↔ (x.toNat : Int) = n := by
  constructor
  · rintro ⟨⟩
    rfl
  · rintro rfl
    exact .uint64 x

theorem denotes_text_iff {s : String} :
    (text s).Denotes signed n ↔ Decimal.Denotes signed (Text.trim s.toList) n := by
  rw [← Decimal.exists_padded_iff]
  constructor
  · rintro ⟨⟩
    rename_i numeral hpadded h
    exact ⟨numeral, hpadded, h⟩
  · rintro ⟨numeral, hpadded, h⟩
    exact .text hpadded h

theorem denotes_bytes_iff {b : ByteArray} :
    (bytes b).Denotes signed n ↔ ∃ s : String, b = s.toUTF8 ∧ (text s).Denotes signed n := by
  constructor
  · rintro ⟨⟩
    rename_i s h
    exact ⟨s, rfl, h⟩
  · rintro ⟨s, rfl, h⟩
    exact .bytes h

theorem Carries.denotes_iff {v : Value} {m : Int} (h : v.Carries m) :
    v.Denotes signed n ↔ m = n := by
  cases h with
  | int64 x => exact denotes_int64_iff
  | uint64 x => exact denotes_uint64_iff

end Value

section

variable {α : Type} [Word α]

/-- A value decodes to the number it stands for. -/
theorem decodeWord_eq_ok_iff (hleast : Word.least α ≤ 0) (hgreatest : 1 ≤ Word.greatest α)
    {v : Value} {x : α} :
    decodeWord v = .ok x ↔ v.Denotes (decide (Word.least α < 0)) (Word.toInt x) := by
  have htext {s : String} : (Word.ofText s : Except Failure α) = .ok x ↔
      (Value.text s).Denotes (decide (Word.least α < 0)) (Word.toInt x) := by
    rw [Value.denotes_text_iff]
    exact Word.ofText_eq_ok_iff hleast (by omega)
  cases v with
  | null =>
    constructor
    · intro h
      cases h
    · intro h
      cases h
  | float y =>
    constructor
    · intro h
      cases h
    · intro h
      cases h
  | bool b =>
    have hrange : Word.least α ≤ (if b then 1 else 0) ∧ (if b then 1 else 0) ≤ Word.greatest α := by
      cases b <;> simp <;> omega
    rw [decodeWord, Except.ok.injEq, Word.ofInt_eq_iff hrange.1 hrange.2, Value.denotes_bool_iff]
  | int64 y => rw [decodeWord, Word.fit_eq_ok_iff, Value.denotes_int64_iff]
  | uint64 y => rw [decodeWord, Word.fit_eq_ok_iff, Value.denotes_uint64_iff]
  | text s => exact htext
  | bytes b =>
    rw [decodeWord, bind_eq_ok_iff, Value.denotes_bytes_iff]
    simp only [textOfBytes_eq_ok_iff, htext]

theorem kind_of_ofText_eq_error {s : String} {f : Failure}
    (h : (Word.ofText s : Except Failure α) = .error f) : f.kind = .fromValue := by
  unfold Word.ofText at h
  split at h
  · cases h
  · cases h
    rfl

theorem kind_of_textOfBytes_eq_error {b : ByteArray} {f : Failure}
    (h : textOfBytes b = .error f) : f.kind = .fromValue := by
  rw [textOfBytes] at h
  cases hdecode : Text.Utf8.decode b with
  | ok s =>
    rw [hdecode] at h
    cases h
  | error fault =>
    rw [hdecode] at h
    cases h
    rfl

theorem kind_of_fit_eq_error {n : Int} {f : Failure}
    (h : (Word.fit n : Except Failure α) = .error f) : f.kind = .fromValue := by
  unfold Word.fit at h
  split at h
  · cases h
    rfl
  · split at h
    · cases h
      rfl
    · cases h

theorem kind_of_decodeWord_eq_error {v : Value} {f : Failure}
    (h : (decodeWord v : Except Failure α) = .error f) : f.kind = .fromValue := by
  cases v with
  | null =>
    cases h
    rfl
  | float x =>
    cases h
    rfl
  | bool b => cases h
  | int64 x => exact kind_of_fit_eq_error h
  | uint64 x => exact kind_of_fit_eq_error h
  | text s => exact kind_of_ofText_eq_error h
  | bytes b =>
    rcases bind_eq_error_iff.mp h with h | ⟨s, -, h⟩
    · exact kind_of_textOfBytes_eq_error h
    · exact kind_of_ofText_eq_error h

/-- A number decodes in digits as it does by itself. -/
theorem alike_decodeWord_of_spells (hleast : Word.least α ≤ 0) (hgreatest : 1 ≤ Word.greatest α)
    {v w : Value} {n : Int} (hv : v.Carries n) (hw : w.Spells n) :
    Alike (decodeWord v : Except Failure α) (decodeWord w) := by
  have hfit : (decodeWord v : Except Failure α) = Word.fit n := by
    cases hv with
    | int64 x => rfl
    | uint64 x => rfl
  have htext {s : String} (h : Text.Padded (Decimal.numeral n) s.toList) :
      Alike (Word.fit n : Except Failure α) (Word.ofText s) :=
    alike_fit_ofText hleast (by omega) (Decimal.trim_of_padded h)
  rw [hfit]
  cases hw with
  | text h => exact htext h
  | bytes h =>
    rw [decodeWord_toUTF8]
    exact htext h

end

/-- A number of one of the types of whole numbers. -/
inductive Number where
  | int32 (x : Int32)
  | int64 (x : Int64)
  | uint32 (x : UInt32)
  | uint64 (x : UInt64)
deriving DecidableEq

namespace Number

def toInt : Number → Int
  | int32 x => x.toInt
  | int64 x => x.toInt
  | uint32 x => x.toNat
  | uint64 x => x.toNat

def toValue : Number → Value
  | int32 x => encode x
  | int64 x => encode x
  | uint32 x => encode x
  | uint64 x => encode x

theorem carries_toValue (x : Number) : x.toValue.Carries x.toInt := by
  cases x with
  | int32 x =>
    have hwide : x.toInt64.toInt = x.toInt := Int32.toInt_toInt64 x
    have hcarries := Value.Carries.int64 x.toInt64
    rwa [hwide] at hcarries
  | int64 x => exact .int64 x
  | uint32 x =>
    have hwide : x.toUInt64.toNat = x.toNat := UInt32.toNat_toUInt64 x
    have hcarries := Value.Carries.uint64 x.toUInt64
    rwa [hwide] at hcarries
  | uint64 x => exact .uint64 x

end Number

/-- What decodes to a type of the numbers from `least` to `greatest`. -/
structure DecodesExactly (α : Type) [Word α] [Decode α] (signed : Bool) (least greatest : Int) :
    Prop where
  decoded_iff (v : Value) (n : Int) :
    (∃ x : α, decode v = .ok x ∧ Word.toInt x = n) ↔
      v.Denotes signed n ∧ least ≤ n ∧ n ≤ greatest
  refused_iff (v : Value) :
    Refused (decode v : Except Failure α) ↔
      ¬ ∃ n, v.Denotes signed n ∧ least ≤ n ∧ n ≤ greatest
  /-- A number comes by itself or in digits. -/
  alike {v w : Value} {n : Int} (hv : v.Carries n) (hw : w.Spells n) :
    Alike (decode v : Except Failure α) (decode w)
  /-- A number of any type comes back when it has a place in this one, and is refused otherwise. -/
  comes_back (x : Number) :
    if least ≤ x.toInt ∧ x.toInt ≤ greatest then
      ∃ y : α, decode x.toValue = .ok y ∧ Word.toInt y = x.toInt
    else Refused (decode x.toValue : Except Failure α)
  option_null : (decode .null : Except Failure (Option α)) = .ok none
  option {v : Value} (hv : v ≠ .null) :
    (decode v : Except Failure (Option α)) = (decode v : Except Failure α).map some

section

variable {α : Type} [Word α] [Decode α] {signed : Bool} {least greatest : Int}

theorem decodesExactly (hdecode : ∀ v, (decode v : Except Failure α) = decodeWord v)
    (hsigned : signed = decide (least < 0)) (hleast : Word.least α = least)
    (hgreatest : Word.greatest α = greatest) (hzero : least ≤ 0) (hone : 1 ≤ greatest) :
    DecodesExactly α signed least greatest := by
  subst hsigned hleast hgreatest
  have hok (v : Value) (x : α) : decode v = .ok x ↔ _ :=
    (hdecode v).symm ▸ decodeWord_eq_ok_iff hzero hone
  have hdecoded (v : Value) (n : Int) : (∃ x : α, decode v = .ok x ∧ Word.toInt x = n) ↔
      v.Denotes (decide (Word.least α < 0)) n ∧ Word.least α ≤ n ∧ n ≤ Word.greatest α := by
    constructor
    · rintro ⟨x, hx, rfl⟩
      exact ⟨(hok v x).mp hx, Word.least_le_toInt x, Word.toInt_le_greatest x⟩
    · rintro ⟨h, hl, hg⟩
      have hback : Word.toInt (Word.ofInt n : α) = n := Word.toInt_ofInt n hl hg
      exact ⟨Word.ofInt n, (hok v _).mpr (hback.symm ▸ h), hback⟩
  have hrefused (v : Value) : Refused (decode v : Except Failure α) ↔ ¬ ∃ n,
      v.Denotes (decide (Word.least α < 0)) n ∧ Word.least α ≤ n ∧ n ≤ Word.greatest α := by
    simp only [← hdecoded]
    cases hresult : (decode v : Except Failure α) with
    | ok x =>
      constructor
      · rintro ⟨f, hf, -⟩
        cases hf
      · exact fun h => absurd ⟨_, x, rfl, rfl⟩ h
    | error f =>
      have hkind := kind_of_decodeWord_eq_error ((hdecode v).symm.trans hresult)
      constructor
      · rintro - ⟨_, x, hx, -⟩
        cases hx
      · exact fun _ => ⟨f, rfl, hkind⟩
  refine ⟨hdecoded, hrefused, ?_, ?_, rfl, ?_⟩
  · intro v w n hv hw
    rw [hdecode, hdecode]
    exact alike_decodeWord_of_spells hzero hone hv hw
  · intro x
    have hcarries := x.carries_toValue
    split
    · rename_i hrange
      exact (hdecoded _ _).mpr ⟨hcarries.denotes_iff.mpr rfl, hrange⟩
    · rename_i hrange
      rw [hrefused]
      rintro ⟨n, hn, hn'⟩
      exact hrange (hcarries.denotes_iff.mp hn ▸ hn')
  · intro v hv
    cases v with
    | null => exact absurd rfl hv
    | _ => rfl

end

/-- Whole numbers decode exactly, to each of the types. -/
theorem whole_numbers_decode_exactly :
    DecodesExactly Int32 true (-2 ^ 31) (2 ^ 31 - 1) ∧
      DecodesExactly Int64 true (-2 ^ 63) (2 ^ 63 - 1) ∧
      DecodesExactly UInt32 false 0 (2 ^ 32 - 1) ∧
      DecodesExactly UInt64 false 0 (2 ^ 64 - 1) := by
  refine ⟨decodesExactly (fun v => rfl) ?_ ?_ ?_ ?_ ?_,
    decodesExactly (fun v => rfl) ?_ ?_ ?_ ?_ ?_, decodesExactly (fun v => rfl) ?_ ?_ ?_ ?_ ?_,
    decodesExactly (fun v => rfl) ?_ ?_ ?_ ?_ ?_⟩
  all_goals decide +kernel

end SchemaChange
