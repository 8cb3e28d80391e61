import SchemaChange.Decimal.Numeral
import SchemaChange.Text.Whitespace

/-!
The decimal text of a whole number reads back as the number: in a range that holds the number and
zero it is read as the number itself, and in any other range with zero it is refused. White space
does not matter to it, since it has none to lose.
-/
namespace SchemaChange.Decimal

theorem le_ofDigitChars (digits : List Char) (n : Nat) : n ≤ Nat.ofDigitChars 10 digits n := by
  have hpow : 1 ≤ 10 ^ digits.length := Nat.one_le_pow _ _ (by decide)
  have hmul := Nat.le_mul_of_pos_left n hpow
  rw [Nat.ofDigitChars_eq_ofDigitChars_zero]
  omega

theorem readDigits_eq {limit : Nat} (beyond : NumeralFault) {digits : List Char}
    (hdigits : ∀ c ∈ digits, c.isDigit = true) {n : Nat} (hn : n ≤ limit) :
    readDigits limit beyond n digits =
      if Nat.ofDigitChars 10 digits n ≤ limit then .ok (Nat.ofDigitChars 10 digits n)
      else .error beyond := by
  induction digits generalizing n with
  | nil => simp [readDigits, hn]
  | cons c rest ih =>
    have hc : c.isDigit = true := hdigits c (List.mem_cons_self ..)
    have hrest : ∀ d ∈ rest, d.isDigit = true := fun d hd => hdigits d (List.mem_cons_of_mem c hd)
    rw [readDigits, if_pos hc, Nat.ofDigitChars_cons]
    by_cases hnext : 10 * n + digitValue c ≤ limit
    · rw [if_pos hnext, ih hrest hnext]
      rfl
    · have hle := le_ofDigitChars rest (10 * n + digitValue c)
      rw [if_neg hnext, if_neg]
      unfold digitValue at hnext hle
      omega

theorem readDigits_toDigits (limit : Nat) (beyond : NumeralFault) (n : Nat) :
    readDigits limit beyond 0 (Nat.toDigits 10 n) =
      if n ≤ limit then .ok n else .error beyond := by
  have hdigits : ∀ c ∈ Nat.toDigits 10 n, c.isDigit = true :=
    fun c hc => Nat.isDigit_of_mem_toDigits (by decide) (by decide) hc
  rw [readDigits_eq beyond hdigits (Nat.zero_le limit), Nat.ofDigitChars_ten_toDigits]

theorem readNumeral_digits (least greatest : Int) (n : Nat) :
    readNumeral least greatest (Nat.toDigits 10 n) =
      (readDigits greatest.toNat .tooLarge 0 (Nat.toDigits 10 n)).map fun n => (n : Int) := by
  have hdigits : ∀ c ∈ Nat.toDigits 10 n, c.isDigit = true :=
    fun c hc => Nat.isDigit_of_mem_toDigits (by decide) (by decide) hc
  generalize hs : Nat.toDigits 10 n = s at hdigits
  unfold readNumeral
  split
  · exact absurd hs Nat.toDigits_ne_nil
  · simp at hdigits
  · simp at hdigits
  · simp at hdigits
  · simp at hdigits
  · rfl

theorem readNumeral_minus (least greatest : Int) (n : Nat) :
    readNumeral least greatest ('-' :: Nat.toDigits 10 n) =
      if least < 0 then
        (readDigits least.natAbs .tooSmall 0 (Nat.toDigits 10 n)).map fun n => -(n : Int)
      else .error .invalidDigit := by
  generalize hs : Nat.toDigits 10 n = s
  cases s with
  | nil => exact absurd hs Nat.toDigits_ne_nil
  | cons c rest => simp [readNumeral]

/-- A range with zero in it reads exactly its own numbers. -/
theorem readNumeral_numeral {least greatest : Int} (hleast : least ≤ 0) (hgreatest : 0 ≤ greatest)
    (n : Int) :
    (least ≤ n ∧ n ≤ greatest ∧ readNumeral least greatest (numeral n) = .ok n) ∨
      (¬ (least ≤ n ∧ n ≤ greatest) ∧
        ∃ fault, readNumeral least greatest (numeral n) = .error fault) := by
  unfold numeral
  by_cases hn : n < 0
  · rw [if_pos hn, readNumeral_minus, readDigits_toDigits]
    by_cases hsigned : least < 0
    · rw [if_pos hsigned]
      by_cases hle : n.natAbs ≤ least.natAbs
      · left
        have hback : -(n.natAbs : Int) = n := by omega
        rw [if_pos hle]
        exact ⟨by omega, by omega, congrArg Except.ok hback⟩
      · right
        rw [if_neg hle]
        exact ⟨by omega, .tooSmall, rfl⟩
    · right
      rw [if_neg hsigned]
      exact ⟨by omega, .invalidDigit, rfl⟩
  · rw [if_neg hn, readNumeral_digits, readDigits_toDigits]
    by_cases hle : n.natAbs ≤ greatest.toNat
    · left
      have hback : (n.natAbs : Int) = n := by omega
      rw [if_pos hle]
      exact ⟨by omega, by omega, congrArg Except.ok hback⟩
    · right
      rw [if_neg hle]
      exact ⟨by omega, .tooLarge, rfl⟩

theorem isSpace_of_isDigit {c : Char} (h : c.isDigit = true) : Text.isSpace c = false := by
  have hrange : 48 ≤ c.toNat ∧ c.toNat ≤ 57 := by
    simpa [Char.isDigit, UInt32.le_iff_toNat_le] using h
  simp [Text.isSpace]
  omega

theorem numeral_ne_nil (n : Int) : numeral n ≠ [] := by
  unfold numeral
  by_cases hn : n < 0
  · rw [if_pos hn]
    exact List.cons_ne_nil _ _
  · rw [if_neg hn]
    exact Nat.toDigits_ne_nil

/-- A numeral has no white space. -/
theorem isSpace_of_mem_numeral {n : Int} {c : Char} (h : c ∈ numeral n) :
    Text.isSpace c = false := by
  have hdigits : c ∈ Nat.toDigits 10 n.natAbs → Text.isSpace c = false :=
    fun hc => isSpace_of_isDigit (Nat.isDigit_of_mem_toDigits (by decide) (by decide) hc)
  unfold numeral at h
  by_cases hn : n < 0
  · rw [if_pos hn] at h
    rcases List.mem_cons.mp h with rfl | hc
    · decide
    · exact hdigits hc
  · rw [if_neg hn] at h
    exact hdigits h

theorem trimLeft_eq_self {s : List Char} (h : ∀ c ∈ s, Text.isSpace c = false) :
    Text.trimLeft s = s := by
  cases s with
  | nil => rfl
  | cons c rest => simp [Text.trimLeft, h c (List.mem_cons_self ..)]

end SchemaChange.Decimal
