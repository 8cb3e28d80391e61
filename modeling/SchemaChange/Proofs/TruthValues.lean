import SchemaChange.Proofs.WholeNumbers

/-!
Numbers as truth values. A number is true unless it is zero, by itself and in digits alike, as long
as it has its place among the numbers with a sign. The larger ones, which only come without a sign,
are true by themselves and are refused in digits.
-/
namespace SchemaChange

section

variable {n : Int}

theorem decode_bool_of_carries {v : Value} (h : v.Carries n) :
    decode v = .ok (decide (n ≠ 0)) := by
  have hword {α : Type} [Word α] [DecidableEq α] {x zero : α} (hzero : Word.toInt zero = 0) :
      (x != zero) = decide (Word.toInt x ≠ 0) := by
    rw [Word.bne_eq, hzero, bne, Bool.eq_iff_iff]
    simp
  cases h with
  | int64 x => exact congrArg Except.ok (hword (by decide))
  | uint64 x => exact congrArg Except.ok (hword (by decide))

/-- A truth value in digits is first read as a number with a sign. -/
theorem decode_bool_of_spells {v : Value} (h : v.Spells n) :
    ∃ s : String, Text.trim s.toList = Decimal.numeral n ∧
      decode v = (Word.ofText s).map fun x : Int64 => x != 0 := by
  cases h with
  | text h => exact ⟨_, Decimal.trim_of_padded h, rfl⟩
  | bytes h => exact ⟨_, Decimal.trim_of_padded h, decode_bool_toUTF8 _⟩

/-- A number that is too large for its type is refused at the digit that makes it so. -/
theorem ofText_of_greatest_lt {α : Type} [Word α] {s : String}
    (htrim : Text.trim s.toList = Decimal.numeral n) (hzero : 0 ≤ Word.greatest α)
    (hn : Word.greatest α < n) :
    (Word.ofText s : Except Failure α) = .error (.unreadableNumber s .tooLarge) := by
  have hread : Decimal.readNumeral (Word.least α) (Word.greatest α) (Decimal.numeral n) =
      .error .tooLarge := by
    rw [Decimal.numeral, if_neg (by omega), Decimal.readNumeral_digits,
      Decimal.readDigits_toDigits, if_neg (by omega)]
    rfl
  rw [Word.ofText, htrim, hread]

end

/-- Whether it comes by itself or in digits, the number is true unless it is zero. -/
def ReadsAsTruth (n : Int) : Prop :=
  ∀ v : Value, v.Carries n ∨ v.Spells n → decode v = .ok (decide (n ≠ 0))

theorem readsAsTruth_of_lt {n : Int} (hleast : -2 ^ 63 ≤ n) (hn : n < 2 ^ 63) : ReadsAsTruth n := by
  rintro v (h | h)
  · exact decode_bool_of_carries h
  · obtain ⟨s, htrim, hdecode⟩ := decode_bool_of_spells h
    have hrange : Word.least Int64 ≤ n ∧ n ≤ Word.greatest Int64 :=
      ⟨hleast, Int.le_sub_one_of_lt hn⟩
    have hread : (Word.ofText s : Except Failure Int64) = .ok (Word.ofInt n) :=
      ofText_of_mem htrim (by decide) (by decide) hrange
    have hself : (Value.int64 (Word.ofInt n)).Carries n := by
      have hcarries := Value.Carries.int64 (Word.ofInt n)
      have hback : (Word.ofInt n : Int64).toInt = n := Word.toInt_ofInt n hrange.1 hrange.2
      rwa [hback] at hcarries
    rw [hdecode, hread]
    exact decode_bool_of_carries hself

/-- A number beyond those with a sign is refused in digits. -/
theorem decode_bool_of_spells_large {n : Int} (hn : 2 ^ 63 ≤ n) {v : Value} (h : v.Spells n) :
    ∃ s, (decode v : Except Failure Bool) = .error (.unreadableNumber s .tooLarge) := by
  obtain ⟨s, htrim, hdecode⟩ := decode_bool_of_spells h
  have hlarge : Word.greatest Int64 < n := hn
  refine ⟨s, ?_⟩
  rw [hdecode, ofText_of_greatest_lt htrim (by decide) hlarge]
  rfl

/-- Of the numbers that a value can be, exactly those with a place among the numbers with a sign are
read in the same way by themselves and in digits. The others are true by themselves and refused in
digits. -/
theorem number_reads_as_truth_iff {n : Int} (hcarried : ∃ v : Value, v.Carries n) :
    (ReadsAsTruth n ↔ n < 2 ^ 63) ∧
      (2 ^ 63 ≤ n → (∀ v : Value, v.Carries n → decode v = .ok true) ∧
        ∀ v : Value, v.Spells n →
          ∃ s, (decode v : Except Failure Bool) = .error (.unreadableNumber s .tooLarge)) := by
  obtain ⟨own, hown⟩ := hcarried
  have hleast : -2 ^ 63 ≤ n := by
    cases hown with
    | int64 x => exact Int64.minValue_le_toInt x
    | uint64 x => omega
  refine ⟨⟨fun h => ?_, readsAsTruth_of_lt hleast⟩, fun hn => ⟨?_, ?_⟩⟩
  · by_contra hn
    have hdigits : (Value.text (Decimal.integerText n)).Spells n := by
      refine .text ?_
      rw [Decimal.integerText, String.toList_ofList]
      exact .refl _
    obtain ⟨s, hrefused⟩ := decode_bool_of_spells_large (Int.not_lt.mp hn) hdigits
    rw [h _ (Or.inr hdigits)] at hrefused
    cases hrefused
  · intro v hv
    rw [decode_bool_of_carries hv, decide_eq_true (by omega)]
  · exact fun v hv => decode_bool_of_spells_large hn hv

theorem largest_signed_reads_as_truth :
    (∃ v : Value, v.Carries 9223372036854775807) ∧ ReadsAsTruth 9223372036854775807 := by
  have hcarried : ∃ v : Value, v.Carries 9223372036854775807 :=
    ⟨.uint64 9223372036854775807, .uint64 9223372036854775807⟩
  exact ⟨hcarried, (number_reads_as_truth_iff hcarried).1.mpr (by decide)⟩

/-- The first number beyond those with a sign is true by itself and refused in digits. -/
theorem first_unsigned_refused_in_digits :
    (Value.uint64 9223372036854775808).Carries 9223372036854775808 ∧
      (Value.text "9223372036854775808").Spells 9223372036854775808 ∧
      decode (.uint64 9223372036854775808) = .ok true ∧
      (decode (.text "9223372036854775808") : Except Failure Bool) =
        .error (.unreadableNumber "9223372036854775808" .tooLarge) ∧
      ¬ ReadsAsTruth 9223372036854775808 := by
  have hspells : (Value.text "9223372036854775808").Spells 9223372036854775808 :=
    .text ⟨[], [], by decide +kernel, by simp, by simp⟩
  have hrefused : (decode (.text "9223372036854775808") : Except Failure Bool) =
      .error (.unreadableNumber "9223372036854775808" .tooLarge) := by
    rfl
  refine ⟨.uint64 9223372036854775808, hspells, rfl, hrefused, fun h => ?_⟩
  rw [h _ (Or.inr hspells)] at hrefused
  cases hrefused

end SchemaChange
