import Mathlib.Algebra.Group.Nat.Defs
import SchemaChange.Client.Ledger
import SchemaChange.Proofs.NumeralReading

/-!
The text of a time is read as the time, up to its fraction of a second. Every number of the text is
as long as its reader takes, or ends at a mark, so that each reader leaves exactly what was written
behind its own number. A leap second is written as second 60 and read as one. A point does not occur
in the text, so that a fraction behind it can be cut off at the first one.
-/
namespace SchemaChange

namespace Timestamp

theorem isDigit_of_mem_padded {count n : Nat} {c : Char} (h : c ∈ padded count n) :
    c.isDigit = true := by
  rcases List.mem_append.mp h with h | h
  · rw [List.eq_of_mem_replicate h]
    rfl
  · exact Nat.isDigit_of_mem_toDigits (by decide) (by decide) h

theorem length_padded {count n : Nat} (hcount : 0 < count) (h : n < 10 ^ count) :
    (padded count n).length = count := by
  have hle : (Nat.toDigits 10 n).length ≤ count :=
    (Nat.length_toDigits_le_iff (by decide) hcount).mpr h
  simp only [padded, List.length_append, List.length_replicate]
  omega

/-- There is a first digit. -/
theorem exists_padded_eq_cons (count n : Nat) :
    ∃ c rest, padded count n = c :: rest ∧ c.isDigit = true := by
  cases hpadded : padded count n with
  | nil => exact absurd (List.append_eq_nil_iff.mp hpadded).2 Nat.toDigits_ne_nil
  | cons c rest =>
    have hmem : c ∈ padded count n := hpadded ▸ List.mem_cons_self ..
    exact ⟨c, rest, rfl, isDigit_of_mem_padded hmem⟩

namespace Reader

theorem digitsValue_padded (count n : Nat) : digitsValue (padded count n) = n := by
  rw [digitsValue, padded, Nat.ofDigitChars_append, Nat.ofDigitChars_replicate_zero, Nat.mul_zero,
    Nat.ofDigitChars_ten_toDigits]

/-- A reader goes on where the one before it has stopped. -/
theorem bind_eq {α β : Type} {r : Reader α} {s s' : List Char} {a : α} (h : r s = .ok (a, s'))
    (f : α → Reader β) : (r >>= f) s = f a s' := by
  change (r s >>= fun result => f result.1 result.2) = f a s'
  rw [h]
  rfl

/-- Digits have no space in front of them. -/
theorem space_padded (count n : Nat) (rest : List Char) :
    space (padded count n ++ rest) = .ok ((), padded count n ++ rest) := by
  obtain ⟨c, found, hpadded, hc⟩ := exists_padded_eq_cons count n
  rw [hpadded, List.cons_append]
  simp [space, Text.trimLeft, Decimal.isSpace_of_isDigit hc]

theorem literal_eq (c : Char) (rest : List Char) : literal c (c :: rest) = .ok ((), rest) :=
  if_pos rfl

/-- Digits are read that are all the digits within reach. -/
theorem digits_eq {limit : Option Nat} {count n : Nat} {rest : List Char}
    (hreach : ((limit.map (padded count n ++ rest).take).getD (padded count n ++ rest)).takeWhile
      Char.isDigit = padded count n)
    (hn : n ≤ Int64.maxValue.toInt) :
    digits limit (padded count n ++ rest) = .ok (n, rest) := by
  obtain ⟨c, found, hpadded, -⟩ := exists_padded_eq_cons count n
  have hne : padded count n ≠ [] := by
    rw [hpadded]
    exact List.cons_ne_nil c found
  unfold digits
  rw [hreach]
  dsimp only
  rw [digitsValue_padded, if_neg (List.append_ne_nil_of_left_ne_nil hne rest), if_neg hne,
    if_pos hn, List.drop_left]

/-- A number of a fixed length is read whatever follows. -/
theorem digits_some {count n : Nat} (hcount : 0 < count) (h : n < 10 ^ count)
    (hn : n ≤ Int64.maxValue.toInt) (rest : List Char) :
    digits (some count) (padded count n ++ rest) = .ok (n, rest) := by
  refine digits_eq ?_ hn
  have htake : (padded count n ++ rest).take count = padded count n :=
    List.take_left' (length_padded hcount h)
  rw [Option.map_some, Option.getD_some, htake]
  rw [← List.append_nil (padded count n),
    List.takeWhile_append_of_pos fun c hc => isDigit_of_mem_padded hc, List.takeWhile_nil]

/-- A number of any length is read up to a character that is no digit. -/
theorem digits_none {count n : Nat} {c : Char} (hc : c.isDigit = false)
    (hn : n ≤ Int64.maxValue.toInt) (rest : List Char) :
    digits none (padded count n ++ c :: rest) = .ok (n, c :: rest) := by
  refine digits_eq ?_ hn
  rw [Option.map_none, Option.getD_none,
    List.takeWhile_append_of_pos fun c hc => isDigit_of_mem_padded hc,
    List.takeWhile_cons_of_neg (by simp [hc]), List.append_nil]

theorem number_eq {least greatest n : Nat} (hleast : least ≤ n) (hgreatest : n ≤ greatest)
    (hbound : greatest < 100) (rest : List Char) :
    number least greatest (padded 2 n ++ rest) = .ok (n, rest) := by
  have hmax : (100 : Int) ≤ Int64.maxValue.toInt := by decide
  have hdigits : digits (some 2) (padded 2 n ++ rest) = .ok (n, rest) :=
    digits_some (by decide) (by omega) (by omega) rest
  rw [number, bind_eq (space_padded 2 n rest), bind_eq hdigits, if_pos ⟨hleast, hgreatest⟩]
  rfl

/-- A year without a sign begins with a digit. -/
theorem signedYear_padded (count n : Nat) (rest : List Char) :
    signedYear (padded count n ++ rest) =
      (digits (some 4) (padded count n ++ rest)).map fun (n, rest) => ((n : Int), rest) := by
  obtain ⟨c, found, hpadded, hc⟩ := exists_padded_eq_cons count n
  have hminus : c ≠ '-' := by
    rintro rfl
    cases hc
  have hplus : c ≠ '+' := by
    rintro rfl
    cases hc
  rw [hpadded, List.cons_append]
  unfold signedYear
  split
  · rename_i heq
    exact absurd (List.cons.inj heq).1 hminus
  · rename_i heq
    exact absurd (List.cons.inj heq).1 hplus
  · rfl

/-- A year reaches up to the hyphen behind it. -/
theorem signedYear_yearText {y : Int} (hleast : Calendar.leastYear ≤ y)
    (hgreatest : y ≤ Calendar.greatestYear) (rest : List Char) :
    signedYear (yearText y ++ '-' :: rest) = .ok (y, '-' :: rest) := by
  have hbounds : (-262143 : Int) ≤ y ∧ y ≤ 262142 := ⟨hleast, hgreatest⟩
  have hmax : (262143 : Int) ≤ Int64.maxValue.toInt := by decide
  have hlong : digits none (padded 4 y.natAbs ++ '-' :: rest) = .ok (y.natAbs, '-' :: rest) :=
    digits_none rfl (by omega) rest
  unfold yearText
  by_cases hneg : y < 0
  · have hback : -(y.natAbs : Int) = y := by omega
    rw [if_pos hneg, List.cons_append, signedYear, hlong]
    exact congrArg (fun n => Except.ok (n, '-' :: rest)) hback
  · have hback : (y.natAbs : Int) = y := by omega
    rw [if_neg hneg]
    by_cases hshort : y ≤ 9999
    · rw [if_pos hshort, signedYear_padded, digits_some (by decide) (by omega) (by omega)]
      exact congrArg (fun n => Except.ok (n, '-' :: rest)) hback
    · rw [if_neg hshort, List.cons_append, signedYear, hlong]
      exact congrArg (fun n => Except.ok (n, '-' :: rest)) hback

theorem space_yearText (y : Int) (rest : List Char) :
    space (yearText y ++ rest) = .ok ((), yearText y ++ rest) := by
  unfold yearText
  by_cases hneg : y < 0
  · rw [if_pos hneg]
    rfl
  · rw [if_neg hneg]
    by_cases hshort : y ≤ 9999
    · rw [if_pos hshort]
      exact space_padded 4 y.natAbs rest
    · rw [if_neg hshort]
      rfl

theorem year_eq {y : Int} (hleast : Calendar.leastYear ≤ y) (hgreatest : y ≤ Calendar.greatestYear)
    (rest : List Char) : year (yearText y ++ '-' :: rest) = .ok (y, '-' :: rest) := by
  have hword : Int32.minValue.toInt ≤ Calendar.leastYear ∧
      Calendar.greatestYear ≤ Int32.maxValue.toInt := by decide
  rw [year, bind_eq (space_yearText y _), bind_eq (signedYear_yearText hleast hgreatest rest),
    if_pos ⟨Int.le_trans hword.1 hleast, Int.le_trans hgreatest hword.2⟩]
  rfl

end Reader

/-- The parts of the text of a time, each in front of all that follows. -/
theorem toList_eq (t : Timestamp) :
    t.toList = yearText t.year ++ '-' :: (padded 2 t.month ++ '-' :: (padded 2 t.day ++
      ' ' :: (padded 2 t.hour ++ ':' :: (padded 2 t.minute ++ ':' ::
        (padded 2 (if t.isLeapSecond then 60 else t.second) ++ []))))) := by
  simp [toList]

theorem of?_eq_truncated (t : Timestamp) :
    (if (if t.isLeapSecond then 60 else t.second) = 60 then
        of? t.year t.month t.day t.hour t.minute 59 1000000000
      else of? t.year t.month t.day t.hour t.minute
        (if t.isLeapSecond then 60 else t.second) 0) = some t.truncated := by
  have hvalid := t.truncated.valid
  obtain ⟨-, -, -, -, -, hsecond, -, hleap⟩ := t.valid
  by_cases h : t.isLeapSecond = true
  · have h59 : t.second = 59 := hleap (of_decide_eq_true h)
    have hvalid : IsTimestamp t.year t.month t.day t.hour t.minute 59 1000000000 := by
      simpa [truncated, h, h59] using hvalid
    rw [if_pos h, if_pos rfl, of?, dif_pos hvalid]
    simp [truncated, h, h59]
  · have hvalid : IsTimestamp t.year t.month t.day t.hour t.minute t.second 0 := by
      simpa [truncated, h] using hvalid
    rw [if_neg h, if_neg (by omega), of?, dif_pos hvalid]
    simp [truncated, h]

theorem Reader.timestamp_eq (t : Timestamp) : timestamp t.toList = .ok (t.truncated, []) := by
  obtain ⟨⟨hyear, hyear'⟩, ⟨hmonth, hmonth'⟩, ⟨hday, hday'⟩, hhour, hminute, hsecond, -, -⟩ :=
    t.valid
  have hlength : Calendar.daysInMonth t.year t.month ≤ 31 := by
    unfold Calendar.daysInMonth
    split
    · split <;> decide
    · split <;> decide
  have hleap : (if t.isLeapSecond then 60 else t.second) ≤ 60 := by
    split
    · exact Nat.le_refl 60
    · omega
  rw [toList_eq, timestamp, bind_eq (year_eq hyear hyear' _), bind_eq (literal_eq '-' _),
    bind_eq (number_eq hmonth hmonth' (by decide) _), bind_eq (literal_eq '-' _),
    bind_eq (number_eq hday (by omega) (by decide) _)]
  have hfinish : finish [] = .ok ((), []) := rfl
  have hblank : space (' ' :: (padded 2 t.hour ++ ':' :: (padded 2 t.minute ++ ':' ::
      (padded 2 (if t.isLeapSecond then 60 else t.second) ++ [])))) =
      .ok ((), padded 2 t.hour ++ ':' :: (padded 2 t.minute ++ ':' ::
      (padded 2 (if t.isLeapSecond then 60 else t.second) ++ []))) := by
    rw [space, Text.trimLeft_cons_of_isSpace (by decide)]
    exact space_padded 2 t.hour _
  rw [bind_eq hblank, bind_eq (number_eq (Nat.zero_le _) (by omega) (by decide) _),
    bind_eq (literal_eq ':' _), bind_eq (number_eq (Nat.zero_le _) (by omega) (by decide) _),
    bind_eq (literal_eq ':' _), bind_eq (number_eq (Nat.zero_le _) hleap (by decide) _),
    bind_eq hfinish, of?_eq_truncated]
  rfl

/-- The text of a time is read as the time without its fraction of a second. -/
theorem ofText_toText (t : Timestamp) : ofText t.toText = .ok t.truncated := by
  rw [ofText, toText, String.toList_ofList, ofList, StateT.run', Reader.timestamp_eq]
  rfl

/-- What may stand behind the seconds of a time: nothing, or a point and any text. -/
inductive IsFraction : String → Prop
  | none : IsFraction ""
  | point (text : String) : IsFraction ("." ++ text)

theorem ne_point_of_mem_toList {t : Timestamp} {c : Char} (h : c ∈ t.toList) : c ≠ '.' := by
  have hpadded : ∀ count n, c ∈ padded count n → c ≠ '.' := by
    rintro count n hc rfl
    cases isDigit_of_mem_padded hc
  have hyear : c ∈ yearText t.year → c ≠ '.' := by
    intro hc
    unfold yearText at hc
    split at hc
    · rcases List.mem_cons.mp hc with rfl | hc
      · decide
      · exact hpadded _ _ hc
    · split at hc
      · exact hpadded _ _ hc
      · rcases List.mem_cons.mp hc with rfl | hc
        · decide
        · exact hpadded _ _ hc
  simp only [toList, List.mem_append, List.mem_singleton] at h
  rcases h with (((((((((h | rfl) | h) | rfl) | h) | rfl) | h) | rfl) | h) | rfl) | h
  · exact hyear h
  all_goals first | exact hpadded _ _ h | decide

theorem withoutFraction_append (t : Timestamp) {fraction : String} (h : IsFraction fraction) :
    withoutFraction (t.toText ++ fraction) = t.toText := by
  have hall : ∀ c ∈ t.toList, decide (c ≠ '.') = true :=
    fun c hc => decide_eq_true (ne_point_of_mem_toList hc)
  have hfraction : fraction.toList.takeWhile (· ≠ '.') = [] := by
    cases h with
    | none => rfl
    | point text => simp
  rw [withoutFraction, String.toList_append, toText, String.toList_ofList,
    List.takeWhile_append_of_pos hall, hfraction, List.append_nil]

end Timestamp

namespace LedgerEntry

/-- A time that has been recorded is a time again when it is listed, and so it is with a fraction
behind it. -/
theorem timeOfText_append (t : Timestamp) {fraction : String} (h : Timestamp.IsFraction fraction) :
    timeOfText (t.toText ++ fraction) = .ok t.truncated := by
  rw [timeOfText, Timestamp.withoutFraction_append t h, Timestamp.ofText_toText]
  rfl

theorem timeOfText_toText (t : Timestamp) : timeOfText t.toText = .ok t.truncated := by
  have h := timeOfText_append t .none
  rwa [String.append_empty] at h

end LedgerEntry

end SchemaChange
