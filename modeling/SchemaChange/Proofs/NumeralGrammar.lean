import Mathlib.Data.List.TakeWhile
import SchemaChange.Proofs.NumeralReading

/-!
The texts of whole numbers, apart from how they are read: one or more digits, with a sign in front
of them or none. A range with zero reads exactly these texts, as long as the number is in the range
and however many zeros stand in front of it. White space around the text is taken off first, and
nothing else is.
-/
namespace SchemaChange

namespace Text

/-- The text with white space around it, or with none. -/
def Padded (s padded : List Char) : Prop :=
  ∃ before after, padded = before ++ (s ++ after) ∧ (∀ c ∈ before, isSpace c = true) ∧
    ∀ c ∈ after, isSpace c = true

theorem Padded.refl (s : List Char) : Padded s s := ⟨[], [], by simp, by simp, by simp⟩

theorem trimLeft_append {before : List Char} (hbefore : ∀ c ∈ before, isSpace c = true)
    (s : List Char) : trimLeft (before ++ s) = trimLeft s :=
  List.dropWhile_append_of_pos hbefore

/-- A text that begins with something else than white space keeps what follows it. -/
theorem trimLeft_append_of_ne_nil {s : List Char} (hne : s ≠ [])
    (hs : ∀ c ∈ s, isSpace c = false) (after : List Char) :
    trimLeft (s ++ after) = s ++ after := by
  cases s with
  | nil => exact absurd rfl hne
  | cons c rest => simp [trimLeft, hs c (List.mem_cons_self ..)]

theorem Padded.trim_eq {s padded : List Char} (h : Padded s padded) (hne : s ≠ [])
    (hs : ∀ c ∈ s, isSpace c = false) : trim padded = s := by
  obtain ⟨before, after, rfl, hbefore, hafter⟩ := h
  have hreverse : ∀ c ∈ after.reverse, isSpace c = true :=
    fun c hc => hafter c (List.mem_reverse.mp hc)
  have hlast : trimLeft s.reverse = s.reverse :=
    Decimal.trimLeft_eq_self fun c hc => hs c (List.mem_reverse.mp hc)
  rw [trim, trimLeft_append hbefore, trimLeft_append_of_ne_nil hne hs, List.reverse_append,
    trimLeft_append hreverse, hlast, List.reverse_reverse]

theorem padded_trim (s : List Char) : Padded (trim s) s := by
  have hbefore : s = s.takeWhile isSpace ++ trimLeft s := List.takeWhile_append_dropWhile.symm
  have hafter : (trimLeft s).reverse =
      (trimLeft s).reverse.takeWhile isSpace ++ trimLeft (trimLeft s).reverse :=
    List.takeWhile_append_dropWhile.symm
  refine ⟨s.takeWhile isSpace, ((trimLeft s).reverse.takeWhile isSpace).reverse, ?_, ?_, ?_⟩
  · rw [trim, ← List.reverse_append, ← hafter, List.reverse_reverse]
    exact hbefore
  · exact fun c hc => List.mem_takeWhile_imp hc
  · exact fun c hc => List.mem_takeWhile_imp (List.mem_reverse.mp hc)

end Text

namespace Decimal

theorem trim_of_padded {n : Int} {s : List Char} (h : Text.Padded (numeral n) s) :
    Text.trim s = numeral n :=
  h.trim_eq (numeral_ne_nil n) fun _ => isSpace_of_mem_numeral

theorem trim_integerText (n : Int) : Text.trim (integerText n).toList = numeral n := by
  rw [integerText, String.toList_ofList]
  exact trim_of_padded (.refl _)

/-- One or more digits, and the number they stand for. -/
structure IsNatural (s : List Char) (n : Nat) : Prop where
  ne_nil : s ≠ []
  isDigit : ∀ c ∈ s, c.isDigit = true
  value_eq : Nat.ofDigitChars 10 s 0 = n

/-- The text stands for a whole number. A minus sign is one only where numbers have signs. -/
inductive Denotes (signed : Bool) : List Char → Int → Prop
  | bare {s : List Char} {n : Nat} (h : IsNatural s n) : Denotes signed s n
  | plus {s : List Char} {n : Nat} (h : IsNatural s n) : Denotes signed ('+' :: s) n
  | minus {s : List Char} {n : Nat} (hsigned : signed = true) (h : IsNatural s n) :
      Denotes signed ('-' :: s) (-n)

theorem IsNatural.isDigit_head {c : Char} {s : List Char} {n : Nat} (h : IsNatural (c :: s) n) :
    c.isDigit = true :=
  h.isDigit c (List.mem_cons_self ..)

section

variable {signed : Bool} {s : List Char} {n : Int}

theorem denotes_plus_iff :
    Denotes signed ('+' :: s) n ↔ ∃ m : Nat, IsNatural s m ∧ (m : Int) = n := by
  constructor
  · intro h
    cases h with
    | bare h => cases h.isDigit_head
    | plus h => exact ⟨_, h, rfl⟩
  · rintro ⟨m, h, rfl⟩
    exact .plus h

theorem denotes_minus_iff :
    Denotes signed ('-' :: s) n ↔ signed = true ∧ ∃ m : Nat, IsNatural s m ∧ -(m : Int) = n := by
  constructor
  · intro h
    cases h with
    | bare h => cases h.isDigit_head
    | minus hsigned h => exact ⟨hsigned, _, h, rfl⟩
  · rintro ⟨hsigned, m, h, rfl⟩
    exact .minus hsigned h

theorem denotes_bare_iff (hplus : ∀ rest, s ≠ '+' :: rest) (hminus : ∀ rest, s ≠ '-' :: rest) :
    Denotes signed s n ↔ ∃ m : Nat, IsNatural s m ∧ (m : Int) = n := by
  constructor
  · intro h
    cases h with
    | bare h => exact ⟨_, h, rfl⟩
    | plus h => exact absurd rfl (hplus _)
    | minus hsigned h => exact absurd rfl (hminus _)
  · rintro ⟨m, h, rfl⟩
    exact .bare h

theorem Denotes.ne_nil (h : Denotes signed s n) : s ≠ [] := by
  cases h with
  | bare h => exact h.ne_nil
  | plus h => exact List.cons_ne_nil _ _
  | minus hsigned h => exact List.cons_ne_nil _ _

theorem Denotes.isSpace_eq_false (h : Denotes signed s n) : ∀ c ∈ s, Text.isSpace c = false := by
  have hnatural {s : List Char} {m : Nat} (h : IsNatural s m) : ∀ c ∈ s, Text.isSpace c = false :=
    fun c hc => isSpace_of_isDigit (h.isDigit c hc)
  cases h with
  | bare h => exact hnatural h
  | plus h => exact List.forall_mem_cons.mpr ⟨by decide, hnatural h⟩
  | minus hsigned h => exact List.forall_mem_cons.mpr ⟨by decide, hnatural h⟩

/-- White space around a text of a number does not change what it stands for. -/
theorem exists_padded_iff :
    (∃ numeral, Text.Padded numeral s ∧ Denotes signed numeral n) ↔
      Denotes signed (Text.trim s) n := by
  constructor
  · rintro ⟨numeral, hpadded, h⟩
    rwa [hpadded.trim_eq h.ne_nil h.isSpace_eq_false]
  · exact fun h => ⟨_, Text.padded_trim s, h⟩

end

theorem isDigit_of_readDigits {limit : Nat} {beyond : NumeralFault} {s : List Char} {n m : Nat}
    (h : readDigits limit beyond n s = .ok m) : ∀ c ∈ s, c.isDigit = true := by
  induction s generalizing n with
  | nil => simp
  | cons c rest ih =>
    rw [readDigits] at h
    by_cases hc : c.isDigit = true
    · rw [if_pos hc] at h
      by_cases hnext : 10 * n + digitValue c ≤ limit
      · rw [if_pos hnext] at h
        exact List.forall_mem_cons.mpr ⟨hc, ih h⟩
      · rw [if_neg hnext] at h
        cases h
    · rw [if_neg hc] at h
      cases h

/-- Digits are read as the number they stand for, unless it is above the limit. -/
theorem map_readDigits_eq_ok_iff {limit : Nat} {beyond : NumeralFault} {s : List Char}
    (hs : s ≠ []) (f : Int → Int) (n : Int) :
    Except.map f (do let m ← readDigits limit beyond 0 s; pure (m : Int)) = .ok n ↔
      ∃ m : Nat, IsNatural s m ∧ m ≤ limit ∧ f m = n := by
  constructor
  · intro h
    cases hread : readDigits limit beyond 0 s with
    | error fault =>
      rw [hread] at h
      cases h
    | ok m =>
      have hdigits := isDigit_of_readDigits hread
      rw [readDigits_eq beyond hdigits (Nat.zero_le limit)] at hread
      by_cases hle : Nat.ofDigitChars 10 s 0 ≤ limit
      · rw [if_pos hle] at hread
        cases hread
        rw [readDigits_eq beyond hdigits (Nat.zero_le limit), if_pos hle] at h
        exact ⟨_, ⟨hs, hdigits, rfl⟩, hle, Except.ok.inj h⟩
      · rw [if_neg hle] at hread
        cases hread
  · rintro ⟨m, h, hle, rfl⟩
    rw [readDigits_eq beyond h.isDigit (Nat.zero_le limit), h.value_eq, if_pos hle]
    rfl

/-- A range with zero in it reads exactly the texts of its numbers. -/
theorem readNumeral_eq_ok_iff {least greatest : Int} (hleast : least ≤ 0)
    (hgreatest : 0 ≤ greatest) {s : List Char} {n : Int} :
    readNumeral least greatest s = .ok n ↔
      Denotes (decide (least < 0)) s n ∧ least ≤ n ∧ n ≤ greatest := by
  have hupper {s : List Char} (hs : s ≠ []) :
      Except.map (fun m => m)
          (do let m ← readDigits greatest.toNat .tooLarge 0 s; pure (m : Int)) = .ok n ↔
        (∃ m : Nat, IsNatural s m ∧ (m : Int) = n) ∧ least ≤ n ∧ n ≤ greatest := by
    rw [map_readDigits_eq_ok_iff hs]
    constructor
    · rintro ⟨m, hm, hle, rfl⟩
      exact ⟨⟨m, hm, rfl⟩, by omega, by omega⟩
    · rintro ⟨⟨m, hm, rfl⟩, -, hle⟩
      exact ⟨m, hm, by omega, rfl⟩
  have hempty : ¬ ∃ m, IsNatural [] m := fun ⟨_, h⟩ => h.ne_nil rfl
  unfold readNumeral
  split
  · exact ⟨nofun, fun h => absurd rfl h.1.ne_nil⟩
  · refine ⟨nofun, fun h => ?_⟩
    obtain ⟨m, hm, -⟩ := denotes_plus_iff.mp h.1
    exact absurd ⟨m, hm⟩ hempty
  · refine ⟨nofun, fun h => ?_⟩
    obtain ⟨-, m, hm, -⟩ := denotes_minus_iff.mp h.1
    exact absurd ⟨m, hm⟩ hempty
  · rename_i digits hplus
    rw [denotes_plus_iff]
    exact hupper fun heq => hplus (heq ▸ rfl)
  · rename_i digits hminus
    rw [denotes_minus_iff, decide_eq_true_eq]
    by_cases hsigned : least < 0
    · rw [if_pos hsigned, map_readDigits_eq_ok_iff fun heq => hminus (heq ▸ rfl)]
      constructor
      · rintro ⟨m, hm, hle, rfl⟩
        exact ⟨⟨hsigned, m, hm, rfl⟩, by omega, by omega⟩
      · rintro ⟨⟨-, m, hm, rfl⟩, hle, -⟩
        exact ⟨m, hm, by omega, rfl⟩
    · rw [if_neg hsigned]
      exact ⟨nofun, fun h => absurd h.1.1 hsigned⟩
  · rename_i hnil _ _ hplus hminus
    rw [denotes_bare_iff hplus hminus]
    exact hupper hnil

end Decimal

end SchemaChange
