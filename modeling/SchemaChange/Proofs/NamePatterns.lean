import Mathlib.Data.List.Infix
import SchemaChange.Proofs.AsciiCase

/-!
Patterns of names. In a pattern an underscore stands for any one character and a percent sign for
any number of them; everything else stands for itself, in either case if it is an ASCII letter. So
the underscore behind the prefix of internal names admits every longer name that begins with the
letters of this prefix. No character beyond ASCII has one of these letters for its lower case, apart
from a dotted i with its dot behind it, so that names which are the same without regard to case fit
the pattern alike.
-/
namespace SchemaChange.Text

open LetterCase

/-- The text fits the pattern. -/
def fits : List Char → List Char → Bool
  | [], s => s.isEmpty
  | p :: pattern, s =>
    if p = '%' then s.tails.any (fits pattern)
    else match s with
      | [] => false
      | c :: s => (p = '_' || p.toLower = c.toLower) && fits pattern s

theorem fits_percent (s : List Char) : fits ['%'] s = true := by
  have hnil : [] ∈ s.tails := (List.mem_tails ..).mpr (List.nil_suffix ..)
  unfold fits
  rw [if_pos rfl]
  exact List.any_eq_true.mpr ⟨[], hnil, rfl⟩

theorem fits_underscore_iff {pattern s : List Char} :
    fits ('_' :: pattern) s = true ↔ ∃ c rest, s = c :: rest ∧ fits pattern rest = true := by
  cases s with
  | nil => simp [fits]
  | cons c rest => simp [fits]

/-- A pattern that begins with plain characters is fitted by what begins with them in some case. -/
theorem fits_append_iff {plain : List Char} (hplain : ∀ p ∈ plain, p ≠ '%' ∧ p ≠ '_')
    {pattern s : List Char} :
    fits (plain ++ pattern) s = true ↔ ∃ head rest, s = head ++ rest ∧
      head.map Char.toLower = plain.map Char.toLower ∧ fits pattern rest = true := by
  induction plain generalizing s with
  | nil => simp
  | cons p plain ih =>
    obtain ⟨⟨hpercent, hunderscore⟩, hrest⟩ := List.forall_mem_cons.mp hplain
    cases s with
    | nil => simp [fits, hpercent]
    | cons c s =>
      rw [List.cons_append, fits, if_neg hpercent]
      simp only [hunderscore, decide_false, Bool.false_or, Bool.and_eq_true, decide_eq_true_eq,
        ih hrest]
      constructor
      · rintro ⟨hc, head, rest, rfl, hhead, hfits⟩
        exact ⟨c :: head, rest, rfl, by rw [List.map_cons, hhead, List.map_cons, hc], hfits⟩
      · rintro ⟨head, rest, hs, hhead, hfits⟩
        cases head with
        | nil => cases hhead
        | cons first head =>
          cases hs
          obtain ⟨hfirst, hhead⟩ := List.cons.inj hhead
          exact ⟨hfirst.symm, head, rest, rfl, hhead, hfits⟩

/-- The name begins with the prefix of internal names, whose last character is an underscore. -/
def IsReserved (name : String) : Prop := "sqlite_".toList <+: name.toList.map Char.toLower

/-- The name begins like an internal name and goes on in whatever way. -/
def LooksInternal (name : String) : Prop :=
  ∃ c rest, name.toList.map Char.toLower = "sqlite".toList ++ c :: rest

/-- Internal names are not the only ones that look internal. -/
theorem looksInternal_iff (name : String) :
    LooksInternal name ↔ IsReserved name ∨
      ∃ c rest, c ≠ '_' ∧ name.toList.map Char.toLower = "sqlite".toList ++ c :: rest := by
  constructor
  · rintro ⟨c, rest, hname⟩
    by_cases hc : c = '_'
    · subst hc
      exact Or.inl ⟨rest, hname.symm⟩
    · exact Or.inr ⟨c, rest, hc, hname⟩
  · rintro (⟨rest, hname⟩ | ⟨c, rest, -, hname⟩)
    · exact ⟨'_', rest, hname.symm⟩
    · exact ⟨c, rest, hname⟩

theorem fits_internal_iff (name : String) :
    fits "sqlite_%".toList name.toList = true ↔ LooksInternal name := by
  have hpattern : "sqlite_%".toList = "sqlite".toList ++ ['_', '%'] := rfl
  have hplain : ∀ p ∈ "sqlite".toList, p ≠ '%' ∧ p ≠ '_' := by simp
  rw [hpattern, fits_append_iff hplain]
  constructor
  · rintro ⟨head, rest, hname, hhead, hfits⟩
    obtain ⟨c, rest, rfl, -⟩ := fits_underscore_iff.mp hfits
    refine ⟨c.toLower, rest.map Char.toLower, ?_⟩
    rw [hname, List.map_append, hhead]
    rfl
  · rintro ⟨c, rest, hname⟩
    obtain ⟨head, tail, hname, hhead, htail⟩ := List.map_eq_append_iff.mp hname
    obtain ⟨first, later, rfl, -, -⟩ := List.map_eq_cons_iff.mp htail
    exact ⟨head, first :: later, hname, hhead,
      fits_underscore_iff.mpr ⟨first, later, rfl, fits_percent later⟩⟩

instance (name : String) : Decidable (IsReserved name) := inferInstanceAs (Decidable (_ <+: _))

instance (name : String) : Decidable (LooksInternal name) :=
  decidable_of_iff _ (fits_internal_iff name)

/-! What the lower case of a text tells about its letters. -/

/-- All characters of a run go beyond ASCII, unless it is that of the kelvin sign alone. -/
def LetterCase.CaseRun.LeavesAscii (r : CaseRun) : Prop :=
  (r.first = r.last ∧ r.image = 'k'.toNat) ∨
    128 ≤ r.image ∧ (r.image + (r.last - r.first) < 0xD800 ∨
      0xE000 ≤ r.image ∧ r.image + (r.last - r.first) < 0x110000)

instance (r : CaseRun) : Decidable r.LeavesAscii := inferInstanceAs (Decidable (_ ∨ _))

theorem lowerRuns_leave_ascii : ∀ r ∈ lowerRuns, r.LeavesAscii := by decide +kernel

theorem LetterCase.CaseRun.LeavesAscii.image {r : CaseRun} (h : r.LeavesAscii) {n image : Nat}
    (himage : r.image? n = some image) :
    Char.ofNat image = 'k' ∨ 128 ≤ (Char.ofNat image).toNat := by
  unfold CaseRun.image? at himage
  split at himage
  · next hrun =>
    obtain ⟨hfirst, hlast, -⟩ := hrun
    have hsum := Option.some.inj himage
    rcases h with ⟨hsingle, hk⟩ | ⟨hbound, hvalid⟩
    · left
      have hself : image = 'k'.toNat := by omega
      rw [hself, Char.ofNat_toNat]
    · right
      have himageValid : image.isValidChar := by
        unfold Nat.isValidChar
        omega
      rw [Char.ofNat, dif_pos himageValid]
      change 128 ≤ image
      omega
  · cases himage

/-- A character has an ASCII character for its lower case only if it is one itself or the sign of
the kelvin, or together with a dot above it. -/
theorem lowerChar_cases (c : Char) :
    lowerChar c = [c.toLower] ∨ lowerChar c = ['i', '\u0307'] ∨
      ∃ image, lowerChar c = [image] ∧ (image = 'k' ∨ 128 ≤ image.toNat) := by
  unfold lowerChar imageIn
  by_cases hascii : c.toNat < 128
  · rw [if_pos hascii]
    exact Or.inl rfl
  · rw [if_neg hascii]
    by_cases hdotted : c.toNat = 0x130
    · right
      left
      rw [hdotted]
      rfl
    · right
      right
      have hlookup : lowerSequences.lookup c.toNat = none := by
        rw [lowerSequences, List.lookup_cons, beq_false_of_ne hdotted]
        rfl
      rw [hlookup]
      cases hfound : lowerRuns.findSome? (·.image? c.toNat) with
      | none => exact ⟨c, rfl, Or.inr (by omega)⟩
      | some image =>
        obtain ⟨r, hr, himage⟩ := List.exists_of_findSome?_eq_some hfound
        exact ⟨_, rfl, (lowerRuns_leave_ascii r hr).image himage⟩

theorem lowerAfter_ne_nil (before : List Char) (c : Char) (rest : List Char) :
    lowerAfter before (c :: rest) ≠ [] := by
  have hchar : lowerChar c ≠ [] := by
    rcases lowerChar_cases c with h | h | ⟨image, h, -⟩ <;> simp [h]
  rw [lowerAfter]
  split
  · split <;> simp
  · simp [hchar]

/-- A letter in lower case that is not a k, and no i with a dot above it, comes from this letter. -/
theorem exists_of_lowerAfter_eq_cons {before s y : List Char} {x : Char} (hascii : x.toNat < 128)
    (hk : x ≠ 'k') (hdot : x = 'i' → y.head? ≠ some '\u0307') (h : lowerAfter before s = x :: y) :
    ∃ c rest, s = c :: rest ∧ c.toLower = x ∧ lowerAfter (c :: before) rest = y := by
  cases s with
  | nil => cases h
  | cons c rest =>
    rw [lowerAfter] at h
    by_cases hsigma : c = 'Σ'
    · rw [if_pos hsigma] at h
      split at h
      · cases h
        exact absurd hascii (by decide)
      · cases h
        exact absurd hascii (by decide)
    · rw [if_neg hsigma] at h
      rcases lowerChar_cases c with hc | hc | ⟨image, hc, himage⟩
      · rw [hc] at h
        cases h
        exact ⟨c, rest, rfl, rfl, rfl⟩
      · rw [hc] at h
        cases h
        exact absurd rfl (hdot rfl)
      · rw [hc] at h
        cases h
        rcases himage with himage | himage
        · exact absurd himage hk
        · omega

/-- The same holds of several letters of which the last is no i: behind every other i there is a
letter, and no dot. -/
theorem exists_of_lowerAfter_eq_append {before s w y : List Char}
    (hw : ∀ x ∈ w, x.toNat < 128 ∧ x ≠ 'k') (hlast : w.getLast? ≠ some 'i')
    (h : lowerAfter before s = w ++ y) :
    ∃ head rest, s = head ++ rest ∧ head.map Char.toLower = w ∧
      lowerAfter (head.reverse ++ before) rest = y := by
  induction w generalizing before s with
  | nil => exact ⟨[], s, rfl, rfl, h⟩
  | cons x w ih =>
    obtain ⟨⟨hascii, hk⟩, hrest⟩ := List.forall_mem_cons.mp hw
    have hdot : x = 'i' → (w ++ y).head? ≠ some '\u0307' := by
      intro hx hhead
      cases w with
      | nil => exact hlast (by rw [hx]; rfl)
      | cons next w =>
        cases hhead
        exact absurd (hrest '\u0307' (List.mem_cons_self ..)).1 (by decide)
    obtain ⟨c, rest, rfl, hc, hlower⟩ := exists_of_lowerAfter_eq_cons hascii hk hdot h
    have hlast' : w.getLast? ≠ some 'i' := by
      cases w with
      | nil => simp
      | cons next w => rwa [List.getLast?_cons_cons] at hlast
    obtain ⟨head, tail, rfl, hhead, hy⟩ := ih hrest hlast' hlower
    refine ⟨c :: head, tail, rfl, by rw [List.map_cons, hc, hhead], ?_⟩
    rw [List.reverse_cons, List.append_assoc]
    exact hy

/-- Whether a name looks internal is a matter of its lower case alone. -/
theorem looksInternal_iff_lower (name : String) :
    LooksInternal name ↔ ∃ c rest, lower name.toList = "sqlite".toList ++ c :: rest := by
  constructor
  · rintro ⟨c, rest, hname⟩
    have hlower : lower name.toList =
        "sqlite".toList ++ lowerAfter "etilqs".toList (c :: rest) := by
      rw [lower, ← lowerAfter_map_toLower, hname]
      rfl
    obtain ⟨first, later, hlater⟩ := List.exists_cons_of_ne_nil
      (lowerAfter_ne_nil "etilqs".toList c rest)
    exact ⟨first, later, by rw [hlower, hlater]⟩
  · rintro ⟨c, rest, hlower⟩
    have hletters : ∀ x ∈ "sqlite".toList, x.toNat < 128 ∧ x ≠ 'k' := by simp
    obtain ⟨head, tail, hname, hhead, htail⟩ :=
      exists_of_lowerAfter_eq_append hletters (by decide) hlower
    cases tail with
    | nil => cases htail
    | cons first later =>
      refine ⟨first.toLower, later.map Char.toLower, ?_⟩
      rw [hname, List.map_append, hhead]
      rfl

theorem looksInternal_iff_of_sameName {a b : String} (h : sameName a b = true) :
    LooksInternal a ↔ LooksInternal b := by
  rw [looksInternal_iff_lower, looksInternal_iff_lower, beq_iff_eq.mp h]

end SchemaChange.Text
