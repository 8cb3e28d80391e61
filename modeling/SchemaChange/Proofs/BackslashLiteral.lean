import SchemaChange.Text.Quoted

/-!
String literals as MySQL reads them in its usual mode. An apostrophe ends a literal unless another
one follows it, and a backslash takes the next character with it: the two stand for one character,
except that a backslash in front of a percent sign or of an underscore stays. A literal in which
only the apostrophes were doubled is read as its text exactly when all backslashes of the text stay.
-/
namespace SchemaChange.BackslashLiteral

open Text (Quoted.double)

/-- What a backslash stands for together with the character behind it. -/
def unescape (c : Char) : List Char :=
  match c with
  | '0' => ['\x00']
  | 'b' => ['\x08']
  | 't' => ['\t']
  | 'n' => ['\n']
  | 'r' => ['\r']
  | 'Z' => ['\x1a']
  | '%' => ['\\', '%']
  | '_' => ['\\', '_']
  | c => [c]

/-- The text up to the apostrophe that ends it, and what stands behind that apostrophe. -/
def readBody : List Char → Option (List Char × List Char)
  | [] => none
  | [c] => if c = '\'' then some ([], []) else none
  | c :: d :: rest =>
    if c = '\\' then (readBody rest).map fun (s, after) => (unescape d ++ s, after)
    else if c = '\'' then
      if d = '\'' then (readBody rest).map fun (s, after) => ('\'' :: s, after)
      else some ([], d :: rest)
    else (readBody (d :: rest)).map fun (s, after) => (c :: s, after)

/-- The value of the literal that begins here, and what stands behind the literal. -/
def read : List Char → Option (List Char × List Char)
  | [] => none
  | c :: rest => if c = '\'' then readBody rest else none

/-- Every backslash of the text stays when it is read. -/
def Survives : List Char → Prop
  | [] => True
  | c :: rest => (c = '\\' → rest.head? = some '%' ∨ rest.head? = some '_') ∧ Survives rest

instance decidableSurvives : (s : List Char) → Decidable (Survives s)
  | [] => inferInstanceAs (Decidable True)
  | _ :: rest =>
    have := decidableSurvives rest
    inferInstanceAs (Decidable (_ ∧ _))

theorem survives_backslash (s : List Char) :
    Survives ('\\' :: s) ↔ (s.head? = some '%' ∨ s.head? = some '_') ∧ Survives s := by
  simp [Survives]

theorem survives_cons_of_ne {c : Char} (h : c ≠ '\\') (s : List Char) :
    Survives (c :: s) ↔ Survives s := by
  simp [Survives, h]

/-- Reading takes the weight of a text away: two for each character of the value at least, and one
for the apostrophe at the end. -/
def weight : List Char → Nat
  | [] => 0
  | c :: rest => (if c = '\'' then 1 else 2) + weight rest

theorem weight_append (s t : List Char) : weight (s ++ t) = weight s + weight t := by
  induction s with
  | nil => simp [weight]
  | cons c s ih => simp [weight, ih, Nat.add_assoc]

/-- Doubling the apostrophes makes the weight of a text twice its length. -/
theorem weight_double (s : List Char) : weight (Quoted.double '\'' s) = 2 * s.length := by
  induction s with
  | nil => rfl
  | cons c s ih =>
    by_cases hc : c = '\''
    · simp [Quoted.double, weight, hc, ih]
      omega
    · simp [Quoted.double, weight, hc, ih]
      omega

theorem readBody_end {rest : List Char} (h : rest.head? ≠ some '\'') :
    readBody ('\'' :: rest) = some ([], rest) := by
  cases rest with
  | nil => rfl
  | cons d rest =>
    have hd : d ≠ '\'' := by simpa using h
    simp [readBody, hd]

theorem readBody_doubled (rest : List Char) :
    readBody ('\'' :: '\'' :: rest) =
      (readBody rest).map fun (s, after) => ('\'' :: s, after) := by
  simp [readBody]

theorem readBody_backslash (c : Char) (rest : List Char) :
    readBody ('\\' :: c :: rest) =
      (readBody rest).map fun (s, after) => (unescape c ++ s, after) := by
  simp [readBody]

theorem readBody_cons {c : Char} (hslash : c ≠ '\\') (hend : c ≠ '\'') (rest : List Char) :
    readBody (c :: rest) = (readBody rest).map fun (s, after) => (c :: s, after) := by
  cases rest with
  | nil => simp [readBody, hend]
  | cons d rest => simp [readBody, hslash, hend]

theorem weight_unescape (c : Char) : 2 * (unescape c).length ≤ weight ['\\', c] := by
  unfold unescape
  split <;> simp [weight]

theorem unescape_cases (c : Char) :
    (unescape c = ['\\', c] ∧ (c = '%' ∨ c = '_')) ∨
      ∃ d, unescape c = [d] ∧ c ≠ '%' ∧ c ≠ '_' := by
  unfold unescape
  split <;> simp_all

theorem weight_of_readBody {text value after : List Char}
    (h : readBody text = some (value, after)) :
    2 * value.length + 1 + weight after ≤ weight text := by
  fun_induction readBody text generalizing value after with
  | case1 => simp at h
  | case2 =>
    obtain ⟨rfl, rfl⟩ := Prod.mk.inj (Option.some.inj h)
    simp [weight]
  | case3 => simp at h
  | case4 d rest ih =>
    obtain ⟨⟨s, rest'⟩, hread, heq⟩ := Option.map_eq_some_iff.mp h
    obtain ⟨rfl, rfl⟩ := Prod.mk.inj heq
    have hrest := ih hread
    have hd := weight_unescape d
    simp only [weight, List.length_append] at hd ⊢
    omega
  | case5 rest hne ih =>
    obtain ⟨⟨s, rest'⟩, hread, heq⟩ := Option.map_eq_some_iff.mp h
    obtain ⟨rfl, rfl⟩ := Prod.mk.inj heq
    have hrest := ih hread
    simp only [weight, if_true, List.length_cons]
    omega
  | case6 d rest hne hd =>
    obtain ⟨rfl, rfl⟩ := Prod.mk.inj (Option.some.inj h)
    simp [weight]
  | case7 c d rest hslash hend ih =>
    obtain ⟨⟨s, rest'⟩, hread, heq⟩ := Option.map_eq_some_iff.mp h
    obtain ⟨rfl, rfl⟩ := Prod.mk.inj heq
    have hrest := ih hread
    rw [weight, if_neg hend, List.length_cons]
    omega

/-- Reading to the apostrophe behind a text gives no more characters than the text has. -/
theorem length_le_of_readBody {s value rest : List Char}
    (h : readBody (Quoted.double '\'' s ++ '\'' :: rest) = some (value, rest)) :
    value.length ≤ s.length := by
  have hweight := weight_of_readBody h
  rw [weight_append, weight_double, weight, if_pos rfl] at hweight
  omega

/-- What follows a backslash that goes would have to be read as more than there is. -/
theorem readBody_pair_iff {c : Char} {s rest : List Char} :
    readBody ('\\' :: c :: (Quoted.double '\'' s ++ '\'' :: rest)) =
        some ('\\' :: c :: s, rest) ↔
      (c = '%' ∨ c = '_') ∧ readBody (Quoted.double '\'' s ++ '\'' :: rest) = some (s, rest) := by
  rw [readBody_backslash]
  simp only [Option.map_eq_some_iff, Prod.mk.injEq, Prod.exists]
  rcases unescape_cases c with ⟨hkept, hc⟩ | ⟨d, hd, hpercent, hunderscore⟩
  · simp [hkept, hc]
  · constructor
    · rintro ⟨value, after, hread, hvalue, rfl⟩
      rw [hd, List.singleton_append] at hvalue
      obtain ⟨-, rfl⟩ := List.cons.inj hvalue
      have hlength := length_le_of_readBody hread
      rw [List.length_cons] at hlength
      omega
    · rintro ⟨hc, -⟩
      exact absurd hc (by simp [hpercent, hunderscore])

/-- An apostrophe behind a backslash belongs to the text, and the backslash does not. -/
theorem readBody_escaped_end_ne (s rest after : List Char) :
    readBody ('\\' :: '\'' :: rest) ≠ some ('\\' :: s, after) := by
  rw [readBody_backslash]
  intro h
  obtain ⟨⟨value, after'⟩, -, heq⟩ := Option.map_eq_some_iff.mp h
  have hvalue : '\'' :: value = '\\' :: s := (Prod.mk.inj heq).1
  exact absurd (List.cons.inj hvalue).1 (by decide)

theorem readBody_double_iff (s : List Char) {rest : List Char} (h : rest.head? ≠ some '\'') :
    readBody (Quoted.double '\'' s ++ '\'' :: rest) = some (s, rest) ↔ Survives s := by
  induction s with
  | nil => simp [Quoted.double, readBody_end h, Survives]
  | cons c s ih =>
    by_cases hend : c = '\''
    · subst hend
      rw [survives_cons_of_ne (by decide), ← ih, Quoted.double, if_pos rfl]
      simp [readBody_doubled]
    · rw [Quoted.double, if_neg hend, List.cons_append]
      by_cases hslash : c = '\\'
      · subst hslash
        rw [survives_backslash]
        cases s with
        | nil => simpa [Quoted.double] using readBody_escaped_end_ne [] rest rest
        | cons d s =>
          by_cases hd : d = '\''
          · subst hd
            simpa [Quoted.double] using readBody_escaped_end_ne _ _ _
          · rw [Quoted.double, if_neg hd, List.cons_append] at ih ⊢
            rw [readBody_pair_iff, List.head?_cons, Option.some.injEq, Option.some.injEq]
            refine and_congr_right fun hstays => ?_
            have hne : d ≠ '\\' := by
              rintro rfl
              exact absurd hstays (by decide)
            rw [← ih, readBody_cons hne hd]
            simp
      · rw [readBody_cons hslash hend, survives_cons_of_ne hslash, ← ih]
        simp

/-- The literal of a text is read as the text, whatever stands behind it, exactly when the text
survives. -/
theorem read_literal_iff (text : String) {rest : List Char} (h : rest.head? ≠ some '\'') :
    read ((Text.literal text).toList ++ rest) = some (text.toList, rest) ↔
      Survives text.toList := by
  have hliteral : (Text.literal text).toList ++ rest =
      '\'' :: (Quoted.double '\'' text.toList ++ '\'' :: rest) := by
    simp [Text.literal, Text.quote, Text.Quoted.encode]
  rw [hliteral, read, if_pos rfl]
  exact readBody_double_iff text.toList h

end SchemaChange.BackslashLiteral
