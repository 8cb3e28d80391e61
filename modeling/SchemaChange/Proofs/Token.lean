import SchemaChange.Text.Quoted

/-!
Statements as a database takes them apart. Words are runs of letters, digits and underscores, names
stand between the marks of the dialect and literals between apostrophes, each with its own mark
doubled inside; every other visible character has to be punctuation. The reader goes over the text
once and knows nothing of how statements are written.
-/
namespace SchemaChange

inductive Token where
  | word (text : String)
  | name (text : String)
  | literal (text : String)
  | sign (c : Char)
deriving DecidableEq, Repr

namespace Token

def isWordChar (c : Char) : Bool := c.isAlphanum || c == '_'

def isPunctuation (c : Char) : Bool := c ∈ ['(', ')', ',', '.', ';', '=', '*', '?']

/-- The character cannot continue what stands before it. -/
def separates (c : Char) : Bool := c.isWhitespace || isPunctuation c

/-- The characters of a word, at least one. -/
def IsWord (text : String) : Prop := text ≠ "" ∧ text.toList.all isWordChar = true

instance (text : String) : Decidable (IsWord text) := inferInstanceAs (Decidable (_ ∧ _))

/-- A mark for names which is nothing else. -/
def IsMark (mark : Char) : Prop :=
  separates mark = false ∧ isWordChar mark = false ∧ mark ≠ '\''

instance (mark : Char) : Decidable (IsMark mark) := inferInstanceAs (Decidable (_ ∧ _ ∧ _))

/-- Where the reader is, with the characters of the token it is in, the last one first. -/
inductive Mode where
  | between
  | word (before : List Char)
  | quoted (mark : Char) (before : List Char)
  /-- Behind a mark that ends the text, unless it is the first of two. -/
  | closing (mark : Char) (before : List Char)

namespace Mode

/-- The token that ends here, if one has to. -/
def flush : Mode → Option (List Token)
  | between => some []
  | word before => some [.word (String.ofList before.reverse)]
  | quoted .. => none
  | closing mark before =>
    let text := String.ofList before.reverse
    some [if mark = '\'' then .literal text else .name text]

/-- The next mode when the character belongs to the token that has begun. -/
def continue? : Mode → Char → Option Mode
  | between, _ => none
  | word before, c => if isWordChar c then some (word (c :: before)) else none
  | quoted mark before, c =>
    some (if c = mark then closing mark before else quoted mark (c :: before))
  | closing mark before, c => if c = mark then some (quoted mark (c :: before)) else none

end Mode

/-- What a character between two tokens is or begins. -/
def start (mark c : Char) : Option (List Token × Mode) :=
  if c.isWhitespace then some ([], .between)
  else if isPunctuation c then some ([.sign c], .between)
  else if isWordChar c then some ([], .word [c])
  else if c = mark ∨ c = '\'' then some ([], .quoted c [])
  else none

def step (mark : Char) (mode : Mode) (c : Char) : Option (List Token × Mode) :=
  match mode.continue? c with
  | some mode => some ([], mode)
  | none => do
    let ended ← mode.flush
    let (begun, mode) ← start mark c
    return (ended ++ begun, mode)

def scan (mark : Char) : Mode → List Char → Option (List Token)
  | mode, [] => mode.flush
  | mode, c :: rest => do
    let (found, mode) ← step mark mode c
    let later ← scan mark mode rest
    return found ++ later

/-- The tokens of a statement. -/
def read (mark : Char) (statement : String) : Option (List Token) :=
  scan mark .between statement.toList

/-- A text goes on with something new, or ends. -/
def Breaks (rest : List Char) : Prop := ∀ c, rest.head? = some c → separates c = true

theorem Breaks.nil : Breaks [] := nofun

theorem Breaks.cons {c : Char} (h : separates c = true) (rest : List Char) :
    Breaks (c :: rest) := by
  intro d hd
  rw [← Option.some.inj hd]
  exact h

theorem isWordChar_eq_false {c : Char} (h : separates c = true) : isWordChar c = false := by
  simp only [separates, isPunctuation, Char.isWhitespace, Bool.or_eq_true, decide_eq_true_eq,
    List.mem_cons, List.not_mem_nil, or_false] at h
  rcases h with (((rfl | rfl) | rfl) | rfl) | (rfl | rfl | rfl | rfl | rfl | rfl | rfl | rfl) <;>
    decide

theorem scan_continue {mark c : Char} {mode next : Mode} (h : mode.continue? c = some next)
    (rest : List Char) : scan mark mode (c :: rest) = scan mark next rest := by
  simp [scan, step, h]

/-- A token that ends is found before everything behind it. -/
theorem scan_flush {mark : Char} {mode : Mode} {ended : List Token}
    (hended : mode.flush = some ended) {rest : List Char}
    (hrest : ∀ c, rest.head? = some c → mode.continue? c = none) :
    scan mark mode rest = (scan mark .between rest).map (ended ++ ·) := by
  have hempty : Mode.between.flush = some [] := rfl
  cases rest with
  | nil => simp [scan, hended, hempty]
  | cons c rest =>
    have hnone : mode.continue? c = none := hrest c rfl
    have hbetween : Mode.between.continue? c = none := rfl
    simp only [scan, step, hnone, hended, hbetween, hempty]
    cases start mark c with
    | none => rfl
    | some begun =>
      obtain ⟨begun, next⟩ := begun
      cases hlater : scan mark next rest <;> simp [hlater]

theorem scan_word {mark : Char} {before text rest : List Char}
    (htext : ∀ c ∈ text, isWordChar c = true) (hrest : Breaks rest) :
    scan mark (.word before) (text ++ rest) =
      (scan mark .between rest).map (.word (String.ofList (before.reverse ++ text)) :: ·) := by
  induction text generalizing before with
  | nil =>
    have hend : ∀ c, rest.head? = some c → (Mode.word before).continue? c = none := by
      intro c hc
      simp [Mode.continue?, isWordChar_eq_false (hrest c hc)]
    rw [List.nil_append, List.append_nil]
    exact scan_flush rfl hend
  | cons c text ih =>
    have hc : (Mode.word before).continue? c = some (.word (c :: before)) := by
      simp [Mode.continue?, htext c (List.mem_cons_self ..)]
    rw [List.cons_append, scan_continue hc, ih fun d hd => htext d (List.mem_cons_of_mem _ hd)]
    simp

theorem scan_quoted {mark q : Char} {before text rest : List Char}
    (hrest : rest.head? ≠ some q) :
    scan mark (.quoted q before) (Text.Quoted.double q text ++ q :: rest) =
      (scan mark .between rest).map
        ((let read := String.ofList (before.reverse ++ text)
          if q = '\'' then Token.literal read else Token.name read) :: ·) := by
  induction text generalizing before with
  | nil =>
    have hend : ∀ c, rest.head? = some c → (Mode.closing q before).continue? c = none := by
      intro c hc
      have hne : c ≠ q := fun heq => hrest (heq ▸ hc)
      simp [Mode.continue?, hne]
    have hclose : (Mode.quoted q before).continue? q = some (.closing q before) := by
      simp [Mode.continue?]
    rw [Text.Quoted.double, List.nil_append, scan_continue hclose, List.append_nil]
    exact scan_flush rfl hend
  | cons c text ih =>
    by_cases hc : c = q
    · subst hc
      have hfirst : (Mode.quoted c before).continue? c = some (.closing c before) := by
        simp [Mode.continue?]
      have hsecond : (Mode.closing c before).continue? c = some (.quoted c (c :: before)) := by
        simp [Mode.continue?]
      rw [Text.Quoted.double, if_pos rfl, List.cons_append, List.cons_append, scan_continue hfirst,
        scan_continue hsecond, ih]
      simp
    · have hnext : (Mode.quoted q before).continue? c = some (.quoted q (c :: before)) := by
        simp [Mode.continue?, hc]
      rw [Text.Quoted.double, if_neg hc, List.cons_append, scan_continue hnext, ih]
      simp

/-- What the mode quotes began with a mark for names or with an apostrophe. -/
def Mode.IsProper (mark : Char) : Mode → Prop
  | quoted q _ | closing q _ => q = mark ∨ q = '\''
  | _ => True

theorem isProper_start {mark c : Char} {found : List Token} {next : Mode}
    (h : start mark c = some (found, next)) : next.IsProper mark := by
  unfold start at h
  split at h
  · cases h
    trivial
  · split at h
    · cases h
      trivial
    · split at h
      · cases h
        trivial
      · obtain ⟨hc, heq⟩ := Option.ite_none_right_eq_some.mp h
        cases heq
        exact hc

theorem isProper_continue {mark c : Char} {mode next : Mode} (hmode : mode.IsProper mark)
    (h : mode.continue? c = some next) : next.IsProper mark := by
  cases mode with
  | between => cases h
  | word before =>
    obtain ⟨-, heq⟩ := Option.ite_none_right_eq_some.mp h
    cases heq
    trivial
  | quoted q before =>
    rw [← Option.some.inj h]
    split <;> exact hmode
  | closing q before =>
    obtain ⟨-, heq⟩ := Option.ite_none_right_eq_some.mp h
    cases heq
    exact hmode

theorem isProper_step {mark c : Char} {mode next : Mode} {found : List Token}
    (hmode : mode.IsProper mark) (h : step mark mode c = some (found, next)) :
    next.IsProper mark := by
  unfold step at h
  cases hcontinue : mode.continue? c with
  | some following =>
    rw [hcontinue] at h
    cases h
    exact isProper_continue hmode hcontinue
  | none =>
    rw [hcontinue] at h
    obtain ⟨ended, -, hbegins⟩ := Option.bind_eq_some_iff.mp h
    obtain ⟨⟨begun, following⟩, hstart, heq⟩ := Option.bind_eq_some_iff.mp hbegins
    cases heq
    exact isProper_start hstart

/-- A token that can end does so in front of something new. -/
theorem continue?_eq_none {mark c : Char} (hmark : IsMark mark) {mode : Mode}
    (hmode : mode.IsProper mark) {ended : List Token} (hended : mode.flush = some ended)
    (hc : separates c = true) : mode.continue? c = none := by
  cases mode with
  | between => rfl
  | word before => simp [Mode.continue?, isWordChar_eq_false hc]
  | quoted q before => cases hended
  | closing q before =>
    have hq : separates q = false := by
      rcases hmode with rfl | rfl
      · exact hmark.1
      · rfl
    have hne : c ≠ q := by
      rintro rfl
      exact absurd (hc.symm.trans hq) (by decide)
    simp [Mode.continue?, hne]

/-- What is read by itself is read in the same way in front of something new. -/
theorem scan_append {mark : Char} (hmark : IsMark mark) {mode : Mode} (hmode : mode.IsProper mark)
    {text rest : List Char} {tokens : List Token} (h : scan mark mode text = some tokens)
    (hrest : Breaks rest) :
    scan mark mode (text ++ rest) = (scan mark .between rest).map (tokens ++ ·) := by
  induction text generalizing mode tokens with
  | nil => exact scan_flush h fun c hc => continue?_eq_none hmark hmode h (hrest c hc)
  | cons c text ih =>
    obtain ⟨⟨found, next⟩, hstep, hscan⟩ := Option.bind_eq_some_iff.mp h
    obtain ⟨later, hlater, heq⟩ := Option.bind_eq_some_iff.mp hscan
    cases heq
    have hrest := ih (isProper_step hmode hstep) hlater
    simp only [List.cons_append, scan, hstep, Option.bind_eq_bind, Option.bind_some, hrest]
    cases scan mark .between rest <;> simp

end Token

end SchemaChange
