import Mathlib.Data.List.Forall2
import SchemaChange.Proofs.Token
import SchemaChange.Text.Phrase
import SchemaChange.Text.QualifiedName

/-!
Texts that are read as they were meant wherever they stand: when something new begins behind a text,
its tokens come first and then those of the rest. Words, names and literals are such texts, and what
is put together from such texts with separators between them is one.
-/
namespace SchemaChange

open Token (Breaks IsMark IsWord Mode scan separates start)

/-- The text is read as the tokens, in front of whatever breaks off from it. -/
def Written (mark : Char) (text : String) (tokens : List Token) : Prop :=
  ∀ rest, Breaks rest →
    scan mark .between (text.toList ++ rest) = (scan mark .between rest).map (tokens ++ ·)

/-- The text stands between others and is read as the signs, whatever follows. -/
structure Separates (mark : Char) (text : String) (signs : List Token) : Prop where
  breaks : ∀ rest, Breaks (text.toList ++ rest)
  scan_eq : ∀ rest,
    scan mark .between (text.toList ++ rest) = (scan mark .between rest).map (signs ++ ·)

namespace Token

variable {mark : Char}

theorem scan_start {c : Char} {found : List Token} {mode : Mode}
    (h : start mark c = some (found, mode)) (rest : List Char) :
    scan mark .between (c :: rest) = (scan mark mode rest).map (found ++ ·) := by
  have hbetween : Mode.between.continue? c = none := rfl
  have hempty : Mode.between.flush = some [] := rfl
  simp only [scan, step, hbetween, hempty, h]
  cases hlater : scan mark mode rest <;> simp [hlater]

theorem start_blank : start mark ' ' = some ([], .between) := rfl

theorem start_sign {c : Char} (h : isPunctuation c = true) :
    start mark c = some ([.sign c], .between) := by
  have hblank : c.isWhitespace = false := by
    simp only [isPunctuation, decide_eq_true_eq, List.mem_cons, List.not_mem_nil, or_false] at h
    rcases h with rfl | rfl | rfl | rfl | rfl | rfl | rfl | rfl <;> rfl
  simp [start, hblank, h]

theorem start_word {c : Char} (h : isWordChar c = true) : start mark c = some ([], .word [c]) := by
  have hseparates : separates c = false := by
    by_contra hne
    rw [isWordChar_eq_false (by simpa using hne)] at h
    cases h
  simp only [separates, Bool.or_eq_false_iff] at hseparates
  simp [start, hseparates, h]

theorem start_name (h : IsMark mark) : start mark mark = some ([], .quoted mark []) := by
  obtain ⟨hseparates, hword, -⟩ := h
  simp only [separates, Bool.or_eq_false_iff] at hseparates
  simp [start, hseparates, hword]

theorem start_literal : start mark '\'' = some ([], .quoted '\'' []) := by
  have hblank : '\''.isWhitespace = false := rfl
  have hsign : isPunctuation '\'' = false := rfl
  have hword : isWordChar '\'' = false := rfl
  simp [start, hblank, hsign, hword]

/-- A mark does not follow a text that breaks off. -/
theorem Breaks.head?_ne {rest : List Char} (h : Breaks rest) {c : Char}
    (hc : separates c = false) : rest.head? ≠ some c := by
  intro hhead
  rw [h c hhead] at hc
  cases hc

end Token

namespace Separates

variable {mark : Char}

theorem blank : Separates mark " " [] where
  breaks rest := Token.Breaks.cons rfl rest
  scan_eq rest := Token.scan_start Token.start_blank rest

theorem sign {text : String} {c : Char} (htext : text.toList = [c])
    (h : Token.isPunctuation c = true) : Separates mark text [.sign c] where
  breaks rest := by
    have hc : separates c = true := by simp [separates, h]
    rw [htext]
    exact Token.Breaks.cons hc rest
  scan_eq rest := by
    rw [htext]
    exact Token.scan_start (Token.start_sign h) rest

theorem append {a b : String} {ts us : List Token} (ha : Separates mark a ts)
    (hb : Separates mark b us) : Separates mark (a ++ b) (ts ++ us) where
  breaks rest := by
    rw [String.toList_append, List.append_assoc]
    exact ha.breaks _
  scan_eq rest := by
    rw [String.toList_append, List.append_assoc, ha.scan_eq, hb.scan_eq, Option.map_map]
    simp [Function.comp_def]

theorem comma : Separates mark "," [.sign ','] := sign rfl rfl

theorem commaBlank : Separates mark ", " [.sign ','] := comma.append blank

theorem dot : Separates mark "." [.sign '.'] := sign rfl rfl

end Separates

namespace Written

variable {mark : Char}

theorem empty : Written mark "" [] := by
  intro rest _
  simp

theorem of_separates {text : String} {signs : List Token} (h : Separates mark text signs) :
    Written mark text signs :=
  fun rest _ => h.scan_eq rest

theorem sign {text : String} {c : Char} (htext : text.toList = [c])
    (h : Token.isPunctuation c = true) : Written mark text [.sign c] :=
  of_separates (Separates.sign htext h)

theorem append {a b : String} {ts us : List Token} (ha : Written mark a ts)
    (hb : Written mark b us) (hbreaks : ∀ rest, Breaks (b.toList ++ rest)) :
    Written mark (a ++ b) (ts ++ us) := by
  intro rest hrest
  rw [String.toList_append, List.append_assoc, ha _ (hbreaks rest), hb rest hrest, Option.map_map]
  simp [Function.comp_def]

/-- What follows a separator may begin with anything. -/
theorem separated {sep b : String} {signs us : List Token} (hsep : Separates mark sep signs)
    (hb : Written mark b us) : Written mark (sep ++ b) (signs ++ us) := by
  intro rest hrest
  rw [String.toList_append, List.append_assoc, hsep.scan_eq, hb rest hrest, Option.map_map]
  simp [Function.comp_def]

/-- A separator may stand right behind a text. -/
theorem joined {a sep b : String} {ts signs us : List Token} (ha : Written mark a ts)
    (hsep : Separates mark sep signs) (hb : Written mark b us) :
    Written mark (a ++ sep ++ b) (ts ++ signs ++ us) := by
  rw [String.append_assoc, List.append_assoc]
  refine ha.append (separated hsep hb) fun rest => ?_
  rw [String.toList_append, List.append_assoc]
  exact hsep.breaks _

theorem terminated {text : String} {tokens : List Token} (h : Written mark text tokens) :
    Written mark (text ++ ";") (tokens ++ [.sign ';']) :=
  h.append (sign rfl rfl) fun rest => Token.Breaks.cons rfl rest

theorem read_eq {text : String} {tokens : List Token} (h : Written mark text tokens) :
    Token.read mark text = some tokens := by
  have hscan := h [] Token.Breaks.nil
  simpa [Token.read, scan, Mode.flush] using hscan

/-- A text without open ends is read in the same way wherever it stands. -/
theorem of_read (hmark : IsMark mark) {text : String} {tokens : List Token}
    (h : Token.read mark text = some tokens) : Written mark text tokens := by
  intro rest hrest
  have hbetween : Mode.between.IsProper mark := trivial
  exact Token.scan_append hmark hbetween h hrest

theorem word {text : String} (h : IsWord text) : Written mark text [.word text] := by
  intro rest hrest
  obtain ⟨hne, hword⟩ := h
  cases htext : text.toList with
  | nil => exact absurd (String.toList_eq_nil_iff.mp htext) hne
  | cons c cs =>
    rw [htext, List.all_eq_true] at hword
    have hfirst := hword c (List.mem_cons_self ..)
    have hlater := fun d hd => hword d (List.mem_cons_of_mem c hd)
    rw [List.cons_append, Token.scan_start (Token.start_word hfirst),
      Token.scan_word hlater hrest, Option.map_map]
    have hall : String.ofList ([c].reverse ++ cs) = text := by
      rw [List.reverse_singleton, List.singleton_append, ← htext, String.ofList_toList]
    rw [hall]
    rfl

theorem name (hmark : IsMark mark) (name : String) :
    Written mark (Text.quote mark name) [.name name] := by
  intro rest hrest
  have hnext := hrest.head?_ne hmark.1
  simp only [Text.quote, String.toList_ofList, Text.Quoted.encode, List.cons_append,
    List.append_assoc, List.nil_append]
  rw [Token.scan_start (Token.start_name hmark), Token.scan_quoted hnext, Option.map_map]
  simp [hmark.2.2, Function.comp_def]

theorem literal (text : String) : Written mark (Text.literal text) [.literal text] := by
  intro rest hrest
  have hnext := hrest.head?_ne (c := '\'') rfl
  simp only [Text.literal, Text.quote, String.toList_ofList, Text.Quoted.encode, List.cons_append,
    List.append_assoc, List.nil_append]
  rw [Token.scan_start Token.start_literal, Token.scan_quoted hnext, Option.map_map]
  simp [Function.comp_def]

/-- Texts with a separator between each two. -/
theorem intercalate {sep : String} {signs : List Token} (hsep : Separates mark sep signs)
    {texts : List String} {tss : List (List Token)} (h : List.Forall₂ (Written mark) texts tss) :
    Written mark (sep.intercalate texts) (signs.intercalate tss) := by
  induction h with
  | nil => simpa using empty
  | cons hfirst hrest ih =>
    cases hrest with
    | nil => simpa using hfirst
    | cons hsecond hlater =>
      rw [String.intercalate_cons_cons, List.intercalate_cons_cons]
      exact hfirst.joined hsep ih

theorem commaList {texts : List String} {tss : List (List Token)}
    (h : List.Forall₂ (Written mark) texts tss) :
    Written mark (Text.commaList texts) ([.sign ','].intercalate tss) :=
  intercalate Separates.comma h

theorem clauseList {texts : List String} {tss : List (List Token)}
    (h : List.Forall₂ (Written mark) texts tss) :
    Written mark (Text.clauseList texts) ([.sign ','].intercalate tss) :=
  intercalate Separates.commaBlank h

theorem breaks_parenthesized (content : String) (rest : List Char) :
    Breaks ((Text.parenthesized content).toList ++ rest) := by
  have htext : (Text.parenthesized content).toList = '(' :: (content.toList ++ [')']) := by
    simp [Text.parenthesized]
  rw [htext]
  exact Token.Breaks.cons rfl _

theorem parenthesized {content : String} {tokens : List Token} (h : Written mark content tokens) :
    Written mark (Text.parenthesized content) (.sign '(' :: (tokens ++ [.sign ')'])) := by
  have hopen : Separates mark "(" [.sign '('] := Separates.sign rfl rfl
  have hclose : Separates mark ")" [.sign ')'] := Separates.sign rfl rfl
  have hcontent := h.append (of_separates hclose) hclose.breaks
  rw [Text.parenthesized, String.append_assoc]
  exact separated hopen hcontent

/-- A parenthesis may stand right behind a name. -/
theorem applied {name content : String} {ts us : List Token} (hname : Written mark name ts)
    (h : Written mark content us) :
    Written mark (Text.applied name content) (ts ++ .sign '(' :: (us ++ [.sign ')'])) :=
  hname.append h.parenthesized (breaks_parenthesized content)

end Written

/-- The texts are read as the tokens when they stand in a phrase. -/
def Phrased (mark : Char) (texts : List String) (tokens : List Token) : Prop :=
  ∃ tss : List (List Token), List.Forall₂ (Written mark) texts tss ∧ tss.flatten = tokens

namespace Phrased

variable {mark : Char}

theorem nil : Phrased mark [] [] := ⟨[], .nil, rfl⟩

theorem cons {text : String} {texts : List String} {ts us : List Token} (h : Written mark text ts)
    (hrest : Phrased mark texts us) : Phrased mark (text :: texts) (ts ++ us) := by
  obtain ⟨tss, hall, rfl⟩ := hrest
  exact ⟨ts :: tss, .cons h hall, rfl⟩

theorem single {text : String} {tokens : List Token} (h : Written mark text tokens) :
    Phrased mark [text] tokens :=
  ⟨[tokens], .cons h .nil, List.append_nil tokens⟩

theorem append {texts others : List String} {ts us : List Token} (h : Phrased mark texts ts)
    (hothers : Phrased mark others us) : Phrased mark (texts ++ others) (ts ++ us) := by
  obtain ⟨tss, hall, rfl⟩ := h
  obtain ⟨uss, hall', rfl⟩ := hothers
  exact ⟨tss ++ uss, List.rel_append hall hall', List.flatten_append⟩

theorem words {texts : List String} (h : ∀ text ∈ texts, IsWord text) :
    Phrased mark texts (texts.map .word) := by
  induction texts with
  | nil => exact nil
  | cons text texts ih =>
    have hfirst : Written mark text [.word text] := Written.word (h text (List.mem_cons_self ..))
    exact cons hfirst (ih fun other hother => h other (List.mem_cons_of_mem _ hother))

theorem nil_intercalate {α : Type} (xss : List (List α)) :
    ([] : List α).intercalate xss = xss.flatten := by
  induction xss with
  | nil => rfl
  | cons xs rest ih =>
    cases rest with
    | nil => simp
    | cons ys rest =>
      rw [List.intercalate_cons_cons, ih]
      simp

theorem written {texts : List String} {tokens : List Token} (h : Phrased mark texts tokens) :
    Written mark (Text.phrase texts) tokens := by
  obtain ⟨tss, hall, rfl⟩ := h
  have hphrase := Written.intercalate Separates.blank hall
  rwa [nil_intercalate] at hphrase

end Phrased

end SchemaChange
