import SchemaChange.Proofs.NameParts

/-!
Quoted names on the side of the reader. A reader that stops at the first mark that is not doubled
finds a name, with something behind it, exactly where the name was quoted and what is behind it does
not begin with a mark. So unquoting takes what quoting produces and nothing else, and it does the
same as taking a mark off either end and one off every pair in between: a single mark has two ends
but is not two marks, and of three marks the one in between has no other. The quoted components of a
name are told apart in the same way, so that the name can be told from them, even if the mark is a
dot like those between the components.
-/
namespace SchemaChange.Text

namespace Quoted

variable {mark : Char} {name rest : List Char}

/-- What has been read stands doubled in front of a mark that is not doubled itself. -/
theorem eq_of_readBody {body : List Char} (h : readBody mark body = some (name, rest)) :
    body = double mark name ++ mark :: rest ∧ rest.head? ≠ some mark := by
  fun_induction readBody mark body generalizing name with
  | case1 => cases h
  | case2 =>
    obtain ⟨rfl, rfl⟩ := Prod.mk.inj (Option.some.inj h)
    exact ⟨rfl, by simp⟩
  | case3 => cases h
  | case4 behind ih =>
    obtain ⟨⟨later, rest'⟩, hread, heq⟩ := Option.map_eq_some_iff.mp h
    obtain ⟨rfl, rfl⟩ := Prod.mk.inj heq
    obtain ⟨hbehind, hrest⟩ := ih hread
    rw [double, if_pos rfl, hbehind]
    exact ⟨rfl, hrest⟩
  | case5 d behind hd =>
    obtain ⟨rfl, rfl⟩ := Prod.mk.inj (Option.some.inj h)
    exact ⟨rfl, by simpa using hd⟩
  | case6 c d behind hc ih =>
    obtain ⟨⟨later, rest'⟩, hread, heq⟩ := Option.map_eq_some_iff.mp h
    obtain ⟨rfl, rfl⟩ := Prod.mk.inj heq
    obtain ⟨hbehind, hrest⟩ := ih hread
    rw [double, if_neg hc, hbehind]
    exact ⟨rfl, hrest⟩

theorem read_eq_some_iff {text : List Char} :
    read mark text = some (name, rest) ↔
      text = encode mark name ++ rest ∧ rest.head? ≠ some mark := by
  constructor
  · intro h
    cases text with
    | nil => cases h
    | cons c body =>
      obtain ⟨rfl, hbody⟩ := Option.ite_none_right_eq_some.mp h
      obtain ⟨heq, hrest⟩ := eq_of_readBody hbody
      rw [heq, encode, List.cons_append, List.append_assoc]
      exact ⟨rfl, hrest⟩
  · rintro ⟨rfl, hrest⟩
    exact read_encode mark name rest hrest

theorem decode_eq_some_iff {quoted : List Char} :
    decode mark quoted = some name ↔ quoted = encode mark name := by
  constructor
  · intro h
    unfold decode at h
    split at h
    · next found hread =>
      cases h
      rw [(read_eq_some_iff.mp hread).1, List.append_nil]
    · cases h
  · rintro rfl
    exact decode_encode mark name

/-- What is left when a mark is taken off the beginning and then one off the end. -/
def strip (mark : Char) (quoted : List Char) : Option (List Char) :=
  (quoted.dropPrefix? [mark]).bind fun rest => rest.dropSuffix? [mark]

/-- The text with one mark for each pair of marks, unless a mark has no other behind it. -/
def undouble (mark : Char) : List Char → Option (List Char)
  | [] => some []
  | [c] => if c = mark then none else some [c]
  | c :: d :: rest =>
    if c = mark then
      if d = mark then (undouble mark rest).map (mark :: ·) else none
    else (undouble mark (d :: rest)).map (c :: ·)

theorem strip_eq_some_iff {quoted inner : List Char} :
    strip mark quoted = some inner ↔ quoted = mark :: (inner ++ [mark]) := by
  simp [strip, Option.bind_eq_some_iff, List.dropPrefix?_eq_some_iff,
    List.dropSuffix?_eq_some_iff]

theorem eq_of_undouble {inner : List Char} (h : undouble mark inner = some name) :
    inner = double mark name := by
  fun_induction undouble mark inner generalizing name with
  | case1 =>
    cases h
    rfl
  | case2 => cases h
  | case3 c hc =>
    cases h
    rw [double, if_neg hc, double]
  | case4 rest ih =>
    obtain ⟨later, hlater, rfl⟩ := Option.map_eq_some_iff.mp h
    rw [double, if_pos rfl, ih hlater]
  | case5 => cases h
  | case6 c d rest hc ih =>
    obtain ⟨later, hlater, rfl⟩ := Option.map_eq_some_iff.mp h
    rw [double, if_neg hc, ih hlater]

theorem undouble_double (mark : Char) (name : List Char) :
    undouble mark (double mark name) = some name := by
  induction name with
  | nil => rfl
  | cons c name ih =>
    by_cases hc : c = mark
    · subst hc
      simp [double, undouble, ih]
    · rw [double, if_neg hc]
      cases hdouble : double mark name with
      | nil =>
        rw [hdouble] at ih
        cases ih
        simp [undouble, hc]
      | cons d inner =>
        rw [hdouble] at ih
        simp [undouble, hc, ih]

/-- Reading to the end and pairing the marks in between are two ways to unquote. -/
theorem decode_eq_undouble_strip (mark : Char) (quoted : List Char) :
    decode mark quoted = (strip mark quoted).bind (undouble mark) := by
  ext name
  rw [decode_eq_some_iff, Option.bind_eq_some_iff]
  constructor
  · rintro rfl
    exact ⟨double mark name, strip_eq_some_iff.mpr rfl, undouble_double mark name⟩
  · rintro ⟨inner, hstrip, hundouble⟩
    rw [strip_eq_some_iff.mp hstrip, eq_of_undouble hundouble]
    rfl

theorem double_of_not_mem (h : mark ∉ name) : double mark name = name := by
  induction name with
  | nil => rfl
  | cons c name ih =>
    obtain ⟨hc, hname⟩ := List.ne_and_not_mem_of_not_mem_cons h
    rw [double, if_neg hc.symm, ih hname]

/-- A component ends where its quotation does. A dot that is the mark itself is in no component, so
that the first one behind the beginning is the end. -/
theorem encode_append_inj {other after : List Char} (hname : '.' ∉ name) (hother : '.' ∉ other)
    (hrest : ∀ c, rest.head? = some c → c = '.') (hafter : ∀ c, after.head? = some c → c = '.')
    (h : encode mark name ++ rest = encode mark other ++ after) : name = other ∧ rest = after := by
  by_cases hmark : mark = '.'
  · subst hmark
    simp only [encode, double_of_not_mem hname, double_of_not_mem hother, List.cons_append,
      List.append_assoc, List.nil_append, List.cons.injEq, true_and] at h
    have hlength := congrArg (List.idxOf '.') h
    rw [List.idxOf_append_of_notMem hname, List.idxOf_append_of_notMem hother,
      List.idxOf_cons_self, List.idxOf_cons_self] at hlength
    obtain ⟨heq, hbehind⟩ := List.append_inj h hlength
    exact ⟨heq, (List.cons.inj hbehind).2⟩
  · have hread := read_encode mark name rest fun hhead => hmark (hrest mark hhead)
    rw [h, read_encode mark other after fun hhead => hmark (hafter mark hhead)] at hread
    obtain ⟨heq, hbehind⟩ := Prod.mk.inj (Option.some.inj hread)
    exact ⟨heq.symm, hbehind.symm⟩

/-- The quoted parts, each behind a dot. -/
def behindDots (mark : Char) (parts : List (List Char)) : List Char :=
  parts.flatMap fun part => '.' :: encode mark part

theorem eq_dot_of_head?_behindDots {parts : List (List Char)} (c : Char)
    (h : (behindDots mark parts).head? = some c) : c = '.' := by
  cases parts with
  | nil => cases h
  | cons part parts => exact (Option.some.inj h).symm

theorem behindDots_inj {parts others : List (List Char)} (hparts : ∀ part ∈ parts, '.' ∉ part)
    (hothers : ∀ part ∈ others, '.' ∉ part)
    (h : behindDots mark parts = behindDots mark others) : parts = others := by
  induction parts generalizing others with
  | nil =>
    cases others with
    | nil => rfl
    | cons other others => cases h
  | cons part parts ih =>
    cases others with
    | nil => cases h
    | cons other others =>
      have hcut : encode mark part ++ behindDots mark parts =
          encode mark other ++ behindDots mark others := (List.cons.inj h).2
      obtain ⟨hpart, hlater⟩ := List.forall_mem_cons.mp hparts
      obtain ⟨hother, hlater'⟩ := List.forall_mem_cons.mp hothers
      obtain ⟨rfl, hrest⟩ := encode_append_inj hpart hother eq_dot_of_head?_behindDots
        eq_dot_of_head?_behindDots hcut
      rw [ih hlater hlater' hrest]

theorem dot_cons_intercalate (mark : Char) {parts : List (List Char)} (h : parts ≠ []) :
    '.' :: ['.'].intercalate (parts.map (encode mark)) = behindDots mark parts := by
  induction parts with
  | nil => exact absurd rfl h
  | cons part parts ih =>
    cases parts with
    | nil => simp [behindDots]
    | cons other parts =>
      have hlater := ih (List.cons_ne_nil _ _)
      rw [List.map_cons] at hlater
      rw [List.map_cons, List.map_cons, List.intercalate_cons_cons, List.append_assoc,
        List.singleton_append, hlater]
      rfl

end Quoted

theorem unquote_eq_some_iff {mark : Char} {quoted name : String} :
    unquote mark quoted = some name ↔ quoted = quote mark name := by
  rw [unquote, quote, Option.map_eq_some_iff]
  constructor
  · rintro ⟨chars, hchars, rfl⟩
    rw [String.toList_ofList, ← Quoted.decode_eq_some_iff.mp hchars, String.ofList_toList]
  · rintro rfl
    exact ⟨name.toList, by rw [String.toList_ofList, Quoted.decode_encode], String.ofList_toList⟩

theorem QualifiedName.quote_injective (mark : Char) :
    Function.Injective (QualifiedName.quote mark) := by
  have hquote (name : String) : '.' :: (QualifiedName.quote mark name).toList =
      Quoted.behindDots mark (name.toList.splitOn '.') := by
    rw [← Quoted.dot_cons_intercalate mark (List.splitOn_ne_nil '.' name.toList)]
    simp [QualifiedName.quote, components, Text.quote, Function.comp_def]
  intro name other h
  have hbehind : Quoted.behindDots mark (name.toList.splitOn '.') =
      Quoted.behindDots mark (other.toList.splitOn '.') := by
    rw [← hquote, ← hquote, h]
  have hparts := Quoted.behindDots_inj (fun _ => not_mem_of_mem_splitOn)
    (fun _ => not_mem_of_mem_splitOn) hbehind
  have hjoined := congrArg (['.'].intercalate ·) hparts
  simp only [List.intercalate_splitOn] at hjoined
  exact String.toList_injective hjoined

/-- Unquoting gives a name back for its quotation alone, and nothing for a text that is none; it is
taking a mark off either end and pairing the others. Reading from the mark at the beginning finds a
name in front of a rest exactly in its quotation, followed by a rest that does not begin with a mark.
Different names are quoted differently by their components too. -/
theorem unquoting_reverses_quoting (mark : Char) :
    (∀ quoted name, unquote mark quoted = some name ↔ quoted = quote mark name) ∧
      (∀ quoted, unquote mark quoted = none ↔ quoted ∉ Set.range (quote mark)) ∧
      (∀ quoted, unquote mark quoted =
        ((Quoted.strip mark quoted.toList).bind (Quoted.undouble mark)).map String.ofList) ∧
      (∀ text name rest : String,
        Quoted.read mark text.toList = some (name.toList, rest.toList) ↔
          text = quote mark name ++ rest ∧ rest.toList.head? ≠ some mark) ∧
      Function.Injective (QualifiedName.quote mark) := by
  refine ⟨fun quoted name => unquote_eq_some_iff, fun quoted => ?_, fun quoted => ?_,
    fun text name rest => ?_, QualifiedName.quote_injective mark⟩
  · rw [Option.eq_none_iff_forall_ne_some]
    simp only [ne_eq, unquote_eq_some_iff, Set.mem_range, not_exists, eq_comm (a := quoted)]
  · rw [unquote, Quoted.decode_eq_undouble_strip]
  · have htext : text = quote mark name ++ rest ↔
        text.toList = Quoted.encode mark name.toList ++ rest.toList := by
      rw [← String.toList_inj, String.toList_append, quote, String.toList_ofList]
    rw [htext, Quoted.read_eq_some_iff]

/-- One mark and three marks are no quotations; two and four are. -/
example :
    ["`", "``", "```", "````"].map (unquote '`') = [none, some "", none, some "`"] := by
  decide

end SchemaChange.Text
