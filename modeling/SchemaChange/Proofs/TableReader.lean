import Std.Data.String.ToNat
import SchemaChange.Proofs.Success
import SchemaChange.Proofs.TableTokens

/-!
A reader of tables. It takes the statement that creates a table apart into its clauses, which stand
in parentheses and have commas between them, and tells from each clause which column it defines or
which columns it makes the key or indexes. It knows nothing of the table that a statement was
written for. What stands behind the closing parenthesis is left alone, whatever it is.
-/
namespace SchemaChange

namespace Token

/-- The tokens in front of the first place where no token can begin. -/
def front (mark : Char) : Mode → List Char → List Token
  | mode, [] => mode.flush.getD []
  | mode, c :: rest =>
    match step mark mode c with
    | some (found, next) => found ++ front mark next rest
    | none => []

/-- What separates tokens can stand behind any token that has ended. -/
theorem exists_start {c : Char} (h : separates c = true) (mark : Char) :
    ∃ begun next, start mark c = some (begun, next) := by
  unfold start
  by_cases hblank : c.isWhitespace = true
  · exact ⟨_, _, if_pos hblank⟩
  · have hsign : isPunctuation c = true := by
      rcases Bool.or_eq_true .. |>.mp h with hblank' | hsign
      · exact absurd hblank' hblank
      · exact hsign
    rw [if_neg hblank, if_pos hsign]
    exact ⟨_, _, rfl⟩

/-- What is read by itself is also in front of something new, even if that cannot be read. -/
theorem front_append {mark : Char} (hmark : IsMark mark) {mode : Mode} (hmode : mode.IsProper mark)
    {text rest : List Char} {tokens : List Token} (h : scan mark mode text = some tokens)
    (hrest : Breaks rest) :
    front mark mode (text ++ rest) = tokens ++ front mark .between rest := by
  have hempty : Mode.between.flush = some [] := rfl
  induction text generalizing mode tokens with
  | nil =>
    have hended : mode.flush = some tokens := h
    cases rest with
    | nil => simp [front, hended, hempty]
    | cons c rest =>
      have hc := hrest c rfl
      obtain ⟨begun, next, hstart⟩ := exists_start hc mark
      have hnone : mode.continue? c = none := continue?_eq_none hmark hmode hended hc
      have hbetween : Mode.between.continue? c = none := rfl
      simp [front, step, hnone, hended, hbetween, hempty, hstart]
  | cons c text ih =>
    obtain ⟨⟨found, next⟩, hstep, hscan⟩ := Option.bind_eq_some_iff.mp h
    obtain ⟨later, hlater, heq⟩ := Option.bind_eq_some_iff.mp hscan
    cases heq
    rw [List.cons_append, front, hstep]
    dsimp only
    rw [ih (isProper_step hmode hstep) hlater, List.append_assoc]

end Token

theorem Written.front_eq {mark : Char} (hmark : Token.IsMark mark) {text : String}
    {tokens : List Token} (h : Written mark text tokens) {rest : List Char}
    (hrest : Token.Breaks rest) :
    Token.front mark .between (text.toList ++ rest) =
      tokens ++ Token.front mark .between rest := by
  have hbetween : Token.Mode.between.IsProper mark := trivial
  exact Token.front_append hmark hbetween h.read_eq hrest

/-- What stands behind the first opening parenthesis. -/
def behindParenthesis : List Token → Option (List Token)
  | [] => none
  | t :: rest => if t = .sign '(' then some rest else behindParenthesis rest

theorem behindParenthesis_append {before : List Token} (h : .sign '(' ∉ before)
    (rest : List Token) : behindParenthesis (before ++ .sign '(' :: rest) = some rest := by
  induction before with
  | nil => rfl
  | cons t before ih =>
    have ht : t ≠ .sign '(' := fun heq => h (heq ▸ List.mem_cons_self ..)
    rw [List.cons_append, behindParenthesis, if_neg ht]
    exact ih fun hmem => h (List.mem_cons_of_mem _ hmem)

/-- The clauses up to the parenthesis that closes them. A comma in parentheses of its own does not
end the clause, of which `clause` has been read. -/
def splitClauses : Nat → List Token → List Token → Option (List (List Token))
  | _, _, [] => none
  | depth, clause, t :: rest =>
    if t = .sign '(' then splitClauses (depth + 1) (clause ++ [t]) rest
    else if t = .sign ')' then
      match depth with
      | 0 => some [clause]
      | depth + 1 => splitClauses depth (clause ++ [t]) rest
    else if t = .sign ',' ∧ depth = 0 then (splitClauses 0 [] rest).map (clause :: ·)
    else splitClauses depth (clause ++ [t]) rest

def IsParenthesis (t : Token) : Prop := t = .sign '(' ∨ t = .sign ')'

/-- The tokens belong to one clause: their parentheses are closed, and commas stand only in them.
-/
inductive Enclosed : List Token → Prop
  | nil : Enclosed []
  | cons {t : Token} {rest : List Token} (hparenthesis : ¬ IsParenthesis t)
      (hcomma : t ≠ .sign ',') (hrest : Enclosed rest) : Enclosed (t :: rest)
  | group {inner rest : List Token} (hinner : ∀ t ∈ inner, ¬ IsParenthesis t)
      (hrest : Enclosed rest) : Enclosed (inParentheses inner ++ rest)

namespace Enclosed

theorem append {ts us : List Token} (h : Enclosed ts) (h' : Enclosed us) : Enclosed (ts ++ us) := by
  induction h with
  | nil => exact h'
  | cons hparenthesis hcomma hrest ih => exact .cons hparenthesis hcomma ih
  | group hinner hrest ih =>
    rw [List.append_assoc]
    exact .group hinner ih

theorem singleton {t : Token} (hparenthesis : ¬ IsParenthesis t) (hcomma : t ≠ .sign ',') :
    Enclosed [t] :=
  .cons hparenthesis hcomma .nil

theorem keywords (texts : List String) : Enclosed (keywords texts) := by
  induction texts with
  | nil => exact .nil
  | cons text texts ih => exact .cons (by simp [IsParenthesis]) nofun ih

theorem parentheses {inner : List Token} (h : ∀ t ∈ inner, ¬ IsParenthesis t) :
    Enclosed (inParentheses inner) := by
  have hgroup := Enclosed.group h .nil
  rwa [List.append_nil] at hgroup

end Enclosed

theorem splitClauses_group {inner : List Token} (h : ∀ t ∈ inner, ¬ IsParenthesis t)
    (clause rest : List Token) :
    splitClauses 1 clause (inner ++ .sign ')' :: rest) =
      splitClauses 0 (clause ++ inner ++ [.sign ')']) rest := by
  induction inner generalizing clause with
  | nil => simp [splitClauses]
  | cons t inner ih =>
    have ht : ¬ (t = .sign '(' ∨ t = .sign ')') := h t (List.mem_cons_self ..)
    obtain ⟨hopen, hclose⟩ := not_or.mp ht
    have hcomma : ¬ (t = .sign ',' ∧ 1 = 0) := fun hboth => nomatch hboth.2
    rw [List.cons_append, splitClauses, if_neg hopen, if_neg hclose, if_neg hcomma,
      ih fun other hother => h other (List.mem_cons_of_mem _ hother)]
    simp

/-- The tokens of a clause are read into it. -/
theorem splitClauses_enclosed {tokens : List Token} (h : Enclosed tokens)
    (clause rest : List Token) :
    splitClauses 0 clause (tokens ++ rest) = splitClauses 0 (clause ++ tokens) rest := by
  induction h generalizing clause with
  | nil => simp
  | @cons t tokens hparenthesis hcomma hrest ih =>
    obtain ⟨hopen, hclose⟩ := not_or.mp hparenthesis
    have hends : ¬ (t = .sign ',' ∧ 0 = 0) := fun hboth => hcomma hboth.1
    rw [List.cons_append, splitClauses, if_neg hopen, if_neg hclose, if_neg hends, ih]
    simp
  | @group inner tokens hinner hrest ih =>
    have hgroup : inParentheses inner ++ tokens ++ rest =
        .sign '(' :: (inner ++ .sign ')' :: (tokens ++ rest)) := by
      simp [inParentheses]
    rw [hgroup, splitClauses, if_pos rfl, splitClauses_group hinner, ih]
    simp [inParentheses]

/-- Clauses between commas are told apart. -/
theorem splitClauses_listed {clauses : List (List Token)} (hne : clauses ≠ [])
    (h : ∀ clause ∈ clauses, Enclosed clause) (rest : List Token) :
    splitClauses 0 [] (listed clauses ++ .sign ')' :: rest) = some clauses := by
  induction clauses with
  | nil => exact absurd rfl hne
  | cons clause clauses ih =>
    have hclause := h clause (List.mem_cons_self ..)
    cases clauses with
    | nil =>
      have hend : splitClauses 0 clause (.sign ')' :: rest) = some [clause] := by
        simp [splitClauses]
      rw [listed, List.intercalate_singleton, splitClauses_enclosed hclause]
      exact hend
    | cons other clauses =>
      have hcomma : ∀ later, splitClauses 0 clause (.sign ',' :: later) =
          (splitClauses 0 [] later).map (clause :: ·) := by
        intro later
        simp [splitClauses]
      have hrest := ih (List.cons_ne_nil _ _) fun later hlater =>
        h later (List.mem_cons_of_mem _ hlater)
      rw [listed, List.intercalate_cons_cons, List.append_assoc, List.append_assoc,
        splitClauses_enclosed hclause, List.nil_append, List.singleton_append, hcomma]
      exact congrArg (Option.map (clause :: ·)) hrest

/-- What the definition of a column says. -/
structure ColumnReading where
  name : String
  type : String
  limit? : Option Nat := none
  nullable : Bool := true
  isKey : Bool := false
  counts : Bool := false
  default? : Option String := none
deriving DecidableEq, Repr

/-- The length behind a type, if there is one, and what follows. -/
def readLimit : List Token → Option (Option Nat × List Token)
  | .sign '(' :: .word digits :: .sign ')' :: rest => digits.toNat?.map fun n => (some n, rest)
  | rest => some (none, rest)

/-- What stands behind the type of a column, in any order. -/
def readAttributes : ColumnReading → List Token → Option ColumnReading
  | column, [] => some column
  | column, .word "NULL" :: rest => readAttributes { column with nullable := true } rest
  | column, .word "NOT" :: .word "NULL" :: rest =>
    readAttributes { column with nullable := false } rest
  | column, .word "PRIMARY" :: .word "KEY" :: rest =>
    readAttributes { column with isKey := true } rest
  | column, .word "AUTO_INCREMENT" :: rest => readAttributes { column with counts := true } rest
  | column, .word "AUTOINCREMENT" :: rest => readAttributes { column with counts := true } rest
  | column, .word "DEFAULT" :: .literal text :: rest =>
    readAttributes { column with default? := some text } rest
  | _, _ => none

def readColumn : List Token → Option ColumnReading
  | .name name :: .word type :: rest => do
    let (limit?, rest) ← readLimit rest
    readAttributes { name, type, limit? } rest
  | _ => none

/-- Names with commas between them, up to a parenthesis that ends everything. -/
def readNames : List Token → Option (List String)
  | [.name name, .sign ')'] => some [name]
  | .name name :: .sign ',' :: rest => (readNames rest).map (name :: ·)
  | _ => none

theorem readNames_nameList {names : List String} (h : names ≠ []) :
    readNames (nameList names ++ [.sign ')']) = some names := by
  induction names with
  | nil => exact absurd rfl h
  | cons name names ih =>
    cases names with
    | nil => rfl
    | cons other names =>
      have hcons : nameList (name :: other :: names) =
          .name name :: .sign ',' :: nameList (other :: names) := by
        simp [nameList, listed]
      rw [hcons, List.cons_append, List.cons_append, readNames, ih (List.cons_ne_nil _ _)]
      rfl

/-- What is between two separators is a separator or comes from one of the lists. -/
theorem mem_or_mem_of_mem_intercalate {α : Type} {sep : List α} {xss : List (List α)} {x : α}
    (h : x ∈ sep.intercalate xss) : x ∈ sep ∨ ∃ xs ∈ xss, x ∈ xs := by
  induction xss with
  | nil => cases h
  | cons xs xss ih =>
    cases xss with
    | nil =>
      rw [List.intercalate_singleton] at h
      exact Or.inr ⟨xs, List.mem_cons_self .., h⟩
    | cons ys xss =>
      rw [List.intercalate_cons_cons, List.append_assoc] at h
      rcases List.mem_append.mp h with h | h
      · exact Or.inr ⟨xs, List.mem_cons_self .., h⟩
      · rcases List.mem_append.mp h with h | h
        · exact Or.inl h
        · rcases ih h with h | ⟨zs, hzs, h⟩
          · exact Or.inl h
          · exact Or.inr ⟨zs, List.mem_cons_of_mem _ hzs, h⟩

/-- Between names there are signs and nothing else. -/
theorem mem_names {c : Char} {names : List String} {t : Token}
    (h : t ∈ [.sign c].intercalate (names.map fun name => [.name name])) :
    t = .sign c ∨ ∃ name ∈ names, t = .name name := by
  rcases mem_or_mem_of_mem_intercalate h with h | ⟨ts, hts, h⟩
  · exact Or.inl (List.mem_singleton.mp h)
  · obtain ⟨name, hname, rfl⟩ := List.mem_map.mp hts
    exact Or.inr ⟨name, hname, List.mem_singleton.mp h⟩

theorem not_isParenthesis_of_mem_names {c : Char} (hc : ¬ IsParenthesis (.sign c))
    {names : List String} {t : Token}
    (h : t ∈ [.sign c].intercalate (names.map fun name => [.name name])) : ¬ IsParenthesis t := by
  rcases mem_names h with rfl | ⟨name, -, rfl⟩
  · exact hc
  · simp [IsParenthesis]

theorem not_isParenthesis_of_mem_nameList {names : List String} {t : Token}
    (h : t ∈ nameList names) : ¬ IsParenthesis t :=
  not_isParenthesis_of_mem_names (by simp [IsParenthesis]) h

theorem not_mem_tableNameTokens (table : String) : .sign '(' ∉ tableNameTokens table := by
  intro h
  have hnot := not_isParenthesis_of_mem_names (by simp [IsParenthesis]) h
  exact hnot (Or.inl rfl)

inductive TableClause where
  | column (definition : ColumnReading)
  | key (names : List String)
  | index (names : List String)
  | unique (names : List String)
deriving DecidableEq, Repr

namespace TableClause

def read : List Token → Option TableClause
  | .word "PRIMARY" :: .word "KEY" :: .sign '(' :: rest => (readNames rest).map key
  | .word "INDEX" :: .sign '(' :: rest => (readNames rest).map index
  | .word "UNIQUE" :: .sign '(' :: rest => (readNames rest).map unique
  | tokens => (readColumn tokens).map column

def columns : TableClause → List ColumnReading
  | .column definition => [definition]
  | _ => []

/-- The columns of the key that the clause declares. -/
def keyColumns : TableClause → List String
  | .column definition => if definition.isKey then [definition.name] else []
  | .key names => names
  | _ => []

def indexColumns : TableClause → List String
  | .index names => names
  | _ => []

def uniqueColumns : TableClause → List String
  | .unique names => names
  | _ => []

end TableClause

/-- Parentheses with nothing in them have no clause. -/
def readClauses (tokens : List Token) : Option (List TableClause) := do
  let clauses ← splitClauses 0 [] tokens
  if clauses = [[]] then return [] else clauses.mapM TableClause.read

/-- The clauses of a statement that creates a table. -/
def readTable : List Token → Option (List TableClause)
  | .word "CREATE" :: .word "TABLE" :: rest => (behindParenthesis rest).bind readClauses
  | _ => none

/-- The columns of an index that is created by a statement of its own. -/
def readIndex : List Token → Option (List String)
  | .word "CREATE" :: .word "INDEX" :: rest => (behindParenthesis rest).bind readNames
  | _ => none

/-- What the statements that create a table and its indexes say. -/
structure TableReading where
  clauses : List TableClause
  created : List (List String) := []
deriving DecidableEq, Repr

namespace TableReading

def read (mark : Char) : List String → Option TableReading
  | [] => none
  | create :: indexes => do
    let clauses ← readTable (Token.front mark .between create.toList)
    let created ← indexes.mapM fun index => (Token.read mark index).bind readIndex
    return { clauses, created }

theorem read_cons {mark : Char} {create : String} {indexes : List String}
    {clauses : List TableClause} {created : List (List String)}
    (hcreate : readTable (Token.front mark .between create.toList) = some clauses)
    (hindexes : indexes.mapM (fun index => (Token.read mark index).bind readIndex) = some created) :
    read mark (create :: indexes) = some ⟨clauses, created⟩ := by
  rw [read, hcreate, hindexes]
  rfl

variable (r : TableReading)

def columns : List ColumnReading := r.clauses.flatMap TableClause.columns

/-- The columns of the key, declared with a column or in a clause. -/
def key : List String := r.clauses.flatMap TableClause.keyColumns

def unique : List String := r.clauses.flatMap TableClause.uniqueColumns

/-- The columns of the clause for indexes. -/
def indexClause : List String := r.clauses.flatMap TableClause.indexColumns

end TableReading

end SchemaChange
