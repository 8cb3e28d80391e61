import SchemaChange.MySql
import SchemaChange.Proofs.Success

/-!
What the catalog of MySQL says of a column, and the definition that says it again. A row has the
type of its column in words of its own, whether the column takes null, its default and its extras;
a definition puts them one behind the other. The extras come in capitals and without the mark that
says of the default that it is an expression, because what the mark says shows in how the default
is written.
-/
namespace SchemaChange

namespace Text

theorem intercalate_blank_cons (x : List Char) (xs : List (List Char)) :
    [' '].intercalate (x :: xs) = x ++ xs.flatMap fun y => ' ' :: y := by
  induction xs generalizing x with
  | nil => simp
  | cons y xs ih => simp [ih]

/-- Every part of a phrase but the first stands behind a blank. -/
theorem toList_phrase_cons (part : String) (parts : List String) :
    (phrase (part :: parts)).toList =
      part.toList ++ parts.flatMap fun other => ' ' :: other.toList := by
  rw [toList_phrase, List.map_cons, intercalate_blank_cons, List.flatMap_map]

theorem upper_intercalate (words : List (List Char)) :
    upper ([' '].intercalate words) = [' '].intercalate (words.map upper) := by
  have hblank : upperChar ' ' = [' '] := by decide
  cases words with
  | nil => rfl
  | cons word words =>
    rw [List.map_cons, intercalate_blank_cons, intercalate_blank_cons, upper_append,
      List.flatMap_map]
    simp only [upper, List.flatMap_assoc, List.flatMap_cons, hblank, List.singleton_append]

theorem ne_nil_of_mem_words {s word : List Char} (h : word ∈ words s) : word ≠ [] := by
  obtain ⟨-, hne⟩ := List.mem_filter.mp h
  rintro rfl
  cases hne

end Text

namespace MySql

/-- The default is the current time, of whatever precision. -/
def IsNow (default : String) : Prop :=
  Text.upper default.toList = "CURRENT_TIMESTAMP".toList ∨
    "CURRENT_TIMESTAMP(".toList <+: Text.upper default.toList

/-- The word is the mark of an expression, in whatever case. -/
def MarksExpression (word : List Char) : Prop :=
  word.map Char.toLower = "default_generated".toList

instance (word : List Char) : Decidable (MarksExpression word) :=
  inferInstanceAs (Decidable (_ = _))

/-- What a definition says of a default, beside these extras. -/
inductive StatesDefault (extras : List (List Char)) : Option String → List Char → Prop
  | absent : StatesDefault extras none []
  | now {default : String} (h : IsNow default) :
      StatesDefault extras (some default) (" DEFAULT ".toList ++ default.toList)
  | expression {default : String} (h : ¬ IsNow default)
      (hmark : ∃ word ∈ extras, MarksExpression word) :
      StatesDefault extras (some default) (" DEFAULT (".toList ++ default.toList ++ [')'])
  /-- A literal that is read as the default. -/
  | literal {default : String} {text : List Char} (h : ¬ IsNow default)
      (hmark : ∀ word ∈ extras, ¬ MarksExpression word)
      (hread : Text.Quoted.decode '\'' text = some default.toList) :
      StatesDefault extras (some default) (" DEFAULT ".toList ++ text)

/-- The cells of a row that say what its column is. -/
structure ColumnCells where
  type : String
  null : String
  default? : Option String
  extra? : Option String

namespace ColumnCells

variable (cells : ColumnCells)

structure In (row : Row) : Prop where
  type : row.get "Type" = .ok cells.type
  null : row.get "Null" = .ok cells.null
  default? : row.get "Default" = .ok cells.default?
  extra? : row.get "Extra" = .ok cells.extra?

def extras : List (List Char) := Text.words (cells.extra?.getD "").toList

def nullability : String :=
  if cells.null.toList.map Char.toLower = "yes".toList then " NULL" else " NOT NULL"

/-- The extras but the mark of an expression, each behind a blank. -/
def extraText : List Char :=
  (cells.extras.filter fun word => ¬ MarksExpression word).flatMap fun word =>
    ' ' :: Text.upper word

/-- The definition says what the cells say, in this order and nothing else. -/
def SaidBy (definition : List Char) : Prop :=
  ∃ stated, StatesDefault cells.extras cells.default? stated ∧
    definition = cells.type.toList ++ cells.nullability.toList ++ stated ++ cells.extraText

/-- The column that the cells describe. -/
def listed (name : String) : ListedColumn where
  name := name
  type := cells.type
  nullable := Text.sameAsciiName cells.null "YES"
  default? := cells.default?
  extra := cells.extra?.getD ""

end ColumnCells

theorem decodeColumn_eq_ok_iff {d : MySql} {row : Row} {column : ListedColumn} :
    Catalog.decodeColumn d row = .ok column ↔
      ∃ (name : String) (cells : ColumnCells), row.get "Field" = .ok name ∧ cells.In row ∧
        column = cells.listed name := by
  constructor
  · intro h
    obtain ⟨name, hname, h⟩ := bind_eq_ok_iff.mp h
    obtain ⟨type, htype, h⟩ := bind_eq_ok_iff.mp h
    obtain ⟨null, hnull, h⟩ := bind_eq_ok_iff.mp h
    obtain ⟨default?, hdefault, h⟩ := bind_eq_ok_iff.mp h
    obtain ⟨extra?, hextra, h⟩ := bind_eq_ok_iff.mp h
    exact ⟨name, ⟨type, null, default?, extra?⟩, hname, ⟨htype, hnull, hdefault, hextra⟩,
      (Except.ok.inj h).symm⟩
  · rintro ⟨name, cells, hname, hcells, rfl⟩
    refine bind_eq_ok_iff.mpr ⟨name, hname, bind_eq_ok_iff.mpr ⟨_, hcells.type, ?_⟩⟩
    refine bind_eq_ok_iff.mpr ⟨_, hcells.null, bind_eq_ok_iff.mpr ⟨_, hcells.default?, ?_⟩⟩
    exact bind_eq_ok_iff.mpr ⟨_, hcells.extra?, rfl⟩

theorem isExpressionMark_iff {word : List Char} :
    isExpressionMark word = true ↔ MarksExpression word := by
  rw [isExpressionMark, Text.sameAsciiName, beq_iff_eq, String.toList_ofList]
  rfl

theorem isCurrentTime_iff {default : String} : isCurrentTime default = true ↔ IsNow default := by
  simp only [isCurrentTime, Bool.or_eq_true, beq_iff_eq, List.isPrefixOf_iff_prefix, IsNow]

/-- What a definition says of a default, behind what stands before it. -/
theorem statesDefault_defaultText (extras : List (List Char)) (default : String) :
    StatesDefault extras (some default)
      (" DEFAULT ".toList ++ (defaultText (extras.any isExpressionMark) default).toList) := by
  unfold defaultText
  by_cases hnow : IsNow default
  · rw [if_pos (isCurrentTime_iff.mpr hnow)]
    exact .now hnow
  · rw [if_neg (mt isCurrentTime_iff.mp hnow)]
    by_cases hmark : ∃ word ∈ extras, MarksExpression word
    · have hany : extras.any isExpressionMark = true := by
        simpa only [List.any_eq_true, isExpressionMark_iff] using hmark
      rw [if_pos hany]
      have htext : " DEFAULT ".toList ++ (Text.parenthesized default).toList =
          " DEFAULT (".toList ++ default.toList ++ [')'] := by
        simp [Text.parenthesized]
      rw [htext]
      exact .expression hnow hmark
    · have hany : ¬ extras.any isExpressionMark = true := by
        simpa only [List.any_eq_true, isExpressionMark_iff] using hmark
      rw [if_neg hany]
      refine .literal hnow (fun word hword hmarks => hmark ⟨word, hword, hmarks⟩) ?_
      rw [Text.literal, Text.quote, String.toList_ofList]
      exact Text.Quoted.decode_encode '\'' default.toList

/-- The words that are kept stand at the end, each behind a blank. -/
theorem flatMap_extra {kept : List (List Char)} (h : ∀ word ∈ kept, word ≠ []) :
    ((if ([' '].intercalate kept).isEmpty then []
      else [String.ofList (Text.upper ([' '].intercalate kept))]).flatMap fun part =>
        ' ' :: part.toList) = kept.flatMap fun word => ' ' :: Text.upper word := by
  cases kept with
  | nil => rfl
  | cons word kept =>
    have hne : [' '].intercalate (word :: kept) ≠ [] := by
      rw [Text.intercalate_blank_cons]
      exact List.append_ne_nil_of_left_ne_nil (h word (List.mem_cons_self ..)) _
    rw [if_neg (mt List.isEmpty_iff.mp hne), Text.upper_intercalate, List.map_cons,
      Text.intercalate_blank_cons, List.flatMap_map]
    simp

/-- The definition is put together from what the cells say, extras in parts of one word each. -/
theorem toList_restate (cells : ColumnCells) (name : String) :
    (restate (cells.listed name)).toList =
      cells.type.toList ++
        ' ' :: (if Text.sameAsciiName cells.null "YES" then "NULL" else "NOT NULL").toList ++
        ((match cells.default? with
          | some default => ["DEFAULT", defaultText (cells.extras.any isExpressionMark) default]
          | none => []).flatMap fun part : String => ' ' :: part.toList) ++
        (cells.extras.filter fun word => !isExpressionMark word).flatMap fun word =>
          ' ' :: Text.upper word := by
  have hkept : ∀ word ∈ cells.extras.filter fun word => !isExpressionMark word, word ≠ [] :=
    fun word hword => Text.ne_nil_of_mem_words (List.mem_filter.mp hword).1
  rw [← flatMap_extra hkept, List.append_assoc, ← List.flatMap_append, List.append_assoc]
  exact Text.toList_phrase_cons cells.type _

theorem saidBy_restate (cells : ColumnCells) (name : String) :
    cells.SaidBy (restate (cells.listed name)).toList := by
  have hfilter : (cells.extras.filter fun word => ¬ MarksExpression word) =
      cells.extras.filter fun word => !isExpressionMark word := by
    apply List.filter_congr
    intro word _
    rw [Bool.eq_iff_iff, decide_eq_true_eq, Bool.not_eq_true', ← Bool.not_eq_true,
      isExpressionMark_iff]
  have hyes : (Text.sameAsciiName cells.null "YES" = true) ↔
      cells.null.toList.map Char.toLower = "yes".toList := by
    rw [Text.sameAsciiName, beq_iff_eq]
    rfl
  have hnull : ' ' :: (if Text.sameAsciiName cells.null "YES" then "NULL" else "NOT NULL").toList =
      cells.nullability.toList := by
    rw [ColumnCells.nullability]
    by_cases h : cells.null.toList.map Char.toLower = "yes".toList
    · rw [if_pos h, if_pos (hyes.mpr h)]
      rfl
    · rw [if_neg h, if_neg (mt hyes.mp h)]
      rfl
  rw [toList_restate, hnull, ← hfilter]
  refine ⟨_, ?_, rfl⟩
  cases cells.default? with
  | none => exact .absent
  | some default =>
    have hparts : (["DEFAULT", defaultText (cells.extras.any isExpressionMark) default].flatMap
        fun part => ' ' :: part.toList) =
        " DEFAULT ".toList ++ (defaultText (cells.extras.any isExpressionMark) default).toList := by
      simp
    rw [hparts]
    exact statesDefault_defaultText cells.extras default

end MySql

end SchemaChange
