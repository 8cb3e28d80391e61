import SchemaChange.Proofs.AsciiCase
import SchemaChange.Proofs.ColumnRenaming
import SchemaChange.Proofs.DefaultLiteral

/-!
Defaults that stand bare in a definition. Only a column for times can have the current time for its
default, and then the default is the call of one function, with a precision or without. Any other
default stands in parentheses when the extras mark it as an expression, and as a literal otherwise.
But a default is stated bare as soon as its upper case begins like the call, whatever follows the
parenthesis and whatever the type of the column is; so a definition keeps its default exactly when
none but such calls, on such columns, look like one.
-/
namespace SchemaChange

open BackslashLiteral (Survives)

namespace Text

theorem upperChar_toLower (c : Char) : upperChar c.toLower = upperChar c :=
  forall_toLower (P := fun c d => upperChar d = upperChar c) (fun _ => rfl) (by decide +kernel) c

theorem upper_map_toLower (s : List Char) : upper (s.map Char.toLower) = upper s := by
  simp only [upper, List.flatMap_map, upperChar_toLower]

end Text

namespace MySql

def AreDigits (s : List Char) : Prop := ∀ c ∈ s, c.isDigit = true

/-- Digits in parentheses. -/
def inParentheses (digits : List Char) : List Char := '(' :: (digits ++ [')'])

/-- A type of columns for times, with a precision or without. -/
def IsTimeType (type : String) : Prop :=
  ∃ name ∈ ["timestamp", "datetime"],
    type.toList.map Char.toLower = name.toList ∨
      ∃ digits, digits ≠ [] ∧ AreDigits digits ∧
        type.toList.map Char.toLower = name.toList ++ inParentheses digits

/-- A call of the current time: its name, or its name with any number of digits in parentheses. -/
def IsNowCall (default : String) : Prop :=
  default.toList.map Char.toLower = "current_timestamp".toList ∨
    ∃ digits, AreDigits digits ∧
      default.toList.map Char.toLower = "current_timestamp".toList ++ inParentheses digits

/-- Some word of the extras is the mark of an expression. -/
def MarkedExpression (extra : String) : Prop :=
  ∃ word ∈ Text.words extra.toList, MarksExpression word

/-- How a definition may state the default of a listed column, when literals are read by `read`. A
literal is read to its end and is the default. -/
inductive KeepsDefault (read : List Char → Option (List Char × List Char))
    (listed : ListedColumn) (default : String) : String → Prop
  | now (htype : IsTimeType listed.type) (hcall : IsNowCall default) :
      KeepsDefault read listed default default
  | expression (hmark : MarkedExpression listed.extra) :
      KeepsDefault read listed default (Text.parenthesized default)
  | literal {stated : String} (hmark : ¬ MarkedExpression listed.extra)
      (hread : read stated.toList = some (default.toList, [])) :
      KeepsDefault read listed default stated

theorem IsNowCall.isNow {default : String} (h : IsNowCall default) : IsNow default := by
  unfold IsNow
  rw [← Text.upper_map_toLower]
  rcases h with h | ⟨digits, -, h⟩
  · left
    rw [h]
    decide +kernel
  · right
    have hcall : Text.upper ("current_timestamp".toList ++ ['(']) =
        "CURRENT_TIMESTAMP(".toList := by
      decide +kernel
    rw [h, inParentheses, ← List.singleton_append, ← List.append_assoc, Text.upper_append, hcall]
    exact List.prefix_append ..

theorem IsTimeType.begins {type : String} (h : IsTimeType type) :
    ∃ name ∈ ["timestamp", "datetime"], name.toList <+: type.toList.map Char.toLower := by
  obtain ⟨name, hmem, h | ⟨digits, -, -, h⟩⟩ := h
  · exact ⟨name, hmem, h ▸ List.prefix_rfl⟩
  · exact ⟨name, hmem, h ▸ List.prefix_append ..⟩

/-- What looks like the current time does not begin as a literal does. -/
theorem IsNow.head?_ne {default : String} (h : IsNow default) :
    default.toList.head? ≠ some '\'' := by
  intro hhead
  obtain ⟨rest, hrest⟩ := List.head?_eq_some_iff.mp hhead
  have hupper : Text.upper default.toList = '\'' :: Text.upper rest := by
    rw [hrest]
    rfl
  unfold IsNow at h
  rw [hupper] at h
  rcases h with h | h
  · cases h
  · exact absurd (List.cons_prefix_cons.mp h).1 (by decide)

theorem any_isExpressionMark_iff (extra : String) :
    (Text.words extra.toList).any isExpressionMark = true ↔ MarkedExpression extra := by
  simp only [List.any_eq_true, isExpressionMark_iff, MarkedExpression]

section

variable {read : List Char → Option (List Char × List Char)} {listed : ListedColumn}
  {default stated : String}

/-- A default may stand bare only as a call of the current time. -/
theorem KeepsDefault.of_bare
    (hread : ∀ text value, read text = some value → text.head? = some '\'')
    (hnow : IsNow default) (h : KeepsDefault read listed default stated)
    (hbare : stated = default) : IsTimeType listed.type ∧ IsNowCall default := by
  cases h with
  | now htype hcall => exact ⟨htype, hcall⟩
  | expression hmark =>
    have hlength := congrArg (fun text : String => text.toList.length) hbare
    simp only [Text.parenthesized, String.toList_append, List.length_append] at hlength
    change 1 + default.toList.length + 1 = default.toList.length at hlength
    omega
  | literal hmark hliteral =>
    subst hbare
    exact absurd (hread _ _ hliteral) hnow.head?_ne

theorem keepsDefault_literal_iff (hnow : ¬ IsNow default)
    (hmark : ¬ MarkedExpression listed.extra) :
    KeepsDefault read listed default stated ↔ read stated.toList = some (default.toList, []) := by
  constructor
  · intro h
    cases h with
    | now htype hcall => exact absurd hcall.isNow hnow
    | expression hmarked => exact absurd hmarked hmark
    | literal hmark hliteral => exact hliteral
  · exact .literal hmark

theorem keepsDefault_defaultText_iff
    (hread : ∀ text value, read text = some value → text.head? = some '\'') :
    KeepsDefault read listed default
        (defaultText ((Text.words listed.extra.toList).any isExpressionMark) default) ↔
      (IsNow default → IsTimeType listed.type ∧ IsNowCall default) ∧
        (¬ IsNow default → ¬ MarkedExpression listed.extra →
          read (Text.literal default).toList = some (default.toList, [])) := by
  unfold defaultText
  by_cases hnow : IsNow default
  · rw [if_pos (isCurrentTime_iff.mpr hnow)]
    constructor
    · exact fun h => ⟨fun _ => h.of_bare hread hnow rfl, fun hother => absurd hnow hother⟩
    · rintro ⟨hcall, -⟩
      exact .now (hcall hnow).1 (hcall hnow).2
  · rw [if_neg (mt isCurrentTime_iff.mp hnow)]
    by_cases hmark : MarkedExpression listed.extra
    · rw [if_pos ((any_isExpressionMark_iff _).mpr hmark)]
      have hkept : KeepsDefault read listed default (Text.parenthesized default) :=
        .expression hmark
      simp only [hkept, hnow, hmark, not_true_eq_false, false_implies, implies_true, and_self]
    · rw [if_neg (mt (any_isExpressionMark_iff _).mp hmark), keepsDefault_literal_iff hnow hmark]
      simp only [hnow, hmark, not_false_eq_true, false_implies, true_implies, true_and]

end

/-- A reader that goes on behind an apostrophe alone reads what begins with one. -/
theorem head?_of_read {body : List Char → Option (List Char × List Char)}
    {read : List Char → Option (List Char × List Char)} (hnil : read [] = none)
    (hcons : ∀ c rest, read (c :: rest) = if c = '\'' then body rest else none)
    (text : List Char) (value : List Char × List Char) (h : read text = some value) :
    text.head? = some '\'' := by
  cases text with
  | nil =>
    rw [hnil] at h
    cases h
  | cons c rest =>
    by_cases hc : c = '\''
    · rw [hc, List.head?_cons]
    · rw [hcons, if_neg hc] at h
      cases h

theorem head?_of_read_quoted : ∀ text value, Text.Quoted.read '\'' text = some value →
    text.head? = some '\'' :=
  head?_of_read rfl fun _ _ => rfl

theorem head?_of_read_backslash : ∀ text value, BackslashLiteral.read text = some value →
    text.head? = some '\'' :=
  head?_of_read rfl fun _ _ => rfl

theorem read_quoted_literal (text : String) :
    Text.Quoted.read '\'' (Text.literal text).toList = some (text.toList, []) := by
  have h := Text.Quoted.read_encode '\'' text.toList [] (by simp)
  rw [List.append_nil] at h
  rw [Text.literal, Text.quote, String.toList_ofList, h]

theorem read_backslash_literal_iff (text : String) :
    BackslashLiteral.read (Text.literal text).toList = some (text.toList, []) ↔
      Survives text.toList := by
  have hend : ([] : List Char).head? ≠ some '\'' := by decide
  have h := BackslashLiteral.read_literal_iff text hend
  rwa [List.append_nil] at h

theorem restate_of_default {listed : ListedColumn} {default : String}
    (h : listed.default? = some default) :
    restate listed = restatement listed
      (defaultText ((Text.words listed.extra.toList).any isExpressionMark) default) := by
  unfold restate restatement
  rw [h]

end MySql

open MySql

/-- The new definition of a renamed column has the type, the extras and the default of the listed
one. The default stays what it was exactly when either it is a call of the current time on a column
for times or it does not begin like one; and where backslashes escape in literals, a literal must
survive this besides. -/
theorem default_kept_iff (d : MySql) (table column newName : String) {listed : ListedColumn}
    {default : String} (h : listed.default? = some default) :
    ∃ head stated : String,
      Dialect.renameColumn d table column newName listed =
        head ++ " " ++ restatement listed stated ∧
      Token.read quoteMark head = some (renamingTokens table column newName) ∧
      (KeepsDefault (Text.Quoted.read '\'') listed default stated ↔
        (IsNow default → IsTimeType listed.type ∧ IsNowCall default)) ∧
      (KeepsDefault BackslashLiteral.read listed default stated ↔
        (IsNow default → IsTimeType listed.type ∧ IsNowCall default) ∧
          (¬ IsNow default → ¬ MarkedExpression listed.extra → Survives default.toList)) := by
  obtain ⟨head, hhead, hstatement⟩ := exists_renamingHead table column newName
  let stated := defaultText ((Text.words listed.extra.toList).any isExpressionMark) default
  refine ⟨head, stated, ?_, hhead, ?_, ?_⟩
  · rw [hstatement, restate_of_default h]
  · rw [keepsDefault_defaultText_iff head?_of_read_quoted]
    exact and_iff_left fun _ _ => read_quoted_literal default
  · rw [keepsDefault_defaultText_iff head?_of_read_backslash, read_backslash_literal_iff]

/-- A column for times that holds the current time unless told otherwise. -/
def listedMade : ListedColumn :=
  { name := "made", type := "datetime(3)", default? := some "current_timestamp(3)" }

theorem made_default_kept :
    listedMade.default? = some "current_timestamp(3)" ∧ ∃ head stated : String,
      Dialect.renameColumn ({} : MySql) "t" "made" "born" listedMade =
        head ++ " " ++ restatement listedMade stated ∧
      Token.read quoteMark head = some (renamingTokens "t" "made" "born") ∧
      KeepsDefault BackslashLiteral.read listedMade "current_timestamp(3)" stated := by
  have hdefault : listedMade.default? = some "current_timestamp(3)" := rfl
  have hdigits : AreDigits ['3'] := by simp [AreDigits]
  have htype : IsTimeType listedMade.type :=
    ⟨"datetime", by decide, Or.inr ⟨['3'], by decide, hdigits, by decide⟩⟩
  have hcall : IsNowCall "current_timestamp(3)" := Or.inr ⟨['3'], hdigits, by decide⟩
  obtain ⟨head, stated, hstatement, hhead, -, hkept⟩ :=
    default_kept_iff {} "t" "made" "born" hdefault
  refine ⟨hdefault, head, stated, hstatement, hhead, hkept.mpr ⟨fun _ => ⟨htype, hcall⟩, ?_⟩⟩
  exact fun hother => absurd hcall.isNow hother

/-- A column for texts, with a text for its default. -/
def listedLabel (default : String) : ListedColumn :=
  { name := "label", type := "varchar(20)", default? := some default }

theorem not_keepsDefault_label {default : String} (h : isCurrentTime default = true) :
    ¬ KeepsDefault (Text.Quoted.read '\'') (listedLabel default) default default ∧
      ¬ KeepsDefault BackslashLiteral.read (listedLabel default) default default := by
  have hnow := isCurrentTime_iff.mp h
  have htype : ¬ IsTimeType "varchar(20)" := fun h => absurd h.begins (by decide)
  constructor
  · exact fun h => htype (h.of_bare head?_of_read_quoted hnow rfl).1
  · exact fun h => htype (h.of_bare head?_of_read_backslash hnow rfl).1

/-- A text that is the name of the current time, begins like a call of it, or has the name for its
upper case alone, is stated bare. -/
theorem label_default_not_kept :
    (Dialect.renameColumn ({} : MySql) "t" "label" "tag" (listedLabel "CURRENT_TIMESTAMP") =
        "ALTER TABLE `t` CHANGE COLUMN `label` `tag` varchar(20) NOT NULL " ++
          "DEFAULT CURRENT_TIMESTAMP" ∧
      ¬ KeepsDefault (Text.Quoted.read '\'') (listedLabel "CURRENT_TIMESTAMP")
        "CURRENT_TIMESTAMP" "CURRENT_TIMESTAMP" ∧
      ¬ KeepsDefault BackslashLiteral.read (listedLabel "CURRENT_TIMESTAMP")
        "CURRENT_TIMESTAMP" "CURRENT_TIMESTAMP") ∧
    (Dialect.renameColumn ({} : MySql) "t" "label" "tag" (listedLabel "CURRENT_TIMESTAMP(or so") =
        "ALTER TABLE `t` CHANGE COLUMN `label` `tag` varchar(20) NOT NULL " ++
          "DEFAULT CURRENT_TIMESTAMP(or so" ∧
      ¬ KeepsDefault (Text.Quoted.read '\'') (listedLabel "CURRENT_TIMESTAMP(or so")
        "CURRENT_TIMESTAMP(or so" "CURRENT_TIMESTAMP(or so" ∧
      ¬ KeepsDefault BackslashLiteral.read (listedLabel "CURRENT_TIMESTAMP(or so")
        "CURRENT_TIMESTAMP(or so" "CURRENT_TIMESTAMP(or so") ∧
    Dialect.renameColumn ({} : MySql) "t" "label" "tag" (listedLabel "current_tımestamp") =
        "ALTER TABLE `t` CHANGE COLUMN `label` `tag` varchar(20) NOT NULL " ++
          "DEFAULT current_tımestamp" ∧
      ¬ KeepsDefault (Text.Quoted.read '\'') (listedLabel "current_tımestamp")
        "current_tımestamp" "current_tımestamp" ∧
      ¬ KeepsDefault BackslashLiteral.read (listedLabel "current_tımestamp")
        "current_tımestamp" "current_tımestamp" := by
  refine ⟨⟨?_, not_keepsDefault_label ?_⟩, ⟨?_, not_keepsDefault_label ?_⟩, ?_,
    not_keepsDefault_label ?_⟩
  all_goals decide +kernel

end SchemaChange
