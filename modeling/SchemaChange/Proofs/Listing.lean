import SchemaChange.MySql
import SchemaChange.Proofs.Success
import SchemaChange.Sqlite

/-!
What the rows of an index listing show. Every row names its index in one cell and its column in
another, and a row without a column decodes to nothing; the statement that drops an index tells
which index it is.
-/
namespace SchemaChange

/-- A dialect with the cells of its index listings, and how it reads that an index is unique. -/
class ShowsIndexes (δ : Type) [Catalog δ] where
  indexCell : String
  columnCell : String
  readUnique : Row → Except Failure Bool
  decodeIndexPart_eq (d : δ) (row : Row) :
    Catalog.decodeIndexPart d row = (do
      let column? : Option String ← row.get columnCell
      match column? with
      | none => return none
      | some column =>
        let index ← row.get indexCell
        let unique ← readUnique row
        return some { index, column, unique })
  dropIndex_injective (d : δ) (table : String) : Function.Injective (Dialect.dropIndex d table)

namespace Text

theorem quote_injective (mark : Char) : Function.Injective (quote mark) := by
  intro a b h
  have hencode : Quoted.encode mark a.toList = Quoted.encode mark b.toList :=
    String.ofList_injective h
  have hdecode := congrArg (Quoted.decode mark) hencode
  rw [Quoted.decode_encode, Quoted.decode_encode] at hdecode
  exact String.toList_injective (Option.some.inj hdecode)

/-- The last part of a phrase can be told from the phrase. -/
theorem phrase_append_injective {parts : List String} (hparts : parts ≠ []) :
    Function.Injective fun last => phrase (parts ++ [last]) := by
  intro a b h
  simp only [phrase, String.intercalate_append_of_ne_nil hparts (List.cons_ne_nil _ _),
    String.intercalate_singleton] at h
  exact (String.append_right_inj _).mp h

end Text

theorem Sqlite.besideTable_injective (table : String) :
    Function.Injective (Sqlite.besideTable table) := by
  intro a b h
  unfold Sqlite.besideTable at h
  cases hschema : Text.QualifiedName.schema? table with
  | none =>
    rw [hschema] at h
    exact Text.quote_injective _ h
  | some schema =>
    rw [hschema] at h
    exact Text.quote_injective _ ((String.append_right_inj _).mp h)

instance : ShowsIndexes MySql where
  indexCell := "Key_name"
  columnCell := "Column_name"
  readUnique row := do
    let nonUnique : UInt64 ← row.get "Non_unique"
    return nonUnique == 0
  decodeIndexPart_eq d row := by
    refine bind_congr fun column? => ?_
    cases column? with
    | none => rfl
    | some column => simp only [bind_assoc, pure_bind]
  dropIndex_injective d table := by
    have hphrase := Text.phrase_append_injective
      (List.cons_ne_nil "ALTER TABLE" [MySql.quoteTable table, "DROP INDEX"])
    exact hphrase.comp (Text.quote_injective MySql.quoteMark)

instance : ShowsIndexes Sqlite where
  indexCell := "index_name"
  columnCell := "column_name"
  readUnique row := row.get "is_unique"
  decodeIndexPart_eq d row := rfl
  dropIndex_injective d table := by
    have hphrase := Text.phrase_append_injective (List.cons_ne_nil "DROP INDEX" [])
    exact hphrase.comp (Sqlite.besideTable_injective table)

section

variable {δ : Type} [Catalog δ] [ShowsIndexes δ]

variable (δ) in
/-- The row stands for a part of the index. -/
def IsPartOf (index : String) (row : Row) : Prop :=
  row.get (ShowsIndexes.indexCell δ) = .ok index

variable (δ) in
/-- The row names its column. -/
def NamesColumn (column : String) (row : Row) : Prop :=
  row.get (ShowsIndexes.columnCell δ) = .ok (some column)

variable (δ) in
/-- The row names no column, as that of an expression. -/
def NamesNoColumn (row : Row) : Prop :=
  row.get (ShowsIndexes.columnCell δ) = .ok (none : Option String)

theorem decodes_to_none_iff {d : δ} {row : Row} :
    Catalog.decodeIndexPart d row = .ok none ↔ NamesNoColumn δ row := by
  rw [ShowsIndexes.decodeIndexPart_eq, bind_eq_ok_iff]
  constructor
  · rintro ⟨column?, hcolumn, h⟩
    cases column? with
    | none => exact hcolumn
    | some column =>
      obtain ⟨index, -, h⟩ := bind_eq_ok_iff.mp h
      obtain ⟨unique, -, h⟩ := bind_eq_ok_iff.mp h
      cases h
  · intro h
    exact ⟨none, h, rfl⟩

theorem shows_of_decodes {d : δ} {row : Row} {part : IndexPart}
    (h : Catalog.decodeIndexPart d row = .ok (some part)) :
    IsPartOf δ part.index row ∧ NamesColumn δ part.column row := by
  rw [ShowsIndexes.decodeIndexPart_eq] at h
  obtain ⟨column?, hcolumn, h⟩ := bind_eq_ok_iff.mp h
  cases column? with
  | none => cases h
  | some column =>
    obtain ⟨index, hindex, h⟩ := bind_eq_ok_iff.mp h
    obtain ⟨unique, -, h⟩ := bind_eq_ok_iff.mp h
    cases h
    exact ⟨hindex, hcolumn⟩

end

end SchemaChange
