import SchemaChange.Database.Recording
import SchemaChange.Proofs.FirstFailure
import SchemaChange.Proofs.IndexGroups
import SchemaChange.Proofs.Listing

/-!
Which indexes are dropped when an index is to be dropped by its columns. Rows that name no column
are left out before the columns are compared, so that an index on an expression and a column passes
for one on the column alone.
-/
namespace SchemaChange

open ListedIndex (foldedNames columnsOf)

section

variable (δ : Type) [Catalog δ] [ShowsIndexes δ]

/-- The columns that the rows of an index name, apart from the case of letters. -/
def foldedColumns (index : String) (rows : List Row) : Set (List Char) :=
  {folded | ∃ row ∈ rows, IsPartOf δ index row ∧
    ∃ column, NamesColumn δ column row ∧ Text.lower column.toList = folded}

/-- The index is listed, and its rows name the columns, each row one of them. -/
structure IsMadeOf (index : String) (rows : List Row) (columns : List String) : Prop where
  listed : ∃ row ∈ rows, IsPartOf δ index row
  named : ∀ row ∈ rows, IsPartOf δ index row → ¬ NamesNoColumn δ row
  columns_eq : foldedColumns δ index rows = foldedNames columns

end

section

variable {σ δ : Type} [Catalog δ]

/-- The statement that drops the index has been executed. -/
def Outcome.Drops {α : Type} (o : Outcome σ α) (d : δ) (table index : String) : Prop :=
  (Dialect.dropIndex d table index, []) ∈ o.statements

variable [ShowsIndexes δ]

/-- The columns that are compared are those of the rows that name one. -/
theorem mem_columnsOf_iff {d : δ} {rows : List Row} {parts : List (Option IndexPart)}
    (h : rows.mapM (Catalog.decodeIndexPart d) = .ok parts) {index column : String} :
    column ∈ columnsOf index (parts.filterMap id) ↔
      ∃ row ∈ rows, IsPartOf δ index row ∧ NamesColumn δ column row := by
  constructor
  · intro hmem
    obtain ⟨part, hpart, rfl⟩ := List.mem_map.mp hmem
    obtain ⟨hsome, hindex⟩ := List.mem_filter.mp hpart
    obtain ⟨row, hrow, hdecode⟩ := (mem_mapM_iff h (some part)).mp (by simpa using hsome)
    have hshown := shows_of_decodes hdecode
    rw [decide_eq_true_eq] at hindex
    exact ⟨row, hrow, hindex ▸ hshown.1, hshown.2⟩
  · rintro ⟨row, hrow, hindex, hcolumn⟩
    obtain ⟨part?, hdecode⟩ := exists_of_mapM h hrow
    cases part? with
    | none =>
      have hnone := decodes_to_none_iff.mp hdecode
      exact nomatch hnone.symm.trans hcolumn
    | some part =>
      obtain ⟨hindex', hcolumn'⟩ := shows_of_decodes hdecode
      have hpart : part.index = index := Except.ok.inj (hindex'.symm.trans hindex)
      have hnamed : part.column = column :=
        Option.some.inj (Except.ok.inj (hcolumn'.symm.trans hcolumn))
      have hsome : some part ∈ parts := (mem_mapM_iff h _).mpr ⟨row, hrow, hdecode⟩
      refine List.mem_map.mpr ⟨part, List.mem_filter.mpr ⟨?_, by simpa using hpart⟩, hnamed⟩
      simpa using hsome

theorem foldedNames_columnsOf {d : δ} {rows : List Row} {parts : List (Option IndexPart)}
    (h : rows.mapM (Catalog.decodeIndexPart d) = .ok parts) (index : String) :
    foldedNames (columnsOf index (parts.filterMap id)) = foldedColumns δ index rows := by
  ext folded
  constructor
  · rintro ⟨column, hcolumn, rfl⟩
    obtain ⟨row, hrow, hpart, hnamed⟩ := (mem_columnsOf_iff h).mp hcolumn
    exact ⟨row, hrow, hpart, column, hnamed, rfl⟩
  · rintro ⟨row, hrow, hpart, column, hnamed, rfl⟩
    exact ⟨column, (mem_columnsOf_iff h).mpr ⟨row, hrow, hpart, hnamed⟩, rfl⟩

/-- An index whose rows name the requested columns, of which there are some, is listed, and so it is
made of them if no row of it is without a column. -/
theorem isMadeOf_iff {index : String} {rows : List Row} {columns : List String}
    (hcolumns : columns ≠ []) :
    IsMadeOf δ index rows columns ↔
      foldedColumns δ index rows = foldedNames columns ∧
        ¬ ∃ row ∈ rows, IsPartOf δ index row ∧ NamesNoColumn δ row := by
  constructor
  · intro h
    exact ⟨h.columns_eq, fun ⟨row, hrow, hpart, hnone⟩ => h.named row hrow hpart hnone⟩
  · rintro ⟨heq, hnamed⟩
    obtain ⟨column, hcolumn⟩ := List.exists_mem_of_ne_nil columns hcolumns
    have hfolded : Text.lower column.toList ∈ foldedNames columns := ⟨column, hcolumn, rfl⟩
    rw [← heq] at hfolded
    obtain ⟨row, hrow, hpart, -⟩ := hfolded
    exact ⟨⟨row, hrow, hpart⟩, fun row hrow hpart hnone => hnamed ⟨row, hrow, hpart, hnone⟩, heq⟩

/-- The names of the indexes to drop, in the order in which they are dropped. -/
def removedNames (columns : List String) (parts : List (Option IndexPart)) : List String :=
  ((ListedIndex.ofParts (parts.filterMap id)).filter (·.isExactly columns)).map (·.name)

theorem mem_removedNames_iff {d : δ} {rows : List Row} {parts : List (Option IndexPart)}
    (h : rows.mapM (Catalog.decodeIndexPart d) = .ok parts) {columns : List String}
    (hcolumns : columns ≠ []) (index : String) :
    index ∈ removedNames columns parts ↔ foldedColumns δ index rows = foldedNames columns := by
  rw [← foldedNames_columnsOf h, ← ListedIndex.exists_isExactly_iff hcolumns]
  simp [removedNames, and_assoc]

omit [ShowsIndexes δ] in
/-- What is executed is a beginning of the drops, and all of them when nothing fails. -/
theorem statements_dropIndex (db : Database σ) (client : Client δ) (table : String)
    (columns : List String) {rows : List Row} {parts : List (Option IndexPart)} {s s' : σ}
    (hquery : db.query (Dialect.listIndexes client.dialect table) [] s = (.ok rows, s'))
    (hdecode : rows.mapM (Catalog.decodeIndexPart client.dialect) = .ok parts) :
    let drops := (removedNames columns parts).map fun index =>
      (Dialect.dropIndex client.dialect table index, [])
    let o := Action.run db (client.dropIndex table columns) s
    o.statements <+: drops ∧ (AllSucceeded o.exchanges → o.statements = drops) := by
  intro drops o
  have hperform : o.exchanges =
      (Action.run db ((Operation.dropIndex table columns).plan client).action s).exchanges := by
    rw [← finished_dropIndex]
    exact (Action.exchanges_map db s _ _).symm
  have hstatements : o.statements =
      (Action.run db ((Operation.dropIndex table columns).plan client).action s).statements :=
    congrArg (List.filterMap Exchange.statement?) hperform
  rw [hstatements, hperform]
  have hsettled : indexRemoval client table columns rows =
      if removedNames columns parts = [] then .error (.missingIndex table columns)
      else .ok ((removedNames columns parts).map (Dialect.dropIndex client.dialect table)) := by
    rw [indexRemoval, hdecode]
    rfl
  by_cases hnone : removedNames columns parts = []
  · rw [if_pos hnone] at hsettled
    have hrun := Plan.run_changing_error db hquery hsettled
    have hdrops : drops = [] := List.map_eq_nil_iff.mpr hnone
    rw [hdrops, Operation.plan, hrun]
    exact ⟨List.nil_prefix, fun _ => rfl⟩
  · rw [if_neg hnone] at hsettled
    have hexecutes := Plan.executes_changing db hquery hsettled
    rw [List.map_map] at hexecutes
    exact ⟨hexecutes.isPrefix, hexecutes.statements_eq⟩

/-- Dropping by columns drops the indexes whose named columns are the requested ones. Exactly where
such an index has a row without a column, it is not made of these columns and dropped all the same.
-/
theorem dropIndex_right_unless_unnamed (db : Database σ) (client : Client δ) (table : String)
    {columns : List String} (hcolumns : columns ≠ []) {rows : List Row}
    {parts : List (Option IndexPart)} {s s' : σ}
    (hquery : db.query (Dialect.listIndexes client.dialect table) [] s = (.ok rows, s'))
    (hdecode : rows.mapM (Catalog.decodeIndexPart client.dialect) = .ok parts) :
    let o := Action.run db (client.dropIndex table columns) s
    ∀ index : String,
      (o.Drops client.dialect table index →
        foldedColumns δ index rows = foldedNames columns) ∧
      (AllSucceeded o.exchanges →
        (o.Drops client.dialect table index ↔
          foldedColumns δ index rows = foldedNames columns) ∧
        ((o.Drops client.dialect table index ↔ IsMadeOf δ index rows columns) ↔
          ¬ (foldedColumns δ index rows = foldedNames columns ∧
            ∃ row ∈ rows, IsPartOf δ index row ∧ NamesNoColumn δ row))) := by
  intro o index
  obtain ⟨hstart, hall⟩ := statements_dropIndex db client table columns hquery hdecode
  have hdrop : (Dialect.dropIndex client.dialect table index, []) ∈
      ((removedNames columns parts).map fun index =>
        (Dialect.dropIndex client.dialect table index, ([] : List Value))) ↔
      foldedColumns δ index rows = foldedNames columns := by
    rw [← mem_removedNames_iff hdecode hcolumns]
    constructor
    · intro hmem
      obtain ⟨other, hother, heq⟩ := List.mem_map.mp hmem
      have hsame := ShowsIndexes.dropIndex_injective client.dialect table (congrArg Prod.fst heq)
      exact hsame ▸ hother
    · intro hmem
      exact List.mem_map.mpr ⟨index, hmem, rfl⟩
  refine ⟨fun h => hdrop.mp (hstart.subset h), fun hsucceeded => ?_⟩
  have hdrops : o.Drops client.dialect table index ↔
      foldedColumns δ index rows = foldedNames columns := by
    rw [Outcome.Drops, hall hsucceeded]
    exact hdrop
  refine ⟨hdrops, ?_⟩
  rw [hdrops, isMadeOf_iff hcolumns, iff_self_and, not_and]

end

section

/-- The row of a part of an index, which may be an expression. -/
def indexRow (index : String) (column? expression? : Option String) : Row :=
  Recording.textRow [("Non_unique", some "1"), ("Key_name", some index), ("Column_name", column?),
    ("Expression", expression?)]

/-- A database whose index listings have the same rows for every table. -/
def listingOf (rows : List Row) : Recording.State := { script := [("SHOW INDEXES FROM", rows)] }

/-- How dropping the index on the age goes. -/
def ageIndexRemoval (rows : List Row) : Outcome Recording.State (Except Failure Unit) :=
  Action.run Recording.database (Client.dropIndex ⟨({} : MySql), {}⟩ "users" ["age"])
    (listingOf rows)

def mixedIndexRows : List Row :=
  [indexRow "mixed" (some "age") none, indexRow "mixed" none (some "lower(email)")]

def separateIndexRows : List Row :=
  [indexRow "lower_email" none (some "lower(email)"), indexRow "age_index" (some "age") none]

theorem separate_index_dropped_as_made :
    (ageIndexRemoval separateIndexRows).Drops ({} : MySql) "users" "age_index" ↔
      IsMadeOf MySql "age_index" separateIndexRows ["age"] := by
  have hdecode : separateIndexRows.mapM (Catalog.decodeIndexPart ({} : MySql)) =
      .ok [none, some ⟨"age_index", "age", false⟩] := rfl
  have hright := dropIndex_right_unless_unnamed Recording.database ⟨({} : MySql), {}⟩ "users"
    (List.cons_ne_nil "age" []) (s := listingOf separateIndexRows) rfl hdecode "age_index"
  refine ((hright.2 ((AllSucceeded.nil.cons rfl).cons rfl)).2).mpr ?_
  rintro ⟨-, row, hrow, hpart, hnone⟩
  rcases List.mem_cons.mp hrow with rfl | hrow
  · exact absurd (Except.ok.inj hpart) (by decide)
  · rw [List.mem_singleton.mp hrow] at hnone
    exact nomatch Except.ok.inj hnone

/-- An index on an age and the lower case of an email is dropped as one on the age. -/
theorem mixed_index_dropped :
    (ageIndexRemoval mixedIndexRows).Drops ({} : MySql) "users" "mixed" ∧
      ¬ IsMadeOf MySql "mixed" mixedIndexRows ["age"] := by
  constructor
  · exact List.mem_singleton.mpr rfl
  · intro h
    have hnamed := h.named _ (List.mem_cons_of_mem _ (List.mem_singleton_self _)) rfl
    exact hnamed rfl

end

end SchemaChange
