import SchemaChange.Proofs.ListingOrder

/-!
Looking for an index by columns that it has, on the rows of the listing. The answer is yes exactly
when the rows of one index name all of the columns, each of them in some row and in whatever case.
Rows of other indexes do not help, wherever they stand, and rows that name no column do not count.
-/
namespace SchemaChange

section

variable (indexCell columnCell : String)

/-- There is an index whose rows name all of the columns. -/
def OneIndexNamesAll (rows : List Row) (columns : List String) : Prop :=
  ∃ index : String, ∀ column ∈ columns, ∃ row ∈ rows, ∃ own : String,
    row.get indexCell = .ok index ∧ row.get columnCell = .ok (some own) ∧
      Text.sameName own column = true

variable {indexCell columnCell}

/-- A row without a column names none of them. -/
theorem oneIndexNamesAll_append_cons {before after : List Row} {row : Row} {columns : List String}
    (hrow : row.get columnCell = .ok (none : Option String)) :
    OneIndexNamesAll indexCell columnCell (before ++ row :: after) columns ↔
      OneIndexNamesAll indexCell columnCell (before ++ after) columns := by
  refine exists_congr fun index => forall₂_congr fun column _ => ?_
  constructor
  · rintro ⟨other, hother, own, hindex, hown, hsame⟩
    refine ⟨other, ?_, own, hindex, hown, hsame⟩
    rcases List.mem_append.mp hother with hother | hother
    · exact List.mem_append_left _ hother
    · rcases List.mem_cons.mp hother with rfl | hother
      · rw [hrow] at hown
        cases hown
      · exact List.mem_append_right _ hother
  · rintro ⟨other, hother, hnames⟩
    refine ⟨other, ?_, hnames⟩
    rcases List.mem_append.mp hother with hother | hother
    · exact List.mem_append_left _ hother
    · exact List.mem_append_right _ (List.mem_cons_of_mem _ hother)

end

/-- How a client looks for an index where index and column stand in these cells. -/
structure FindsByRows {δ : Type} [Catalog δ] (client : Client δ) (indexCell columnCell : String) :
    Prop where
  /-- Without columns nothing is asked. -/
  refused {σ : Type} (db : Database σ) (s : σ) (table : String) :
    Action.run db (client.hasIndex table []) s = ⟨.error (.emptyLookup table), [], s⟩ ∧
      (Failure.emptyLookup table).kind = .argument
  answered {σ : Type} (db : Database σ) {s s' : σ} (table : String) {columns : List String}
    {rows : List Row} (hcolumns : columns ≠ [])
    (hquery : db.query (Dialect.listIndexes client.dialect table) [] s = (.ok rows, s'))
    (hdecodes : ∀ row ∈ rows, ∃ part?, Catalog.decodeIndexPart client.dialect row = .ok part?) :
    ∃ found, Action.run db (client.hasIndex table columns) s =
        ⟨.ok found, [.query (Dialect.listIndexes client.dialect table) [] (.ok rows)], s'⟩ ∧
      (found = true ↔ OneIndexNamesAll indexCell columnCell rows columns) ∧
      ∀ before row after, rows = before ++ row :: after →
        row.get columnCell = .ok (none : Option String) →
        (found = true ↔ OneIndexNamesAll indexCell columnCell (before ++ after) columns)

section

variable {δ : Type} [Catalog δ] [ShowsIndexes δ]

open ListedIndex (foldedNames columnsOf)

/-- The parts of one index cover a request when its rows do. -/
theorem exists_subset_columnsOf_iff {d : δ} {rows : List Row} {parts : List (Option IndexPart)}
    (h : rows.mapM (Catalog.decodeIndexPart d) = .ok parts) (columns : List String) :
    (∃ index, foldedNames columns ⊆ foldedNames (columnsOf index (parts.filterMap id))) ↔
      OneIndexNamesAll (ShowsIndexes.indexCell δ) (ShowsIndexes.columnCell δ) rows columns := by
  refine exists_congr fun index => ?_
  rw [ListedIndex.foldedNames_subset_iff]
  refine forall₂_congr fun column _ => ?_
  constructor
  · rintro ⟨own, hown, hsame⟩
    obtain ⟨row, hrow, hindex, hcolumn⟩ := (mem_columnsOf_iff h).mp hown
    exact ⟨row, hrow, own, hindex, hcolumn, hsame⟩
  · rintro ⟨row, hrow, own, hindex, hcolumn, hsame⟩
    exact ⟨own, (mem_columnsOf_iff h).mpr ⟨row, hrow, hindex, hcolumn⟩, hsame⟩

theorem findsByRows (client : Client δ) :
    FindsByRows client (ShowsIndexes.indexCell δ) (ShowsIndexes.columnCell δ) where
  refused db s table := ⟨rfl, rfl⟩
  answered db s s' table columns rows hcolumns hquery hdecodes := by
    obtain ⟨parts, hparts⟩ := exists_mapM_eq_ok hdecodes
    have hfound := (ListedIndex.any_covers_iff hcolumns).trans
      (exists_subset_columnsOf_iff hparts columns)
    refine ⟨_, run_hasIndex ⟨hquery, hparts⟩ hcolumns, hfound, ?_⟩
    rintro before row after rfl hrow
    rw [hfound, oneIndexNamesAll_append_cons hrow]

end

/-- Whether there is an index with certain columns is answered by the rows of one index. -/
theorem lookup_answered_by_one_index :
    (∀ client : Client MySql, FindsByRows client "Key_name" "Column_name") ∧
      ∀ client : Client Sqlite, FindsByRows client "index_name" "column_name" :=
  ⟨findsByRows, findsByRows⟩

/-- Rows of an index on two columns and an expression, with another index in between. -/
def scatteredRows : List Row :=
  [indexRow "pair" (some "age") none, indexRow "single" (some "name") none,
    indexRow "pair" none (some "lower(name)"), indexRow "pair" (some "Email") none]

/-- How the lookup goes. -/
def scatteredLookup (columns : List String) : Outcome Recording.State (Except Failure Bool) :=
  Action.run Recording.database (Client.hasIndex ⟨({} : MySql), {}⟩ "users" columns)
    (listingOf scatteredRows)

theorem scattered_index_found :
    (∀ row ∈ scatteredRows, ∃ part?, Catalog.decodeIndexPart ({} : MySql) row = .ok part?) ∧
      OneIndexNamesAll "Key_name" "Column_name" scatteredRows ["EMAIL", "age", "email"] ∧
      ¬ OneIndexNamesAll "Key_name" "Column_name" scatteredRows ["age", "name"] := by
  have hdecodes : ∀ row ∈ scatteredRows, ∃ part?,
      Catalog.decodeIndexPart ({} : MySql) row = .ok part? := by
    intro row hrow
    simp only [scatteredRows, List.mem_cons, List.not_mem_nil, or_false] at hrow
    rcases hrow with rfl | rfl | rfl | rfl <;> exact ⟨_, rfl⟩
  have hlookup {columns : List String} {found : Bool} (hcolumns : columns ≠ [])
      (hfound : (scatteredLookup columns).result = .ok found) :
      found = true ↔ OneIndexNamesAll "Key_name" "Column_name" scatteredRows columns := by
    obtain ⟨answer, hrun, hanswer, -⟩ :=
      (lookup_answered_by_one_index.1 ⟨{}, {}⟩).answered Recording.database
        (s := listingOf scatteredRows) "users" hcolumns rfl hdecodes
    have hresult : (scatteredLookup columns).result = .ok answer := congrArg Outcome.result hrun
    rwa [Except.ok.inj (hfound.symm.trans hresult)]
  have hyes : (scatteredLookup ["EMAIL", "age", "email"]).result = .ok true := by decide +kernel
  have hno : (scatteredLookup ["age", "name"]).result = .ok false := by decide +kernel
  refine ⟨hdecodes, (hlookup (List.cons_ne_nil _ _) hyes).mp rfl, fun h => ?_⟩
  cases (hlookup (List.cons_ne_nil _ _) hno).mpr h

end SchemaChange
