import Mathlib.Data.List.Perm.Basic
import SchemaChange.Proofs.ClientRun
import SchemaChange.Proofs.IndexRemoval

/-!
The order in which a catalog lists the parts of indexes. It decides in which order grouping lists
the indexes and their columns, but neither which indexes there are nor which columns each of them
has. So the answer to a lookup and the set of indexes that are dropped do not depend on it, however
the rows of different indexes are mixed.
-/
namespace SchemaChange

namespace ListedIndex

/-- The columns of an index come in another order, and are the same. -/
theorem columnsOf_perm {parts others : List IndexPart} (h : parts.Perm others) (name : String) :
    (columnsOf name parts).Perm (columnsOf name others) :=
  (h.filter _).map _

theorem foldedNames_eq_of_perm {names others : List String} (h : names.Perm others) :
    foldedNames names = foldedNames others := by
  ext folded
  constructor
  · rintro ⟨name, hname, heq⟩
    exact ⟨name, h.mem_iff.mp hname, heq⟩
  · rintro ⟨name, hname, heq⟩
    exact ⟨name, h.mem_iff.mpr hname, heq⟩

theorem foldedNames_columnsOf_eq {parts others : List IndexPart} (h : parts.Perm others)
    (name : String) :
    foldedNames (columnsOf name parts) = foldedNames (columnsOf name others) :=
  foldedNames_eq_of_perm (columnsOf_perm h name)

/-- Some index covers a request when the parts of one name do. -/
theorem any_covers_iff {parts : List IndexPart} {requested : List String}
    (hrequested : requested ≠ []) :
    (ofParts parts).any (·.covers requested) = true ↔
      ∃ name, foldedNames requested ⊆ foldedNames (columnsOf name parts) := by
  have h := groups_ofParts parts
  rw [List.any_eq_true]
  constructor
  · rintro ⟨index, hmem, hindex⟩
    refine ⟨index.name, ?_⟩
    rw [← h.columns_eq index hmem]
    exact covers_iff.mp hindex
  · rintro ⟨name, hsubset⟩
    obtain ⟨column, hcolumn⟩ := List.exists_mem_of_ne_nil requested hrequested
    obtain ⟨own, hown, -⟩ := hsubset ⟨column, hcolumn, rfl⟩
    obtain ⟨part, hpart, -⟩ := List.mem_map.mp hown
    obtain ⟨hmem, hname⟩ := List.mem_filter.mp hpart
    have hlisted : name ∈ (ofParts parts).map (·.name) :=
      (h.name_mem name).mpr ⟨part, hmem, of_decide_eq_true hname⟩
    obtain ⟨index, hindex, rfl⟩ := List.mem_map.mp hlisted
    refine ⟨index, hindex, covers_iff.mpr ?_⟩
    rw [h.columns_eq index hindex]
    exact hsubset

theorem any_covers_eq_of_perm {parts others : List IndexPart} (h : parts.Perm others)
    {requested : List String} (hrequested : requested ≠ []) :
    (ofParts parts).any (·.covers requested) = (ofParts others).any (·.covers requested) := by
  rw [Bool.eq_iff_iff, any_covers_iff hrequested, any_covers_iff hrequested]
  simp only [foldedNames_columnsOf_eq h]

end ListedIndex

open ListedIndex (columnsOf foldedNames)

/-- No index is removed twice. -/
theorem nodup_removedNames (columns : List String) (parts : List (Option IndexPart)) :
    (removedNames columns parts).Nodup :=
  (ListedIndex.groups_ofParts (parts.filterMap id)).nodup.sublist (List.filter_sublist.map _)

theorem mem_removedNames {columns : List String} (hcolumns : columns ≠ [])
    (parts : List (Option IndexPart)) (index : String) :
    index ∈ removedNames columns parts ↔
      foldedNames (columnsOf index (parts.filterMap id)) = foldedNames columns := by
  rw [← ListedIndex.exists_isExactly_iff hcolumns]
  simp [removedNames, and_assoc]

theorem removedNames_perm {columns : List String} (hcolumns : columns ≠ [])
    {parts others : List (Option IndexPart)} (h : parts.Perm others) :
    (removedNames columns parts).Perm (removedNames columns others) := by
  apply (List.perm_ext_iff_of_nodup (nodup_removedNames columns parts)
    (nodup_removedNames columns others)).mpr
  intro index
  rw [mem_removedNames hcolumns, mem_removedNames hcolumns,
    ListedIndex.foldedNames_columnsOf_eq (h.filterMap id)]

/-- What rows in another order go to comes in another order too. -/
theorem exists_mapM_of_perm {α β : Type} {f : α → Except Failure β} {xs others : List α}
    (h : xs.Perm others) {ys : List β} (hys : xs.mapM f = .ok ys) :
    ∃ zs, others.mapM f = .ok zs ∧ ys.Perm zs := by
  obtain ⟨zs, hzs, hperm⟩ := List.perm_comp_forall₂ h.symm (mapM_eq_ok_iff.mp hys)
  exact ⟨zs, mapM_eq_ok_iff.mpr hzs, hperm.symm⟩

section

variable {σ δ : Type} [Catalog δ] {db : Database σ} (client : Client δ) (table : String)
  {columns : List String} {rows : List Row} {parts : List (Option IndexPart)} {s s' : σ}

/-- The database lists the parts of the indexes of a table. -/
structure ListsParts (db : Database σ) (s s' : σ) (rows : List Row)
    (parts : List (Option IndexPart)) : Prop where
  query : db.query (Dialect.listIndexes client.dialect table) [] s = (.ok rows, s')
  decode : rows.mapM (Catalog.decodeIndexPart client.dialect) = .ok parts

variable {client table}

theorem run_indexes (h : ListsParts client table db s s' rows parts) :
    Action.run db (client.indexes table) s =
      ⟨.ok (ListedIndex.ofParts (parts.filterMap id)),
        [.query (Dialect.listIndexes client.dialect table) [] (.ok rows)], s'⟩ := by
  rw [Client.indexes, Action.run_bind, Action.run_queryMap_ok db s h.query h.decode]
  rfl

theorem run_hasIndex (h : ListsParts client table db s s' rows parts) (hcolumns : columns ≠ []) :
    Action.run db (client.hasIndex table columns) s =
      ⟨.ok ((ListedIndex.ofParts (parts.filterMap id)).any (·.covers columns)),
        [.query (Dialect.listIndexes client.dialect table) [] (.ok rows)], s'⟩ := by
  rw [Client.hasIndex, if_neg hcolumns]
  change Action.run db (client.indexes table >>= _) s = _
  rw [Action.run_bind, run_indexes h]
  rfl

theorem result_hasIndex (h : ListsParts client table db s s' rows parts)
    (hcolumns : columns ≠ []) :
    (Action.run db (client.hasIndex table columns) s).result =
      .ok ((ListedIndex.ofParts (parts.filterMap id)).any (·.covers columns)) := by
  rw [run_hasIndex h hcolumns]

variable (columns) in
/-- What follows the listing of the parts depends on the names of the indexes to drop alone. -/
theorem run_dropIndex_of_listed (h : ListsParts client table db s s' rows parts) :
    Action.run db (client.dropIndex table columns) s =
      (Action.run db
        (if removedNames columns parts = [] then throw (Failure.missingIndex table columns)
          else (removedNames columns parts).forM (client.dropIndexNamed table)) s').after
        (.query (Dialect.listIndexes client.dialect table) [] (.ok rows)) := by
  change Action.run db (client.indexes table >>= _) s = _
  rw [Action.run_bind, run_indexes h]
  rfl

variable (columns) in
/-- Where every statement is accepted, the indexes to drop are dropped in the order in which they
are listed, unless there is none. -/
theorem run_dropIndex (h : ListsParts client table db s s' rows parts) (haccepts : db.Accepts) :
    let o := Action.run db (client.dropIndex table columns) s
    o.result = (if removedNames columns parts = [] then .error (.missingIndex table columns)
      else .ok ()) ∧
    o.statements = (removedNames columns parts).map fun index =>
      (Dialect.dropIndex client.dialect table index, []) := by
  intro o
  have hrun : o = _ := run_dropIndex_of_listed columns h
  rw [hrun]
  by_cases hnone : removedNames columns parts = []
  · rw [if_pos hnone, if_pos hnone, hnone]
    exact ⟨rfl, rfl⟩
  · obtain ⟨exchanges, s'', hforM, hstatements⟩ := Client.run_forM_change s' haccepts
      (Dialect.dropIndex client.dialect table) (removedNames columns parts)
    have hdrops : Action.run db
        ((removedNames columns parts).forM (client.dropIndexNamed table)) s' =
          ⟨.ok (), exchanges, s''⟩ := hforM
    rw [if_neg hnone, if_neg hnone, hdrops]
    exact ⟨rfl, hstatements⟩

end

/-- Two listings with the same rows lead to the same answer to a lookup, and to the same removal:
either no index is dropped and both fail alike, or both drop the same indexes, each of them once.
-/
theorem index_decisions_in_any_order {σ τ δ : Type} [Catalog δ] (db : Database σ)
    (db' : Database τ) (client : Client δ) (table : String) {columns : List String}
    (hcolumns : columns ≠ []) {rows rows' : List Row} (hperm : rows.Perm rows')
    (hdecodes : ∀ row ∈ rows, ∃ part?, Catalog.decodeIndexPart client.dialect row = .ok part?)
    {s after : σ} {t after' : τ}
    (hquery : db.query (Dialect.listIndexes client.dialect table) [] s = (.ok rows, after))
    (hquery' : db'.query (Dialect.listIndexes client.dialect table) [] t = (.ok rows', after')) :
    (∃ found, (Action.run db (client.hasIndex table columns) s).result = .ok found ∧
      (Action.run db' (client.hasIndex table columns) t).result = .ok found) ∧
    (db.Accepts → db'.Accepts →
      let o := Action.run db (client.dropIndex table columns) s
      let o' := Action.run db' (client.dropIndex table columns) t
      (o.result = .ok () ∧ o'.result = .ok () ∨
        o.result = .error (.missingIndex table columns) ∧
          o'.result = .error (.missingIndex table columns) ∧
          o.statements = [] ∧ o'.statements = []) ∧
      ∃ names names' : List String, names.Nodup ∧ names.Perm names' ∧
        (o.statements = names.map fun name => (Dialect.dropIndex client.dialect table name, [])) ∧
        o'.statements = names'.map fun name =>
          (Dialect.dropIndex client.dialect table name, [])) := by
  obtain ⟨parts, hparts⟩ := exists_mapM_eq_ok hdecodes
  obtain ⟨others, hothers, hmixed⟩ := exists_mapM_of_perm hperm hparts
  have h : ListsParts client table db s after rows parts := ⟨hquery, hparts⟩
  have h' : ListsParts client table db' t after' rows' others := ⟨hquery', hothers⟩
  constructor
  · refine ⟨_, result_hasIndex h hcolumns, ?_⟩
    rw [result_hasIndex h' hcolumns,
      ListedIndex.any_covers_eq_of_perm (hmixed.filterMap id) hcolumns]
  · intro haccepts haccepts' o o'
    obtain ⟨hresult, hstatements⟩ := run_dropIndex columns h haccepts
    obtain ⟨hresult', hstatements'⟩ := run_dropIndex columns h' haccepts'
    have hnames := removedNames_perm hcolumns hmixed
    refine ⟨?_, _, _, nodup_removedNames columns parts, hnames, hstatements, hstatements'⟩
    by_cases hnone : removedNames columns parts = []
    · have hnone' : removedNames columns others = [] := by
        rw [hnone] at hnames
        exact hnames.nil_eq.symm
      rw [if_pos hnone] at hresult
      rw [if_pos hnone'] at hresult'
      rw [hnone] at hstatements
      rw [hnone'] at hstatements'
      exact Or.inr ⟨hresult, hresult', hstatements, hstatements'⟩
    · have hsome : removedNames columns others ≠ [] := by
        intro hnone'
        rw [hnone'] at hnames
        exact hnone hnames.eq_nil
      rw [if_neg hnone] at hresult
      rw [if_neg hsome] at hresult'
      exact Or.inl ⟨hresult, hresult'⟩

theorem Recording.accepts : Recording.database.Accepts :=
  fun _ _ _ => ⟨0, _, rfl⟩

/-- Two indexes on the same columns with another one between their parts. -/
def interleavedRows : List Row :=
  [indexRow "pair" (some "age") none, indexRow "single" (some "age") none,
    indexRow "twin" (some "NAME") none, indexRow "pair" (some "name") none,
    indexRow "twin" (some "age") none]

/-- How dropping the indexes on a name and an age goes. -/
def pairRemoval (rows : List Row) : Outcome Recording.State (Except Failure Unit) :=
  Action.run Recording.database (Client.dropIndex ⟨({} : MySql), {}⟩ "users" ["Name", "AGE"])
    (listingOf rows)

theorem interleaved_rows_in_reverse :
    ["Name", "AGE"] ≠ [] ∧ interleavedRows.Perm interleavedRows.reverse ∧
      (∀ row ∈ interleavedRows, ∃ part?, Catalog.decodeIndexPart ({} : MySql) row = .ok part?) ∧
      ∃ names names' : List String, names.Nodup ∧ names.Perm names' ∧
        (pairRemoval interleavedRows).statements =
          (names.map fun name => (Dialect.dropIndex ({} : MySql) "users" name, [])) ∧
        (pairRemoval interleavedRows.reverse).statements =
          names'.map fun name => (Dialect.dropIndex ({} : MySql) "users" name, []) := by
  have hcolumns : ["Name", "AGE"] ≠ [] := List.cons_ne_nil _ _
  have hperm : interleavedRows.Perm interleavedRows.reverse := (List.reverse_perm _).symm
  have hdecodes : ∀ row ∈ interleavedRows, ∃ part?,
      Catalog.decodeIndexPart ({} : MySql) row = .ok part? := by
    intro row hrow
    simp only [interleavedRows, List.mem_cons, List.not_mem_nil, or_false] at hrow
    rcases hrow with rfl | rfl | rfl | rfl | rfl <;> exact ⟨_, rfl⟩
  have hsame := index_decisions_in_any_order Recording.database Recording.database
    ⟨({} : MySql), {}⟩ "users" hcolumns hperm hdecodes (s := listingOf interleavedRows)
    (t := listingOf interleavedRows.reverse) rfl rfl
  exact ⟨hcolumns, hperm, hdecodes, (hsame.2 Recording.accepts Recording.accepts).2⟩

example :
    (pairRemoval interleavedRows).statements =
      [("ALTER TABLE `users` DROP INDEX `pair`", []),
        ("ALTER TABLE `users` DROP INDEX `twin`", [])] ∧
    (pairRemoval interleavedRows.reverse).statements =
      [("ALTER TABLE `users` DROP INDEX `twin`", []),
        ("ALTER TABLE `users` DROP INDEX `pair`", [])] := by
  decide +kernel

end SchemaChange
