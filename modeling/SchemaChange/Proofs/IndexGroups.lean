import Mathlib.Data.List.Induction
import Mathlib.Data.List.Nodup
import Mathlib.Data.Set.Basic
import SchemaChange.Catalog.Listing

/-!
What grouping makes of the parts of indexes, however they are mixed: one index for each name, with
the columns of the parts of that name in their order. Requested columns are compared with those of
an index as sets of names in which the case of letters does not count.
-/
namespace SchemaChange.ListedIndex

/-- The columns of the parts with a name. -/
def columnsOf (name : String) (parts : List IndexPart) : List String :=
  (parts.filter fun part => part.index = name).map (·.column)

theorem columnsOf_append (name : String) (parts : List IndexPart) (part : IndexPart) :
    columnsOf name (parts ++ [part]) =
      columnsOf name parts ++ if part.index = name then [part.column] else [] := by
  by_cases h : part.index = name <;> simp [columnsOf, h]

theorem columnsOf_eq_nil {name : String} {parts : List IndexPart}
    (h : ∀ part ∈ parts, part.index ≠ name) : columnsOf name parts = [] := by
  simpa [columnsOf] using h

/-- What grouping has made of the parts so far. -/
structure Groups (parts : List IndexPart) (indexes : List ListedIndex) : Prop where
  nodup : (indexes.map (·.name)).Nodup
  name_mem : ∀ name, name ∈ indexes.map (·.name) ↔ ∃ part ∈ parts, part.index = name
  columns_eq : ∀ index ∈ indexes, index.columns = columnsOf index.name parts

section

variable {part : IndexPart} {indexes : List ListedIndex}

theorem insertPart_append_cons {before after : List ListedIndex} {index : ListedIndex}
    (hbefore : part.index ∉ before.map (·.name)) (hname : index.name = part.index) :
    insertPart part (before ++ index :: after) =
      before ++ { index with columns := index.columns ++ [part.column] } :: after := by
  induction before with
  | nil => rw [List.nil_append, insertPart, if_pos hname, List.nil_append]
  | cons first before ih =>
    obtain ⟨hfirst, hlater⟩ := List.ne_and_not_mem_of_not_mem_cons hbefore
    rw [List.cons_append, insertPart, if_neg hfirst.symm, ih hlater, List.cons_append]

theorem insertPart_of_not_mem (h : part.index ∉ indexes.map (·.name)) :
    insertPart part indexes = indexes ++ [⟨part.index, [part.column], part.unique⟩] := by
  induction indexes with
  | nil => rfl
  | cons index rest ih =>
    obtain ⟨hindex, hrest⟩ := List.ne_and_not_mem_of_not_mem_cons h
    rw [insertPart, if_neg hindex.symm, ih hrest, List.cons_append]

/-- A part goes to the first index of its name, or starts a new one. -/
theorem insertPart_cases (part : IndexPart) (indexes : List ListedIndex) :
    (∃ before index after, indexes = before ++ index :: after ∧ index.name = part.index ∧
      insertPart part indexes =
        before ++ { index with columns := index.columns ++ [part.column] } :: after) ∨
    (part.index ∉ indexes.map (·.name) ∧
      insertPart part indexes = indexes ++ [⟨part.index, [part.column], part.unique⟩]) := by
  by_cases hlisted : part.index ∈ indexes.map (·.name)
  · left
    obtain ⟨names, later, hnames, hfirst⟩ := List.eq_append_cons_of_mem hlisted
    obtain ⟨before, rest, rfl, rfl, hrest⟩ := List.map_eq_append_iff.mp hnames
    obtain ⟨index, after, rfl, hname, -⟩ := List.map_eq_cons_iff.mp hrest
    exact ⟨before, index, after, rfl, hname, insertPart_append_cons hfirst hname⟩
  · exact Or.inr ⟨hlisted, insertPart_of_not_mem hlisted⟩

theorem map_name_insertPart (part : IndexPart) (indexes : List ListedIndex) :
    (insertPart part indexes).map (·.name) =
      if part.index ∈ indexes.map (·.name) then indexes.map (·.name)
      else indexes.map (·.name) ++ [part.index] := by
  rcases insertPart_cases part indexes with
    ⟨before, own, after, rfl, hname, hinsert⟩ | ⟨hnew, hinsert⟩
  · have hlisted : part.index ∈ (before ++ own :: after).map (·.name) := by simp [hname]
    rw [hinsert, if_pos hlisted, List.map_append, List.map_append, List.map_cons, List.map_cons]
  · rw [hinsert, if_neg hnew, List.map_append, List.map_singleton]

/-- The indexes of other names stay, and that of the part has one column more. -/
theorem mem_insertPart {index : ListedIndex} (hnodup : (indexes.map (·.name)).Nodup)
    (h : index ∈ insertPart part indexes) :
    (index ∈ indexes ∧ index.name ≠ part.index) ∨
      (index.name = part.index ∧
        ((∃ old ∈ indexes, old.name = part.index ∧ index.columns = old.columns ++ [part.column]) ∨
          (part.index ∉ indexes.map (·.name) ∧ index.columns = [part.column]))) := by
  rcases insertPart_cases part indexes with
    ⟨before, own, after, rfl, hname, hinsert⟩ | ⟨hnew, hinsert⟩
  · have hown : own ∈ before ++ own :: after := List.mem_append_right _ (List.mem_cons_self ..)
    rw [List.map_append, List.map_cons, hname] at hnodup
    obtain ⟨-, hlater, hapart⟩ := List.nodup_append.mp hnodup
    rw [hinsert] at h
    rcases List.mem_append.mp h with hbefore | hrest
    · refine Or.inl ⟨List.mem_append_left _ hbefore, fun heq => ?_⟩
      exact hapart _ (List.mem_map_of_mem hbefore) _ (List.mem_cons_self ..) heq
    · rcases List.mem_cons.mp hrest with rfl | hafter
      · exact Or.inr ⟨hname, Or.inl ⟨own, hown, hname, rfl⟩⟩
      · refine Or.inl ⟨List.mem_append_right _ (List.mem_cons_of_mem _ hafter), fun heq => ?_⟩
        exact (List.nodup_cons.mp hlater).1 (List.mem_map.mpr ⟨index, hafter, heq⟩)
  · rw [hinsert] at h
    rcases List.mem_append.mp h with hold | hlast
    · exact Or.inl ⟨hold, fun heq => hnew (List.mem_map.mpr ⟨index, hold, heq⟩)⟩
    · rw [List.mem_singleton.mp hlast]
      exact Or.inr ⟨rfl, Or.inr ⟨hnew, rfl⟩⟩

end

theorem mem_map_name_insertPart {part : IndexPart} {indexes : List ListedIndex} {name : String} :
    name ∈ (insertPart part indexes).map (·.name) ↔
      name ∈ indexes.map (·.name) ∨ part.index = name := by
  rw [map_name_insertPart]
  by_cases h : part.index ∈ indexes.map (·.name)
  · rw [if_pos h]
    exact ⟨Or.inl, fun hname => hname.elim id fun heq => heq ▸ h⟩
  · rw [if_neg h, List.mem_append, List.mem_singleton, eq_comm (a := name)]

/-- One more part keeps the groups in order. -/
theorem Groups.step {parts : List IndexPart} {indexes : List ListedIndex}
    (h : Groups parts indexes) (part : IndexPart) :
    Groups (parts ++ [part]) (insertPart part indexes) where
  nodup := by
    rw [map_name_insertPart]
    by_cases hnew : part.index ∈ indexes.map (·.name)
    · rw [if_pos hnew]
      exact h.nodup
    · rw [if_neg hnew]
      exact List.nodup_append.mpr ⟨h.nodup, by simp, by simpa using hnew⟩
  name_mem name := by
    rw [mem_map_name_insertPart, h.name_mem]
    simp [or_and_right, exists_or]
  columns_eq index hmem := by
    rw [columnsOf_append]
    rcases mem_insertPart h.nodup hmem with
      ⟨hold, hne⟩ | ⟨heq, ⟨old, hold, hname, hcolumns⟩ | ⟨hnew, hcolumns⟩⟩
    · rw [if_neg (Ne.symm hne), List.append_nil]
      exact h.columns_eq index hold
    · rw [if_pos heq.symm, hcolumns, h.columns_eq old hold, hname, heq]
    · rw [if_pos heq.symm, hcolumns, columnsOf_eq_nil, List.nil_append]
      intro other hother hindex
      exact hnew ((h.name_mem _).mpr ⟨other, hother, hindex.trans heq⟩)

theorem groups_ofParts (parts : List IndexPart) : Groups parts (ofParts parts) := by
  induction parts using List.reverseRecOn with
  | nil => exact ⟨by simp [ofParts], by simp [ofParts], by simp [ofParts]⟩
  | append_singleton parts part ih =>
    rw [ofParts, List.foldl_append]
    exact ih.step part

/-- Names apart from their order and from the case of their letters. -/
def foldedNames (names : List String) : Set (List Char) :=
  {folded | ∃ name ∈ names, Text.lower name.toList = folded}

theorem foldedNames_subset_iff {names others : List String} :
    foldedNames names ⊆ foldedNames others ↔
      ∀ name ∈ names, ∃ other ∈ others, Text.sameName other name = true := by
  constructor
  · intro h name hname
    obtain ⟨other, hother, heq⟩ := h ⟨name, hname, rfl⟩
    exact ⟨other, hother, beq_iff_eq.mpr heq⟩
  · rintro h _ ⟨name, hname, rfl⟩
    obtain ⟨other, hother, heq⟩ := h name hname
    exact ⟨other, hother, beq_iff_eq.mp heq⟩

theorem covers_iff {index : ListedIndex} {requested : List String} :
    index.covers requested = true ↔ foldedNames requested ⊆ foldedNames index.columns := by
  rw [foldedNames_subset_iff]
  simp only [covers, List.all_eq_true, List.any_eq_true]

theorem isExactly_iff {index : ListedIndex} {requested : List String} :
    index.isExactly requested = true ↔ foldedNames index.columns = foldedNames requested := by
  rw [Set.Subset.antisymm_iff, foldedNames_subset_iff, foldedNames_subset_iff, and_comm]
  simp only [isExactly, covers, Bool.and_eq_true, List.all_eq_true, List.any_eq_true,
    Text.sameName_comm]

/-- Some index of a name has exactly the requested columns when the parts of that name do. -/
theorem exists_isExactly_iff {parts : List IndexPart} {requested : List String} {name : String}
    (hrequested : requested ≠ []) :
    (∃ index ∈ ofParts parts, index.isExactly requested = true ∧ index.name = name) ↔
      foldedNames (columnsOf name parts) = foldedNames requested := by
  have h := groups_ofParts parts
  constructor
  · rintro ⟨index, hmem, hexactly, rfl⟩
    rw [← h.columns_eq index hmem]
    exact isExactly_iff.mp hexactly
  · intro heq
    obtain ⟨column, hcolumn⟩ := List.exists_mem_of_ne_nil requested hrequested
    have hfolded : Text.lower column.toList ∈ foldedNames requested := ⟨column, hcolumn, rfl⟩
    rw [← heq] at hfolded
    obtain ⟨own, hown, -⟩ := hfolded
    have hpart : ∃ part ∈ parts, part.index = name := by
      by_contra hnone
      have hnil := columnsOf_eq_nil fun part hpart hindex => hnone ⟨part, hpart, hindex⟩
      rw [hnil] at hown
      cases hown
    obtain ⟨index, hmem, rfl⟩ := List.mem_map.mp ((h.name_mem name).mpr hpart)
    exact ⟨index, hmem, isExactly_iff.mpr (h.columns_eq index hmem ▸ heq), rfl⟩

end SchemaChange.ListedIndex
