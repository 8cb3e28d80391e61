import SchemaChange.Proofs.IndexGroups

/-!
Grouping loses, invents and mixes nothing. There is exactly one list of indexes that groups parts:
its names are those of the parts, each once and in the order in which they appear first, and each
index has the columns of its parts in their order, as often as they come, and is unique when its
first part says so. One more part either goes behind the columns of the index that has its name, or
starts an index behind the others; from this the properties follow part by part. The parts that the
indexes have by themselves are grouped into the same indexes again.
-/
namespace SchemaChange.ListedIndex

/-- The first part with a name. -/
def firstPart? (name : String) (parts : List IndexPart) : Option IndexPart :=
  parts.find? fun part => part.index = name

/-- How many parts stand before the first one with a name. -/
def firstPlace (name : String) (parts : List IndexPart) : Nat :=
  parts.findIdx fun part => part.index = name

/-- The indexes are the groups of the parts, in the order of their first parts. -/
structure IsGrouping (parts : List IndexPart) (indexes : List ListedIndex) : Prop
    extends Groups parts indexes where
  ascending : (indexes.map (·.name)).Pairwise fun name later =>
    firstPlace name parts < firstPlace later parts
  unique_eq : ∀ index ∈ indexes,
    (firstPart? index.name parts).map (·.unique) = some index.unique
  columns_ne_nil : ∀ index ∈ indexes, index.columns ≠ []

section

variable {parts more : List IndexPart} {indexes others : List ListedIndex} {name : String}

theorem firstPlace_lt_length (h : ∃ part ∈ parts, part.index = name) :
    firstPlace name parts < parts.length :=
  List.findIdx_lt_length.mpr (by simpa using h)

/-- Parts that follow do not move the first part of a name. -/
theorem firstPlace_append (h : ∃ part ∈ parts, part.index = name) :
    firstPlace name (parts ++ more) = firstPlace name parts := by
  rw [firstPlace, List.findIdx_append]
  exact if_pos (firstPlace_lt_length h)

theorem length_le_firstPlace_append (h : ∀ part ∈ parts, part.index ≠ name) :
    parts.length ≤ firstPlace name (parts ++ more) := by
  have hnone : ¬ parts.findIdx (fun part => part.index = name) < parts.length := by
    rw [List.findIdx_lt_length]
    simpa using h
  rw [firstPlace, List.findIdx_append, if_neg hnone]
  exact Nat.le_add_left _ _

theorem firstPart?_append_of_some {first : IndexPart} (h : firstPart? name parts = some first) :
    firstPart? name (parts ++ more) = some first := by
  unfold firstPart? at h ⊢
  rw [List.find?_append, h, Option.some_or]

theorem firstPart?_append_of_not_mem (h : ∀ part ∈ parts, part.index ≠ name) :
    firstPart? name (parts ++ more) = firstPart? name more := by
  have hnone : parts.find? (fun part => part.index = name) = none := by
    simpa using h
  rw [firstPart?, List.find?_append, hnone, Option.none_or]
  rfl

theorem Groups.columns_ne_nil (h : Groups parts indexes) {index : ListedIndex}
    (hmem : index ∈ indexes) : index.columns ≠ [] := by
  obtain ⟨part, hpart, hname⟩ := (h.name_mem index.name).mp (List.mem_map_of_mem hmem)
  have hcolumn : part.column ∈ columnsOf index.name parts :=
    List.mem_map_of_mem (List.mem_filter.mpr ⟨hpart, by simpa using hname⟩)
  rw [h.columns_eq index hmem]
  exact List.ne_nil_of_mem hcolumn

theorem Groups.forall_ne_of_not_mem (h : Groups parts indexes)
    (hnew : name ∉ indexes.map (·.name)) : ∀ part ∈ parts, part.index ≠ name :=
  fun part hpart heq => hnew ((h.name_mem name).mpr ⟨part, hpart, heq⟩)

/-- The name of a part stands at its old place, or comes behind all others. -/
theorem IsGrouping.ascending_step (h : IsGrouping parts indexes) (part : IndexPart) :
    ((insertPart part indexes).map (·.name)).Pairwise fun name later =>
      firstPlace name (parts ++ [part]) < firstPlace later (parts ++ [part]) := by
  have hold : (indexes.map (·.name)).Pairwise fun name later =>
      firstPlace name (parts ++ [part]) < firstPlace later (parts ++ [part]) := by
    refine h.ascending.imp_of_mem fun hname hlater hlt => ?_
    rwa [firstPlace_append ((h.name_mem _).mp hname), firstPlace_append ((h.name_mem _).mp hlater)]
  rw [map_name_insertPart]
  by_cases hlisted : part.index ∈ indexes.map (·.name)
  · rwa [if_pos hlisted]
  · rw [if_neg hlisted]
    refine List.pairwise_append.mpr ⟨hold, List.pairwise_singleton _ _, ?_⟩
    intro name hname later hlater
    have hpart := (h.name_mem name).mp hname
    rw [List.mem_singleton.mp hlater, firstPlace_append hpart]
    exact Nat.lt_of_lt_of_le (firstPlace_lt_length hpart)
      (length_le_firstPlace_append (h.forall_ne_of_not_mem hlisted))

/-- An index is unique when an old one of its name is, or the part that starts it. -/
theorem unique_of_mem_insertPart {part : IndexPart} {index : ListedIndex}
    (h : index ∈ insertPart part indexes) :
    (∃ old ∈ indexes, old.name = index.name ∧ old.unique = index.unique) ∨
      (part.index ∉ indexes.map (·.name) ∧ part.index = index.name ∧
        part.unique = index.unique) := by
  rcases insertPart_cases part indexes with
    ⟨before, own, after, rfl, -, hinsert⟩ | ⟨hnew, hinsert⟩
  · left
    rw [hinsert] at h
    rcases List.mem_append.mp h with hbefore | hrest
    · exact ⟨index, List.mem_append_left _ hbefore, rfl, rfl⟩
    · rcases List.mem_cons.mp hrest with rfl | hafter
      · exact ⟨own, List.mem_append_right _ (List.mem_cons_self ..), rfl, rfl⟩
      · exact ⟨index, List.mem_append_right _ (List.mem_cons_of_mem _ hafter), rfl, rfl⟩
  · rw [hinsert] at h
    rcases List.mem_append.mp h with hold | hlast
    · exact Or.inl ⟨index, hold, rfl, rfl⟩
    · rw [List.mem_singleton.mp hlast]
      exact Or.inr ⟨hnew, rfl, rfl⟩

theorem IsGrouping.unique_step (h : IsGrouping parts indexes) (part : IndexPart) :
    ∀ index ∈ insertPart part indexes,
      (firstPart? index.name (parts ++ [part])).map (·.unique) = some index.unique := by
  intro index hindex
  rcases unique_of_mem_insertPart hindex with
    ⟨old, hold, hname, hunique⟩ | ⟨hnew, hname, hunique⟩
  · obtain ⟨first, hfirst, hword⟩ := Option.map_eq_some_iff.mp (h.unique_eq old hold)
    rw [← hname, firstPart?_append_of_some hfirst, Option.map_some, hword, hunique]
  · rw [← hname, firstPart?_append_of_not_mem (h.forall_ne_of_not_mem hnew), ← hunique]
    simp [firstPart?]

theorem IsGrouping.step (h : IsGrouping parts indexes) (part : IndexPart) :
    IsGrouping (parts ++ [part]) (insertPart part indexes) where
  toGroups := h.toGroups.step part
  ascending := h.ascending_step part
  unique_eq := h.unique_step part
  columns_ne_nil _ hmem := (h.toGroups.step part).columns_ne_nil hmem

theorem isGrouping_ofParts (parts : List IndexPart) : IsGrouping parts (ofParts parts) := by
  induction parts using List.reverseRecOn with
  | nil => exact ⟨groups_ofParts [], List.Pairwise.nil, by simp [ofParts], by simp [ofParts]⟩
  | append_singleton parts part ih =>
    rw [ofParts, List.foldl_append]
    exact ih.step part

/-- The same names in the same order, and then the same indexes. -/
theorem IsGrouping.eq (h : IsGrouping parts indexes) (h' : IsGrouping parts others) :
    indexes = others := by
  have hnames : indexes.map (·.name) = others.map (·.name) := by
    refine List.Perm.eq_of_pairwise (fun _ _ _ _ hlt hgt => absurd hlt (Nat.lt_asymm hgt))
      h.ascending h'.ascending ?_
    exact (List.perm_ext_iff_of_nodup h.nodup h'.nodup).mpr fun name =>
      (h.name_mem name).trans (h'.name_mem name).symm
  have hindex : ∀ index ∈ indexes, ∀ other ∈ others, index.name = other.name → index = other := by
    intro index hmem other hmem' hname
    have hcolumns : index.columns = other.columns := by
      rw [h.columns_eq index hmem, h'.columns_eq other hmem', hname]
    have hunique : some index.unique = some other.unique := by
      rw [← h.unique_eq index hmem, ← h'.unique_eq other hmem', hname]
    calc index = ⟨index.name, index.columns, index.unique⟩ := rfl
      _ = other := by rw [hname, hcolumns, Option.some.inj hunique]
  refine List.ext_getElem (by simpa using congrArg List.length hnames) fun i hi hi' => ?_
  have hname : (indexes.map (·.name))[i]? = (others.map (·.name))[i]? := by rw [hnames]
  rw [List.getElem?_map, List.getElem?_map, List.getElem?_eq_getElem hi,
    List.getElem?_eq_getElem hi'] at hname
  exact hindex _ (List.getElem_mem hi) _ (List.getElem_mem hi') (Option.some.inj hname)

end

/-- The parts that an index has by itself. -/
def toParts (index : ListedIndex) : List IndexPart :=
  index.columns.map fun column => ⟨index.name, column, index.unique⟩

section

variable {before indexes : List ListedIndex} {name : String}

theorem foldl_insertPart_columns (hnew : name ∉ before.map (·.name)) (unique : Bool)
    (columns later : List String) :
    (later.map fun column => (⟨name, column, unique⟩ : IndexPart)).foldl
        (fun indexes part => insertPart part indexes) (before ++ [⟨name, columns, unique⟩]) =
      before ++ [⟨name, columns ++ later, unique⟩] := by
  induction later generalizing columns with
  | nil => rw [List.map_nil, List.foldl_nil, List.append_nil]
  | cons column later ih =>
    rw [List.map_cons, List.foldl_cons, insertPart_append_cons hnew rfl, ih, List.append_assoc,
      List.singleton_append]

theorem foldl_insertPart_toParts {index : ListedIndex} (hnew : index.name ∉ before.map (·.name))
    (hcolumns : index.columns ≠ []) :
    index.toParts.foldl (fun indexes part => insertPart part indexes) before =
      before ++ [index] := by
  obtain ⟨column, later, hfirst⟩ := List.exists_cons_of_ne_nil hcolumns
  have hpart : insertPart ⟨index.name, column, index.unique⟩ before =
      before ++ [⟨index.name, [column], index.unique⟩] := insertPart_of_not_mem hnew
  rw [toParts, hfirst, List.map_cons, List.foldl_cons, hpart,
    foldl_insertPart_columns hnew index.unique [column] later, List.singleton_append, ← hfirst]

/-- Indexes that follow others of other names are grouped behind them as they are. -/
theorem foldl_insertPart_flatMap (hnodup : ((before ++ indexes).map (·.name)).Nodup)
    (hcolumns : ∀ index ∈ indexes, index.columns ≠ []) :
    (indexes.flatMap toParts).foldl (fun indexes part => insertPart part indexes) before =
      before ++ indexes := by
  induction indexes generalizing before with
  | nil => rw [List.flatMap_nil, List.foldl_nil, List.append_nil]
  | cons index indexes ih =>
    obtain ⟨hindex, hlater⟩ := List.forall_mem_cons.mp hcolumns
    have hnew : index.name ∉ before.map (·.name) := by
      rw [List.map_append, List.map_cons] at hnodup
      exact fun hmem => (List.nodup_append.mp hnodup).2.2 _ hmem _ (List.mem_cons_self ..) rfl
    rw [List.append_cons] at hnodup ⊢
    rw [List.flatMap_cons, List.foldl_append, foldl_insertPart_toParts hnew hindex,
      ih hnodup hlater]

end

/-- The index and the column that a part names. -/
def named (part : IndexPart) : String × String := (part.index, part.column)

theorem named_insertPart_perm (part : IndexPart) (indexes : List ListedIndex) :
    (((insertPart part indexes).flatMap toParts).map named).Perm
      ((indexes.flatMap toParts).map named ++ [named part]) := by
  rcases insertPart_cases part indexes with
    ⟨before, own, after, rfl, hname, hinsert⟩ | ⟨-, hinsert⟩
  · have hown : (toParts { own with columns := own.columns ++ [part.column] }).map named =
        own.toParts.map named ++ [named part] := by
      simp [toParts, named, hname]
    rw [hinsert]
    simp only [List.flatMap_append, List.flatMap_cons, List.map_append, hown, List.append_assoc]
    exact (List.perm_append_comm.append_left _).append_left _
  · rw [hinsert, List.flatMap_append, List.map_append]
    exact List.Perm.refl _

/-- The indexes have the columns that the parts name, each as often. -/
theorem named_ofParts_perm (parts : List IndexPart) :
    (((ofParts parts).flatMap toParts).map named).Perm (parts.map named) := by
  induction parts using List.reverseRecOn with
  | nil => exact List.Perm.refl _
  | append_singleton parts part ih =>
    rw [ofParts, List.foldl_append, List.map_append]
    exact (named_insertPart_perm part (ofParts parts)).trans (ih.append_right _)

/-- Grouping makes of parts the one list of indexes that groups them, in which nothing is lost and
nothing added, and which is made again of the parts that its indexes have. -/
theorem parts_grouped_once (parts : List IndexPart) :
    (∀ indexes, ofParts parts = indexes ↔ IsGrouping parts indexes) ∧
      (((ofParts parts).flatMap toParts).map named).Perm (parts.map named) ∧
      ofParts ((ofParts parts).flatMap toParts) = ofParts parts := by
  have h := isGrouping_ofParts parts
  refine ⟨fun indexes => ⟨fun heq => heq ▸ h, h.eq⟩, named_ofParts_perm parts, ?_⟩
  exact foldl_insertPart_flatMap h.nodup h.columns_ne_nil

/-- Of parts that disagree the first says whether the index is unique. -/
example :
    ofParts [⟨"pair", "b", true⟩, ⟨"one", "a", false⟩, ⟨"pair", "a", false⟩, ⟨"pair", "b", true⟩] =
      [⟨"pair", ["b", "a", "b"], true⟩, ⟨"one", ["a"], false⟩] := by
  decide

end SchemaChange.ListedIndex
