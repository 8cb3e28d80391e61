import SchemaChange.Proofs.Schemas

/-!
What the two ways of taking a name apart keep of it. The components between the dots make up the
name again, and so do the text before the last dot and the text after it, which is the last
component. Nothing of a name is lost, and no part that should have been split is kept together. The
parts are read again where they stand in a statement, as many names as there are or a name behind
its schema.
-/
namespace SchemaChange

namespace Text.QualifiedName

/-- The text before the last dot and the text after it, when there is a dot. -/
theorem splitLast_cases (s : List Char) :
    (splitLast s = (none, s) ∧ '.' ∉ s) ∨
      ∃ schema table, splitLast s = (some schema, table) ∧ s = schema ++ '.' :: table ∧
        '.' ∉ table := by
  by_cases hmem : '.' ∈ s
  · right
    obtain ⟨reversedTable, reversedSchema, hsplit, htable⟩ :=
      List.eq_append_cons_of_mem (List.mem_reverse.mpr hmem)
    have hs : s = reversedSchema.reverse ++ '.' :: reversedTable.reverse := by
      rw [← List.reverse_reverse s, hsplit]
      simp
    have hdotless : '.' ∉ reversedTable.reverse := by simpa using htable
    refine ⟨_, _, ?_, hs, hdotless⟩
    rw [hs]
    exact splitLast_append_dot _ hdotless
  · exact Or.inl ⟨splitLast_of_not_mem hmem, hmem⟩

theorem not_mem_of_mem_splitOn {a : Char} {s part : List Char} (h : part ∈ s.splitOn a) :
    a ∉ part := by
  induction s generalizing part with
  | nil =>
    rw [List.splitOn_nil, List.mem_singleton] at h
    rw [h]
    exact List.not_mem_nil
  | cons c s ih =>
    rw [List.splitOn_cons_eq_if_modifyHead] at h
    split at h
    · rcases List.mem_cons.mp h with rfl | hpart
      · exact List.not_mem_nil
      · exact ih hpart
    · next hc =>
      obtain ⟨first, later, hparts⟩ := List.exists_cons_of_ne_nil (List.splitOn_ne_nil a s)
      rw [hparts] at h ih
      rcases List.mem_cons.mp h with rfl | hpart
      · have hfirst : a ∉ first := ih (List.mem_cons_self ..)
        have hne : a ≠ c := fun heq => hc (by simp [heq])
        simp [hne, hfirst]
      · exact ih (List.mem_cons_of_mem first hpart)

/-- How a name is made up of its parts. -/
structure MadeOfParts (name : String) : Prop where
  components : ".".intercalate (components name) = name
  dotless : ∀ part ∈ QualifiedName.components name, '.' ∉ part.toList
  schema_table :
    name = match schema? name with
      | some schema => schema ++ "." ++ table name
      | none => table name
  table_last : (QualifiedName.components name).getLast? = some (table name)

theorem madeOfParts (name : String) : MadeOfParts name where
  components := by
    apply String.toList_injective
    rw [String.toList_intercalate, QualifiedName.components, List.map_map]
    simp [Function.comp_def, List.intercalate_splitOn]
  dotless part hpart := by
    obtain ⟨chars, hchars, rfl⟩ := List.mem_map.mp hpart
    rw [String.toList_ofList]
    exact not_mem_of_mem_splitOn hchars
  schema_table := by
    apply String.toList_injective
    rw [schema?, table]
    rcases splitLast_cases name.toList with ⟨hsplit, -⟩ | ⟨schema, table, hsplit, hname, -⟩
    · rw [hsplit]
      simp
    · rw [hsplit, hname]
      simp
  table_last := by
    rw [QualifiedName.components, table, List.getLast?_map]
    rcases splitLast_cases name.toList with ⟨hsplit, hmem⟩ | ⟨schema, table, hsplit, hname, hmem⟩
    · rw [hsplit, List.splitOn_eq_singleton hmem]
      rfl
    · rw [hsplit, hname, List.splitOn_append_cons_self, List.splitOn_eq_singleton hmem]
      simp

end Text.QualifiedName

/-- The names at the beginning with a dot between each two, and what follows them. -/
def readDotted : List Token → List String × List Token
  | .name name :: .sign '.' :: rest => (name :: (readDotted rest).1, (readDotted rest).2)
  | .name name :: rest => ([name], rest)
  | rest => ([], rest)

theorem readDotted_names {names : List String} (hne : names ≠ []) {rest : List Token}
    (hrest : rest.head? ≠ some (.sign '.')) :
    readDotted ([.sign '.'].intercalate (names.map fun name => [.name name]) ++ rest) =
      (names, rest) := by
  induction names with
  | nil => exact absurd rfl hne
  | cons name names ih =>
    cases names with
    | nil =>
      rw [List.map_singleton, List.intercalate_singleton, List.singleton_append, readDotted]
      intro later hlater
      rw [hlater] at hrest
      exact hrest rfl
    | cons other names =>
      have hnames := ih (List.cons_ne_nil _ _)
      rw [List.map_cons] at hnames
      rw [List.map_cons, List.map_cons, List.intercalate_cons_cons, List.append_assoc,
        List.append_assoc, List.singleton_append, List.singleton_append, readDotted, hnames]

theorem readDotted_table (table : String) {rest : List Token}
    (hrest : rest.head? ≠ some (.sign '.')) :
    readDotted (tableNameTokens table ++ rest) = (Text.QualifiedName.components table, rest) := by
  have hne : Text.QualifiedName.components table ≠ [] := by
    simp [Text.QualifiedName.components, List.splitOn_ne_nil]
  exact readDotted_names hne hrest

/-- A name behind a schema, or by itself, and what follows it. -/
def readQualified : List Token → Option ((Option String × String) × List Token)
  | .name schema :: .sign '.' :: .name name :: rest => some ((some schema, name), rest)
  | .name name :: rest => some ((none, name), rest)
  | _ => none

/-- A name with a schema in front, if there is one. -/
def qualifiedTokens (schema? : Option String) (name : String) : List Token :=
  match schema? with
  | some schema => [.name schema, .sign '.', .name name]
  | none => [.name name]

theorem readQualified_append (schema? : Option String) (name : String) {rest : List Token}
    (hrest : rest.head? ≠ some (.sign '.')) :
    readQualified (qualifiedTokens schema? name ++ rest) = some ((schema?, name), rest) := by
  cases schema? with
  | some schema => rfl
  | none =>
    rw [qualifiedTokens, List.singleton_append, readQualified]
    intro other later hlater
    rw [hlater] at hrest
    exact hrest rfl

theorem tableNameTokens_eq {table : String} (h : table.toList.count '.' ≤ 1) :
    tableNameTokens table =
      qualifiedTokens (Text.QualifiedName.schema? table) (Text.QualifiedName.table table) := by
  rw [tableNameTokens, Text.QualifiedName.components_eq h]
  cases Text.QualifiedName.schema? table with
  | none => rfl
  | some schema => rfl

end SchemaChange
