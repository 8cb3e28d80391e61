import SchemaChange.Proofs.TableReader
import SchemaChange.Proofs.Wording

/-!
Where an index is addressed. Readers take from the statements that add, drop and list indexes the
names by which the database finds them. On MySQL these are the names of the table and of the index.
On SQLite an index lies in a schema, which stands in front of its name when it is made and dropped,
and as the last argument of a function when it is listed. A reader goes by its own statement alone,
so that two statements address the same index when they are read alike.
-/
namespace SchemaChange

/-- The arguments of the first call of the function. -/
def argumentsOf (function : String) : List Token → Option (List (List Token))
  | [] => none
  | t :: rest =>
    if t = .word function ∧ rest.head? = some (.sign '(') then splitClauses 0 [] rest.tail
    else argumentsOf function rest

theorem argumentsOf_append {function : String} {before : List Token} (h : .word function ∉ before)
    (rest : List Token) : argumentsOf function (before ++ rest) = argumentsOf function rest := by
  induction before with
  | nil => rfl
  | cons t before ih =>
    have ht : t ≠ .word function := fun heq => h (heq ▸ List.mem_cons_self ..)
    rw [List.cons_append, argumentsOf, if_neg fun hcall => ht hcall.1]
    exact ih fun hmem => h (List.mem_cons_of_mem _ hmem)

theorem argumentsOf_call (function : String) (inner rest : List Token) :
    argumentsOf function (.word function :: inParentheses inner ++ rest) =
      splitClauses 0 [] (inner ++ .sign ')' :: rest) := by
  have hcall : .word function :: inParentheses inner ++ rest =
      .word function :: .sign '(' :: (inner ++ .sign ')' :: rest) := by
    simp [inParentheses]
  rw [hcall, argumentsOf, if_pos ⟨rfl, rfl⟩, List.tail_cons]

namespace MySql

/-- The components of the name of a table, and the name of an index on it. -/
structure IndexAddress where
  table : List String
  index : String
deriving DecidableEq, Repr

/-- The index that a statement adds. -/
def addedIndex? : List Token → Option IndexAddress
  | .word "ALTER" :: .word "TABLE" :: rest =>
    match readDotted rest with
    | (table, .word "ADD" :: .word "INDEX" :: .name index :: .sign '(' :: _) => some ⟨table, index⟩
    | (table, .word "ADD" :: .word "UNIQUE" :: .word "INDEX" :: .name index :: .sign '(' :: _) =>
      some ⟨table, index⟩
    | _ => none
  | _ => none

/-- The index that a statement drops. -/
def droppedIndex? : List Token → Option IndexAddress
  | .word "ALTER" :: .word "TABLE" :: rest =>
    match readDotted rest with
    | (table, [.word "DROP", .word "INDEX", .name index]) => some ⟨table, index⟩
    | _ => none
  | _ => none

/-- Where an index of a table is. -/
def indexAddress (table name : String) : IndexAddress :=
  ⟨Text.QualifiedName.components table, name⟩

theorem addedIndex?_indexTokens (table name : String) (index : Index) :
    addedIndex? (indexTokens table name index) = some (indexAddress table name) := by
  cases hunique : index.unique with
  | false =>
    simp only [indexTokens, hunique, keywords, List.map, List.cons_append, List.nil_append,
      Bool.false_eq_true, if_false, addedIndex?]
    rw [readDotted_table table (by simp)]
    rfl
  | true =>
    simp only [indexTokens, hunique, keywords, List.map, List.cons_append, List.nil_append,
      if_true, addedIndex?]
    rw [readDotted_table table (by simp)]
    rfl

theorem droppedIndex?_tokens (table name : String) :
    droppedIndex? (keywords ["ALTER", "TABLE"] ++ (tableNameTokens table ++
      (keywords ["DROP", "INDEX"] ++ [.name name]))) = some (indexAddress table name) := by
  simp only [keywords, List.map, List.cons_append, List.nil_append, droppedIndex?]
  rw [readDotted_table table (by simp)]
  rfl

end MySql

namespace Sqlite

/-- The schema that an index lies in, unless it is left open, and its name there. -/
structure IndexAddress where
  schema? : Option String
  index : String
deriving DecidableEq, Repr

/-- Where an index of a table is. -/
def indexAddress (table name : String) : IndexAddress := ⟨Text.QualifiedName.schema? table, name⟩

theorem readQualified_beside (table name : String) {rest : List Token}
    (hrest : rest.head? ≠ some (.sign '.')) :
    readQualified (besideTableTokens table name ++ rest) =
      some ((Text.QualifiedName.schema? table, name), rest) :=
  readQualified_append _ name hrest

/-- The index that a statement creates, and the table that it is on. -/
def createdIndex? : List Token → Option (IndexAddress × String)
  | .word "CREATE" :: .word "INDEX" :: rest => readOn rest
  | .word "CREATE" :: .word "UNIQUE" :: .word "INDEX" :: rest => readOn rest
  | _ => none
where
  readOn (rest : List Token) : Option (IndexAddress × String) :=
    match readQualified rest with
    | some ((schema?, index), .word "ON" :: .name table :: .sign '(' :: _) =>
      some (⟨schema?, index⟩, table)
    | _ => none

/-- The index that a statement drops. -/
def droppedIndex? : List Token → Option IndexAddress
  | .word "DROP" :: .word "INDEX" :: rest =>
    match readQualified rest with
    | some ((schema?, index), []) => some ⟨schema?, index⟩
    | _ => none
  | _ => none

theorem createdIndex?_indexTokens (table name : String) (index : Index) :
    createdIndex? (indexTokens table name index) =
      some (indexAddress table name, Text.QualifiedName.table table) := by
  have hon : ∀ rest, createdIndex?.readOn (besideTableTokens table name ++
      (.word "ON" :: .name (Text.QualifiedName.table table) :: .sign '(' :: rest)) =
        some (indexAddress table name, Text.QualifiedName.table table) := by
    intro rest
    rw [createdIndex?.readOn, readQualified_beside table name (by simp)]
    rfl
  cases hunique : index.unique with
  | false =>
    simp only [indexTokens, hunique, keywords, List.map, List.cons_append, List.nil_append,
      Bool.false_eq_true, if_false, createdIndex?]
    exact hon _
  | true =>
    simp only [indexTokens, hunique, keywords, List.map, List.cons_append, List.nil_append,
      if_true, createdIndex?]
    exact hon _

theorem droppedIndex?_tokens (table name : String) :
    droppedIndex? (keywords ["DROP", "INDEX"] ++ besideTableTokens table name) =
      some (indexAddress table name) := by
  have hname := @readQualified_beside table name [] (by simp)
  rw [List.append_nil] at hname
  simp only [keywords, List.map, List.cons_append, List.nil_append, droppedIndex?, hname]
  rfl

/-- The schema of an index as an argument, unless it is left open. -/
def IndexAddress.schemaArgument (address : IndexAddress) : List (List Token) :=
  address.schema?.toList.map fun schema => [.literal schema]

theorem argumentTokens_eq_listed (first : List Token) (table name : String) :
    argumentTokens first table = listed (first :: (indexAddress table name).schemaArgument) := by
  unfold argumentTokens IndexAddress.schemaArgument indexAddress
  cases Text.QualifiedName.schema? table with
  | none => simp [listed]
  | some schema => rfl

theorem splitClauses_argumentTokens {first : List Token} (hfirst : Enclosed first)
    (table name : String) (rest : List Token) :
    splitClauses 0 [] (argumentTokens first table ++ .sign ')' :: rest) =
      some (first :: (indexAddress table name).schemaArgument) := by
  rw [argumentTokens_eq_listed first table name]
  refine splitClauses_listed (List.cons_ne_nil _ _) (fun clause hclause => ?_) rest
  rcases List.mem_cons.mp hclause with rfl | hschema
  · exact hfirst
  · obtain ⟨schema, -, rfl⟩ := List.mem_map.mp hschema
    exact Enclosed.singleton (by simp [IsParenthesis]) nofun

theorem not_mem_tableArgumentTokens (function table : String) :
    .word function ∉ tableArgumentTokens table := by
  unfold tableArgumentTokens argumentTokens
  cases Text.QualifiedName.schema? table with
  | none => simp
  | some schema => simp [listed]

/-- The arguments of the function that lists the indexes of a table. -/
def indexListArguments? (tokens : List Token) : Option (List (List Token)) :=
  argumentsOf "pragma_index_list" tokens

/-- The arguments of the function that lists the columns of an index. -/
def indexInfoArguments? (tokens : List Token) : Option (List (List Token)) :=
  argumentsOf "pragma_index_info" tokens

/-- The name of the index as it was listed. -/
def listedNameTokens : List Token := [.word "il", .sign '.', .word "name"]

theorem listIndexes_arguments (d : Sqlite) (table name : String) :
    let listed := Token.read quoteMark (Dialect.listIndexes d table)
    let schema := (indexAddress table name).schemaArgument
    listed.bind indexListArguments? =
        some ([.literal (Text.QualifiedName.table table)] :: schema) ∧
      listed.bind indexInfoArguments? = some (listedNameTokens :: schema) := by
  intro listed schema
  have hlisted : listed = some _ := (wording d).listIndexes table
  have hliteral : Enclosed [.literal (Text.QualifiedName.table table)] :=
    Enclosed.singleton (by simp [IsParenthesis]) (by simp)
  have hname : Enclosed listedNameTokens :=
    .cons (by simp [IsParenthesis]) (by simp) (.cons (by simp [IsParenthesis]) (by simp)
      (Enclosed.singleton (by simp [IsParenthesis]) (by simp)))
  have hcall : .word "pragma_index_info" ∉
      .word "pragma_index_list" :: inParentheses (tableArgumentTokens table) := by
    have harguments := not_mem_tableArgumentTokens "pragma_index_info" table
    simp [inParentheses, harguments]
  rw [hlisted, Option.bind_some, Option.bind_some]
  constructor
  · rw [indexListArguments?, argumentsOf_append (by simp [indexFieldTokens, SchemaChange.listed]),
      argumentsOf_call]
    exact splitClauses_argumentTokens hliteral table name _
  · rw [indexInfoArguments?, argumentsOf_append (by simp [indexFieldTokens, SchemaChange.listed]),
      argumentsOf_append hcall, argumentsOf_append (by simp), argumentsOf_call]
    exact splitClauses_argumentTokens hname table name _

end Sqlite

theorem addIndex_of_valid {δ : Type} [Dialect δ] (d : δ) (table : String) {index : Index}
    (h : index.check = .ok ()) :
    Statement.addIndex d table index = .ok (Statement.namedIndex d table index) := by
  rw [Statement.addIndex, h]
  rfl

/-- Where a database has no clause for plain indexes, what follows the first statement of a table
adds them one by one. -/
theorem createTable_adds_indexes {δ : Type} [Dialect δ] (d : δ)
    (hinline : Dialect.declaresIndexInline d = false) {table : Table} {statements : List String}
    (h : Statement.createTable d table = .ok statements) :
    ∃ create rest, statements = create :: rest ∧
      rest.map .ok = table.plainIndexes.map (Statement.addIndex d table.name) := by
  obtain ⟨_, hcheck, hcreate⟩ := bind_eq_ok_iff.mp h
  obtain ⟨columns, -, hstatements⟩ := bind_eq_ok_iff.mp hcreate
  obtain ⟨-, -, hindexes, -⟩ := Table.check_eq_ok_iff.mp hcheck
  simp only [hinline, Bool.false_eq_true, if_false] at hstatements
  cases hstatements
  refine ⟨_, _, rfl, ?_⟩
  rw [List.map_map]
  refine List.map_congr_left fun index hindex => ?_
  have hvalid := Index.check_eq_ok_iff.mpr (hindexes index (List.mem_of_mem_filter hindex))
  exact (addIndex_of_valid d table.name hvalid).symm

/-- Every index that is in order can be added, and the statement that adds it and the one that drops
it by its name address the same index. On SQLite the statement that lists the indexes of the table
asks for the table that the index was added to and, each time, for the schema that it lies in; and
what follows the first statement of a table adds its plain indexes in order. -/
theorem added_index_addressed_again :
    (∀ (d : MySql) (table : String) (index : Index), index.check = .ok () →
      ∃ add, Statement.addIndex d table index = .ok add ∧
        let name := index.nameFor table
        let address := MySql.indexAddress table name
        (Token.read MySql.quoteMark add).bind MySql.addedIndex? = some address ∧
          (Token.read MySql.quoteMark (Dialect.dropIndex d table name)).bind
            MySql.droppedIndex? = some address) ∧
    (∀ (d : Sqlite) (table : String) (index : Index), index.check = .ok () →
      ∃ add, Statement.addIndex d table index = .ok add ∧
        let name := index.nameFor table
        let address := Sqlite.indexAddress table name
        let own := Text.QualifiedName.table table
        let listed := Token.read Sqlite.quoteMark (Dialect.listIndexes d table)
        (Token.read Sqlite.quoteMark add).bind Sqlite.createdIndex? = some (address, own) ∧
          (Token.read Sqlite.quoteMark (Dialect.dropIndex d table name)).bind
            Sqlite.droppedIndex? = some address ∧
          listed.bind Sqlite.indexListArguments? =
            some ([.literal own] :: address.schemaArgument) ∧
          listed.bind Sqlite.indexInfoArguments? =
            some (Sqlite.listedNameTokens :: address.schemaArgument)) ∧
    ∀ (d : Sqlite) (table : Table) (statements : List String),
      Statement.createTable d table = .ok statements →
      ∃ create rest, statements = create :: rest ∧
        rest.map .ok = table.plainIndexes.map (Statement.addIndex d table.name) := by
  refine ⟨fun d table index h => ?_, fun d table index h => ?_, fun d table statements h => ?_⟩
  · refine ⟨_, addIndex_of_valid d table h, ?_, ?_⟩
    · have hread := (MySql.written_index d table (index.nameFor table) index).read_eq
      rw [Statement.namedIndex, hread, Option.bind_some]
      exact MySql.addedIndex?_indexTokens table _ index
    · rw [(MySql.wording d).dropIndex, Option.bind_some]
      exact MySql.droppedIndex?_tokens table _
  · refine ⟨_, addIndex_of_valid d table h, ?_, ?_, Sqlite.listIndexes_arguments d table _⟩
    · have hread := (Sqlite.written_index d table (index.nameFor table) index).read_eq
      rw [Statement.namedIndex, hread, Option.bind_some]
      exact Sqlite.createdIndex?_indexTokens table _ index
    · rw [(Sqlite.wording d).dropIndex, Option.bind_some]
      exact Sqlite.droppedIndex?_tokens table _
  · exact createTable_adds_indexes d rfl h

/-- A unique index on columns with marks of both kinds in their names. -/
def markedIndex : Index := { columns := ["it's", "\"so\""], unique := true }

/-- A table behind two dots, with marks in its name and in its schema. -/
def markedTable : Table where
  name := "o'er.\"on\".a\"b"
  columns := [{ name := "it's", type := .string }, { name := "\"so\"", type := .string }]
  indexes := [{ columns := ["it's"] }, markedIndex, { columns := ["\"so\""], name? := some "x.y" }]

theorem marked_index_addressed_again :
    markedIndex.check = .ok () ∧
      (∃ add, Statement.addIndex ({} : MySql) "o'er.\"on\".a\"b" markedIndex = .ok add ∧
        (Token.read MySql.quoteMark add).bind MySql.addedIndex? =
          some ⟨["o'er", "\"on\"", "a\"b"], "a\"b_it's_\"so\"_index"⟩) ∧
      (∃ add, Statement.addIndex ({} : Sqlite) "o'er.\"on\".a\"b" markedIndex = .ok add ∧
        (Token.read Sqlite.quoteMark add).bind Sqlite.createdIndex? =
          some (⟨some "o'er.\"on\"", "a\"b_it's_\"so\"_index"⟩, "a\"b")) ∧
      ∃ create first second,
        Statement.createTable ({} : Sqlite) markedTable = .ok [create, first, second] ∧
        [first, second].map .ok =
          markedTable.plainIndexes.map (Statement.addIndex ({} : Sqlite) markedTable.name) := by
  have hvalid : markedIndex.check = .ok () := by decide
  obtain ⟨hmysql, hsqlite, hcreate⟩ := added_index_addressed_again
  refine ⟨hvalid, ?_, ?_, ?_⟩
  · obtain ⟨add, hadd, hread, -⟩ := hmysql {} "o'er.\"on\".a\"b" markedIndex hvalid
    refine ⟨add, hadd, hread.trans ?_⟩
    decide +kernel
  · obtain ⟨add, hadd, hread, -⟩ := hsqlite {} "o'er.\"on\".a\"b" markedIndex hvalid
    refine ⟨add, hadd, hread.trans ?_⟩
    decide +kernel
  · obtain ⟨create, rest, hstatements, hrest⟩ := hcreate {} markedTable _ rfl
    cases hstatements
    exact ⟨_, _, _, rfl, hrest⟩

end SchemaChange
