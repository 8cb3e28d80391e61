import SchemaChange.Proofs.Written
import SchemaChange.Statement

/-!
The tokens of the statements that create a table. They are prescribed by the fields of the table and
not by what the statements are made with: its name, the columns that it lists behind the implicit
one, the key unless a column is declared as the key, the columns of the plain indexes and those of
the unique ones. Types, options and single indexes are spelled by the dialect.
-/
namespace SchemaChange

open Token (IsMark IsWord)

def keywords (texts : List String) : List Token := texts.map .word

/-- Lists of tokens with a comma between each two. -/
def listed (tss : List (List Token)) : List Token := [.sign ','].intercalate tss

def inParentheses (tokens : List Token) : List Token := .sign '(' :: (tokens ++ [.sign ')'])

def nameList (names : List String) : List Token := listed (names.map fun name => [.name name])

/-- The names between the dots of the name of a table. -/
def tableNameTokens (table : String) : List Token :=
  [.sign '.'].intercalate ((Text.QualifiedName.components table).map fun name => [.name name])

theorem Decimal.integerText_eq (n : Int) : integerText n = toString n := by
  unfold integerText numeral
  cases n with
  | ofNat n =>
    have hnat : ¬ (Int.ofNat n < 0) := by simp
    rw [if_neg hnat]
    exact (Nat.toString_eq_ofList_toDigits ..).symm
  | negSucc n =>
    rw [if_pos (Int.negSucc_lt_zero n)]
    change String.ofList ('-' :: Nat.toDigits 10 (n + 1)) = "-" ++ toString (n + 1)
    rw [Nat.toString_eq_ofList_toDigits]
    exact String.ofList_cons

/-- The text in the literal of a default. -/
def DefaultValue.literalText : DefaultValue → String
  | .text s => s
  | .integer n => toString n.toInt
  | .float x => Decimal.FloatLayout.plain.render x
  | .bool b => if b then "1" else "0"

theorem DefaultValue.toText_eq (value : DefaultValue) : value.toText = value.literalText := by
  cases value with
  | text s => rfl
  | integer n => exact Decimal.integerText_eq n.toInt
  | float x => rfl
  | bool b => rfl

/-- The name that an index has, or else one made of the table without its schema, of the columns and
of the word `index`. -/
def Index.statedName (index : Index) (table : String) : String :=
  index.name?.getD
    (Text.QualifiedName.table table ++ "_" ++ "_".intercalate index.columns ++ "_index")

theorem Index.nameFor_eq (index : Index) (table : String) :
    index.nameFor table = index.statedName table := by
  unfold nameFor statedName
  cases index.name? with
  | some name => rfl
  | none => simp [String.intercalate_cons_cons, String.append_assoc]

namespace Table

/-- The columns that a table asks for. Unless it declines, one that counts its rows comes first. -/
def askedColumns (table : Table) : List Column :=
  if table.options.implicitId then
    { name := "id", type := .primaryKey, autoIncrement := true } :: table.columns
  else table.columns

/-- The key that a table asks for. Unless it declines, this is the column that counts its rows. -/
def askedKey? (table : Table) : Option PrimaryKey :=
  if table.options.implicitId then some (.single "id") else table.options.primaryKey?

theorem allColumns_eq (table : Table) : table.allColumns = table.askedColumns := rfl

theorem key?_eq (table : Table) : table.key? = table.askedKey? := rfl

end Table

/-- A dialect whose statements are made of tokens, with those of the parts that it writes in its own
way. -/
class Spelled (δ : Type) [Dialect δ] where
  isMark (d : δ) : IsMark (Dialect.quoteMark d)
  quoteName_eq (d : δ) (name : String) :
    Dialect.quoteName d name = Text.quote (Dialect.quoteMark d) name
  quoteNames_eq (d : δ) (names : List String) :
    Dialect.quoteNames d names = Text.commaList (names.map (Text.quote (Dialect.quoteMark d)))
  quoteTable_eq (d : δ) (table : String) :
    Dialect.quoteTable d table = Text.QualifiedName.quote (Dialect.quoteMark d) table
  /-- The type of a kind of column, in capitals. -/
  capitalType : δ → ColumnType → SqlType
  isWord_type (d : δ) (type : ColumnType) : IsWord (capitalType d type).name
  capitalType_eq (d : δ) (type : ColumnType) :
    capitalType d type = { Dialect.sqlType d type with
      name := String.ofList (Text.upper (Dialect.sqlType d type).name.toList) }
  isWord_autoIncrement (d : δ) : IsWord (Dialect.autoIncrementKeyword d)
  /-- What the options say without quotation is made of words. -/
  IsPlain : δ → TableOptions → Prop
  suffixTokens : δ → TableOptions → List Token
  phrased_suffix (d : δ) (options : TableOptions) : IsPlain d options →
    Phrased (Dialect.quoteMark d) (Dialect.tableSuffix d options).toList (suffixTokens d options)
  indexTokens : δ → (table name : String) → Index → List Token
  written_index (d : δ) (table name : String) (index : Index) :
    Written (Dialect.quoteMark d) (Dialect.addIndex d table name index)
      (indexTokens d table name index)

section

variable {δ : Type} [Dialect δ] (d : δ)

/-- The column is the whole key and counts, in a dialect that wants such a key declared inline. -/
def IsInlineKey (table : Table) (name : String) : Prop :=
  Dialect.declaresKeyInline d = true ∧ table.askedKey? = some (.single name) ∧
    ∃ column ∈ table.askedColumns, column.name = name ∧ column.autoIncrement = true

instance (table : Table) (name : String) : Decidable (IsInlineKey d table name) :=
  inferInstanceAs (Decidable (_ ∧ _ ∧ _))

def keyClauseTokens (names : List String) : List Token :=
  keywords ["PRIMARY", "KEY"] ++ inParentheses (nameList names)

def keyTokens (table : Table) : List (List Token) :=
  match table.askedKey? with
  | some (.single name) => if IsInlineKey d table name then [] else [keyClauseTokens [name]]
  | some (.composite names) => [keyClauseTokens names]
  | none => []

/-- One clause with the columns of all the indexes, if there are any. -/
def indexClauseTokens (keyword : String) (indexes : List Index) : List (List Token) :=
  if indexes = [] then []
  else [.word keyword :: inParentheses (nameList (indexes.flatMap (·.columns)))]

variable [Spelled δ]

def typeTokens (column : Column) : List Token :=
  let type := Spelled.capitalType d column.type
  .word type.name ::
    match column.limit.or type.limit with
    | some limit => inParentheses [.word (toString limit)]
    | none => []

/-- The definition of a column, which may be declared as the key. -/
def columnTokens (column : Column) (isKey : Bool) : List Token :=
  .name column.name :: typeTokens d column ++
    keywords (if column.nullable then ["NULL"] else ["NOT", "NULL"]) ++
    keywords (if isKey then ["PRIMARY", "KEY"] else []) ++
    keywords (if column.autoIncrement then [Dialect.autoIncrementKeyword d] else []) ++
    match column.default? with
    | some default => [.word "DEFAULT", .literal default.literalText]
    | none => []

/-- What stands in the parentheses of a table, between commas. -/
def clauseTokens (table : Table) : List (List Token) :=
  (table.askedColumns.map fun column =>
    columnTokens d column (IsInlineKey d table column.name)) ++
  keyTokens d table ++
  (if Dialect.declaresIndexInline d then
    indexClauseTokens "INDEX" (table.indexes.filter (!·.unique)) else []) ++
  indexClauseTokens "UNIQUE" (table.indexes.filter (·.unique))

def tableTokens (table : Table) : List Token :=
  keywords ["CREATE", "TABLE"] ++ tableNameTokens table.name ++
    inParentheses (listed (clauseTokens d table)) ++
    Spelled.suffixTokens d table.options ++ [.sign ';']

/-- The tokens of all statements, of which the first creates the table. -/
def statementTokens (table : Table) : List (List Token) :=
  tableTokens d table ::
    if Dialect.declaresIndexInline d then []
    else (table.indexes.filter (!·.unique)).map fun index =>
      Spelled.indexTokens d table.name (index.statedName table.name) index

end

theorem inlineKey?_eq_some_iff {δ : Type} [Dialect δ] {d : δ} {table : Table} {name : String} :
    Statement.inlineKey? d table = some name ↔ IsInlineKey d table name := by
  unfold Statement.inlineKey? IsInlineKey
  rw [Table.allColumns_eq, Table.key?_eq]
  by_cases hinline : Dialect.declaresKeyInline d = true
  · rw [if_pos hinline]
    cases table.askedKey? with
    | none => exact ⟨nofun, fun h => nomatch h.2.1⟩
    | some key =>
      cases key with
      | composite columns => exact ⟨nofun, fun h => nomatch h.2.1⟩
      | single key =>
        constructor
        · intro h
          obtain ⟨column, hfind, rfl⟩ := Option.map_eq_some_iff.mp h
          have hfits := List.find?_some hfind
          rw [Bool.and_eq_true, beq_iff_eq] at hfits
          obtain ⟨hname, hauto⟩ := hfits
          exact ⟨hinline, by rw [hname], column, List.mem_of_find?_eq_some hfind, rfl, hauto⟩
        · rintro ⟨-, hkey, column, hmem, hname, hauto⟩
          cases hkey
          have hsome : (table.askedColumns.find? fun column =>
              column.name == name && column.autoIncrement).isSome = true :=
            List.find?_isSome.mpr ⟨column, hmem, by simp [hname, hauto]⟩
          obtain ⟨found, hfind⟩ := Option.isSome_iff_exists.mp hsome
          have hfits := List.find?_some hfind
          rw [Bool.and_eq_true, beq_iff_eq] at hfits
          exact Option.map_eq_some_iff.mpr ⟨found, hfind, hfits.1⟩
  · rw [if_neg hinline]
    exact ⟨nofun, fun h => absurd h.1 hinline⟩

end SchemaChange
