import SchemaChange.Catalog.Listing
import SchemaChange.Row
import SchemaChange.Schema.Table
import SchemaChange.Text.Phrase

/-!
The SQL of one family of databases. What most families write in the same way has a default here, and
a dialect states only where it differs. A dialect that can also read its own catalog decodes the
rows that its listing queries return.
-/
namespace SchemaChange

class Dialect (δ : Type) where
  name : δ → String
  quoteMark : δ → Char
  quoteTable (d : δ) (table : String) : String := Text.QualifiedName.quote (quoteMark d) table
  quoteName (d : δ) (name : String) : String := Text.quote (quoteMark d) name
  quoteNames (d : δ) (names : List String) : String := Text.commaList (names.map (quoteName d))
  sqlType : δ → ColumnType → SqlType
  autoIncrementKeyword : δ → String
  /-- A column that counts has to be declared as the key where it is defined. -/
  declaresKeyInline : δ → Bool := fun _ => false
  /-- An index that is not unique may be declared with its table. -/
  declaresIndexInline : δ → Bool := fun _ => true
  tableSuffix : δ → TableOptions → Option String := fun _ _ => none
  columnPosition : δ → Column → Option String := fun _ _ => none
  renameTable (d : δ) (table newName : String) : String :=
    Text.phrase ["ALTER TABLE", quoteTable d table, "RENAME TO", quoteTable d newName]
  renameColumn : δ → (table column newName : String) → ListedColumn → String
  addIndex (d : δ) (table name : String) (index : Index) : String :=
    Text.phrase ["CREATE", if index.unique then "UNIQUE INDEX" else "INDEX", quoteName d name, "ON",
      quoteTable d table, Text.parenthesized (quoteNames d index.columns)]
  dropIndex : δ → (table name : String) → String
  createDatabase : δ → (name : String) → DatabaseOptions → Except Failure String
  dropDatabase : δ → (name : String) → Except Failure String
  listTables : δ → (schema : Option String) → String
  listColumns : δ → (table : String) → String
  listIndexes : δ → (table : String) → String

/-- The type of the columns of a kind given by its name. -/
def Dialect.sqlTypeNamed {δ : Type} [Dialect δ] (d : δ) (typeName : String) :
    Except Failure SqlType :=
  (ColumnType.ofName typeName).map (sqlType d)

class Catalog (δ : Type) extends Dialect δ where
  decodeTable : δ → Row → Except Failure String
  decodeColumn : δ → Row → Except Failure ListedColumn
  /-- A part of an index that is no column, such as an expression, decodes to nothing. -/
  decodeIndexPart : δ → Row → Except Failure (Option IndexPart)

end SchemaChange
