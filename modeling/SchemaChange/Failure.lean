import SchemaChange.Schema.ColumnType
import SchemaChange.Text.Escaped
import SchemaChange.Text.Utf8
import SchemaChange.Timestamp.Text
import SchemaChange.Value

/-!
Why an operation fails. A failure is a cause with the data that its message shows; each cause is of
one kind, and the wording of all of them stands here. What a database reports of itself comes as a
kind and a text, and passes unchanged.
-/
namespace SchemaChange

inductive FailureKind where
  | connection
  | unsupportedType
  | columnNotFound
  | indexNotFound
  | execution
  | unsupported
  | argument
  | fromValue
  | outOfRange
  | runtime
deriving DecidableEq, Repr

namespace FailureKind

def all : List FailureKind :=
  [.connection, .unsupportedType, .columnNotFound, .indexNotFound, .execution, .unsupported,
    .argument, .fromValue, .outOfRange, .runtime]

def name : FailureKind → String
  | connection => "Connection"
  | unsupportedType => "UnsupportedType"
  | columnNotFound => "ColumnNotFound"
  | indexNotFound => "IndexNotFound"
  | execution => "Execution"
  | unsupported => "Unsupported"
  | argument => "Argument"
  | fromValue => "FromValue"
  | outOfRange => "OutOfRange"
  | runtime => "Runtime"

def ofName? (name : String) : Option FailureKind := all.find? fun kind => kind.name == name

end FailureKind

inductive Failure where
  | unknownAddress (url : String)
  | unknownType (name : String)
  | missingColumn (table column : String)
  | missingIndex (table : String) (columns : List String)
  | databaseCreation (name : String)
  | databaseRemoval (name : String)
  | unnamedTable
  | unnamedColumn (type : ColumnType)
  | emptyIndex
  | unnamedIndexColumn (columns : List String)
  | emptyKey (table : String)
  | emptyLookup (table : String)
  | mismatch (value : Value) (wanted : String)
  | unfit (number : Int) (fault : Decimal.NumeralFault)
  | unreadableNumber (text : String) (fault : Decimal.NumeralFault)
  | unreadableBytes (fault : Text.Utf8.Fault)
  | unreadableTime (text : String) (fault : Timestamp.TextFault)
  | missingCell (column : String) (columns : List String)
  | missingPosition (position count : Nat)
  | reported (kind : FailureKind) (detail : String)
deriving DecidableEq

namespace Failure

def kind : Failure → FailureKind
  | unknownAddress _ => .connection
  | unknownType _ => .unsupportedType
  | missingColumn .. => .columnNotFound
  | missingIndex .. => .indexNotFound
  | databaseCreation _ | databaseRemoval _ => .unsupported
  | unnamedTable | unnamedColumn _ | emptyIndex | unnamedIndexColumn _ | emptyKey _
  | emptyLookup _ => .argument
  | mismatch .. | unfit .. | unreadableNumber .. | unreadableBytes _ | unreadableTime .. =>
    .fromValue
  | missingCell .. | missingPosition .. => .outOfRange
  | reported kind _ => kind

/-- What is wrong, without the kind of the failure. -/
def detail : Failure → String
  | unknownAddress url => "Unsupport url `" ++ url ++ "`"
  | unknownType name => "The type: \"" ++ name ++ "\" is not supported"
  | missingColumn table column =>
    "The specified column doesn't exist: " ++ table ++ "." ++ column
  | missingIndex table columns =>
    "No index on " ++ table ++ " with columns " ++ Text.quotations columns
  | databaseCreation name =>
    "Sqlite has no CREATE DATABASE, open a new file instead of `" ++ name ++ "`"
  | databaseRemoval name =>
    "Sqlite has no DROP DATABASE, remove the file of `" ++ name ++ "` instead"
  | unnamedTable => "Create table with empty name"
  | unnamedColumn type => "Column of type `" ++ type.name ++ "` has an empty name"
  | emptyIndex => "Index without columns"
  | unnamedIndexColumn columns =>
    "Index over " ++ Text.quotations columns ++ " has an empty column name"
  | emptyKey table => "Empty primary key list on table `" ++ table ++ "`"
  | emptyLookup table => "Index lookup on `" ++ table ++ "` without columns"
  | mismatch value wanted => "Invalid value: " ++ value.describe ++ ", output type: " ++ wanted
  | unfit number fault =>
    "Invalid value: " ++ Decimal.integerText number ++ ", error: " ++ fault.message
  | unreadableNumber text fault =>
    "Invalid value: " ++ Text.quotation text ++ ", error: " ++ fault.message
  | unreadableBytes fault => "Invalid utf8 text: " ++ fault.message
  | unreadableTime text fault => "Invalid timestamp `" ++ text ++ "`: " ++ fault.message
  | missingCell column columns =>
    "Column `" ++ column ++ "` not found, columns: " ++ Text.quotations columns
  | missingPosition position count =>
    "Index out of range: index: " ++ Decimal.integerText position ++ ", values length: " ++
      Decimal.integerText count
  | reported _ detail => detail

/-- The kind of the failure, then its detail between backquotes. -/
def message (f : Failure) : String := f.kind.name ++ ": `" ++ f.detail ++ "`"

end Failure

end SchemaChange
