import SchemaChange.Client.Ledger
import SchemaChange.Proofs.NumeralGrammar
import SchemaChange.Sqlite

/-!
Rows as a protocol of texts returns them. Such a protocol gives texts and whole numbers as bytes,
numbers in decimal digits, and leaves null as it is. Nothing that is decoded depends on it: a row of
a catalog or of the ledger and its text form decode to the same, or fail in the same way.
-/
namespace SchemaChange

/-- Truth values and floats have no text form of their own. -/
def Value.textForm : Value → Value
  | text s => bytes s.toUTF8
  | int64 n => bytes (Decimal.integerText n.toInt).toUTF8
  | uint64 n => bytes (Decimal.integerText n.toNat).toUTF8
  | v => v

def Row.textForm (row : Row) : Row := ⟨row.cells.map fun (column, v) => (column, v.textForm)⟩

/-- Both have the same result, or both fail with failures of one kind. -/
inductive Alike {α : Type} : Except Failure α → Except Failure α → Prop
  | ok (a : α) : Alike (.ok a) (.ok a)
  | error {f g : Failure} (h : f.kind = g.kind) : Alike (.error f) (.error g)

namespace Alike

variable {α β : Type}

theorem refl (x : Except Failure α) : Alike x x := by
  cases x with
  | ok a => exact ok a
  | error f => exact error rfl

theorem bind {x y : Except Failure α} {f g : α → Except Failure β} (h : Alike x y)
    (hf : ∀ a, Alike (f a) (g a)) : Alike (x >>= f) (y >>= g) := by
  cases h with
  | ok a => exact hf a
  | error hkind => exact error hkind

theorem map {x y : Except Failure α} (h : Alike x y) (f : α → β) : Alike (x.map f) (y.map f) := by
  cases h with
  | ok a => exact ok (f a)
  | error hkind => exact error hkind

end Alike

section

variable {α : Type} [Word α]

/-- A number fits into a type exactly when its digits are read as a number of the type. -/
theorem alike_fit_ofText (hleast : Word.least α ≤ 0) (hgreatest : 0 ≤ Word.greatest α) {n : Int}
    {s : String} (htrim : Text.trim s.toList = Decimal.numeral n) :
    Alike (Word.fit n : Except Failure α) (Word.ofText s) := by
  unfold Word.fit Word.ofText
  rw [htrim]
  rcases Decimal.readNumeral_numeral hleast hgreatest n with ⟨hl, hg, hread⟩ | ⟨hout, fault, hread⟩
  · rw [hread, if_neg (by omega), if_neg (by omega)]
    exact .ok _
  · rw [hread]
    by_cases hl : n < Word.least α
    · rw [if_pos hl]
      exact .error rfl
    · rw [if_neg hl, if_pos (by omega)]
      exact .error rfl

theorem alike_fit (hleast : Word.least α ≤ 0) (hgreatest : 0 ≤ Word.greatest α) (n : Int) :
    Alike (Word.fit n : Except Failure α) (Word.ofText (Decimal.integerText n)) :=
  alike_fit_ofText hleast hgreatest (Decimal.trim_integerText n)

/-- The digits of a number are read as the number, if it is one of the type. -/
theorem ofText_of_mem {n : Int} {s : String} (htrim : Text.trim s.toList = Decimal.numeral n)
    (hleast : Word.least α ≤ 0) (hgreatest : 0 ≤ Word.greatest α)
    (hn : Word.least α ≤ n ∧ n ≤ Word.greatest α) :
    (Word.ofText s : Except Failure α) = .ok (Word.ofInt n) := by
  rw [Word.ofText, htrim]
  rcases Decimal.readNumeral_numeral hleast hgreatest n with ⟨-, -, hread⟩ | ⟨hout, -⟩
  · rw [hread]
  · exact absurd hn hout

theorem textOfBytes_toUTF8 (s : String) : textOfBytes s.toUTF8 = .ok s := by
  rw [textOfBytes, Text.Utf8.decode_toUTF8]
  rfl

theorem decodeWord_toUTF8 (s : String) :
    (decodeWord (.bytes s.toUTF8) : Except Failure α) = Word.ofText s := by
  rw [decodeWord, textOfBytes_toUTF8]
  rfl

theorem alike_decodeWord (hleast : Word.least α ≤ 0) (hgreatest : 0 ≤ Word.greatest α)
    (v : Value) : Alike (decodeWord v : Except Failure α) (decodeWord v.textForm) := by
  cases v with
  | text s =>
    rw [Value.textForm, decodeWord_toUTF8]
    exact .refl _
  | int64 n =>
    rw [Value.textForm, decodeWord_toUTF8]
    exact alike_fit hleast hgreatest _
  | uint64 n =>
    rw [Value.textForm, decodeWord_toUTF8]
    exact alike_fit hleast hgreatest _
  | null => exact .refl _
  | bool b => exact .refl _
  | float x => exact .refl _
  | bytes b => exact .refl _

end

variable (α : Type) [Decode α] in
/-- The value decodes to the type as its text form does. -/
def DecodesAlike (v : Value) : Prop :=
  Alike (decode v : Except Failure α) (decode v.textForm)

theorem decodesAlike_uint64 (v : Value) : DecodesAlike UInt64 v :=
  alike_decodeWord (by decide) (by decide) v

theorem decodesAlike_int64 (v : Value) : DecodesAlike Int64 v :=
  alike_decodeWord (by decide) (by decide) v

theorem decode_string_toUTF8 (s : String) :
    (decode (.bytes s.toUTF8) : Except Failure String) = .ok s :=
  textOfBytes_toUTF8 s

theorem decodesAlike_string (v : Value) : DecodesAlike String v := by
  unfold DecodesAlike
  cases v with
  | text s =>
    rw [Value.textForm, decode_string_toUTF8]
    exact .refl _
  | int64 n =>
    rw [Value.textForm, decode_string_toUTF8]
    exact .refl _
  | uint64 n =>
    rw [Value.textForm, decode_string_toUTF8]
    exact .refl _
  | null => exact .refl _
  | bool b => exact .refl _
  | float x => exact .refl _
  | bytes b => exact .refl _

/-- Null stays null, and nothing else becomes null. -/
theorem DecodesAlike.option {α : Type} [Decode α] {v : Value} (h : DecodesAlike α v) :
    DecodesAlike (Option α) v := by
  unfold DecodesAlike at h ⊢
  cases v with
  | null => exact .refl _
  | text s => exact h.map some
  | int64 n => exact h.map some
  | uint64 n => exact h.map some
  | bool b => exact h.map some
  | float x => exact h.map some
  | bytes b => exact h.map some

theorem fit_of_mem {α : Type} [Word α] {n : Int} (hleast : Word.least α ≤ n)
    (hgreatest : n ≤ Word.greatest α) : (Word.fit n : Except Failure α) = .ok (Word.ofInt n) := by
  rw [Word.fit, if_neg (by omega), if_neg (by omega)]

theorem decode_bool_toUTF8 (s : String) :
    (decode (.bytes s.toUTF8) : Except Failure Bool) =
      (Word.ofText s).map fun n : Int64 => n != 0 := by
  change (textOfBytes s.toUTF8 >>= Word.ofText).map _ = _
  rw [textOfBytes_toUTF8]
  rfl

theorem Word.bne_eq {α : Type} [Word α] [DecidableEq α] (x y : α) :
    (x != y) = (Word.toInt x != Word.toInt y) := by
  have hinjective : Function.Injective (Word.toInt : α → Int) :=
    Function.LeftInverse.injective Word.ofInt_toInt
  rw [Bool.eq_iff_iff, bne_iff_ne, bne_iff_ne, hinjective.ne_iff]

/-- A number is true unless it is zero, also when it is read from its digits. -/
theorem alike_bool {n : Int} (hleast : Int64.minValue.toInt ≤ n)
    (hgreatest : n ≤ Int64.maxValue.toInt) :
    Alike (.ok (n != 0)) ((Word.ofText (Decimal.integerText n)).map fun n : Int64 => n != 0) := by
  have hfit : (Word.fit n : Except Failure Int64) = .ok (Word.ofInt n) :=
    fit_of_mem hleast hgreatest
  have halike : Alike (Word.fit n : Except Failure Int64) _ :=
    alike_fit (by decide) (by decide) n
  have hzero : ((Word.ofInt n : Int64) != 0) = (n != 0) := by
    rw [Word.bne_eq, Word.toInt_ofInt n hleast hgreatest]
    rfl
  rw [hfit] at halike
  rw [← hzero]
  exact halike.map fun n : Int64 => n != 0

/-- A number without a sign is also one of those with a sign. -/
def Value.FitsInt64 (v : Value) : Prop :=
  ∀ n, v = uint64 n → (n.toNat : Int) ≤ Int64.maxValue.toInt

theorem decodesAlike_bool {v : Value} (h : v.FitsInt64) : DecodesAlike Bool v := by
  unfold DecodesAlike
  cases v with
  | text s =>
    rw [Value.textForm, decode_bool_toUTF8]
    exact .refl _
  | int64 n =>
    rw [Value.textForm, decode_bool_toUTF8]
    have hzero : (n != 0) = (n.toInt != 0) := Word.bne_eq n 0
    change Alike (.ok (n != 0)) _
    rw [hzero]
    exact alike_bool n.minValue_le_toInt n.toInt_le
  | uint64 n =>
    rw [Value.textForm, decode_bool_toUTF8]
    have hzero : (n != 0) = ((n.toNat : Int) != 0) := Word.bne_eq n 0
    have hleast : Int64.minValue.toInt ≤ 0 := by decide
    change Alike (.ok (n != 0)) _
    rw [hzero]
    exact alike_bool (by omega) (h n rfl)
  | null => exact .refl _
  | bool b => exact .refl _
  | float x => exact .refl _
  | bytes b => exact .refl _

namespace Row

variable {α : Type} [Decode α] {row : Row}

theorem alike_get (h : ∀ cell ∈ row.cells, DecodesAlike α cell.2) (column : String) :
    Alike (row.get column : Except Failure α) (row.textForm.get column) := by
  have hfind : row.textForm.cells.find? (fun cell => cell.1 == column) =
      (row.cells.find? fun cell => cell.1 == column).map fun cell => (cell.1, cell.2.textForm) := by
    rw [textForm, List.find?_map]
    rfl
  unfold get
  rw [hfind]
  cases hcell : row.cells.find? fun cell => cell.1 == column with
  | none => exact .error rfl
  | some cell => exact h cell (List.mem_of_find?_eq_some hcell)

theorem alike_getAt (h : ∀ cell ∈ row.cells, DecodesAlike α cell.2) (position : Nat) :
    Alike (row.getAt position : Except Failure α) (row.textForm.getAt position) := by
  unfold getAt textForm
  rw [List.getElem?_map]
  cases hcell : row.cells[position]? with
  | none => exact .error rfl
  | some cell => exact h cell (List.mem_of_getElem? hcell)

variable (row)

theorem alike_string (column : String) :
    Alike (row.get column : Except Failure String) (row.textForm.get column) :=
  alike_get (fun cell _ => decodesAlike_string cell.2) column

theorem alike_string? (column : String) :
    Alike (row.get column : Except Failure (Option String)) (row.textForm.get column) :=
  alike_get (fun cell _ => (decodesAlike_string cell.2).option) column

theorem alike_uint64 (column : String) :
    Alike (row.get column : Except Failure UInt64) (row.textForm.get column) :=
  alike_get (fun cell _ => decodesAlike_uint64 cell.2) column

theorem alike_int64 (column : String) :
    Alike (row.get column : Except Failure Int64) (row.textForm.get column) :=
  alike_get (fun cell _ => decodesAlike_int64 cell.2) column

end Row

theorem MySql.alike_decodeTable (d : MySql) (row : Row) :
    Alike (Catalog.decodeTable d row) (Catalog.decodeTable d row.textForm) :=
  Row.alike_getAt (fun cell _ => decodesAlike_string cell.2) 0

theorem MySql.alike_decodeColumn (d : MySql) (row : Row) :
    Alike (Catalog.decodeColumn d row) (Catalog.decodeColumn d row.textForm) := by
  refine (row.alike_string "Field").bind fun name => ?_
  refine (row.alike_string "Type").bind fun type => ?_
  refine (row.alike_string "Null").bind fun null => ?_
  refine (row.alike_string? "Default").bind fun default? => ?_
  exact (row.alike_string? "Extra").bind fun extra? => .refl _

theorem MySql.alike_decodeIndexPart (d : MySql) (row : Row) :
    Alike (Catalog.decodeIndexPart d row) (Catalog.decodeIndexPart d row.textForm) := by
  refine (row.alike_string? "Column_name").bind fun column? => ?_
  cases column? with
  | none => exact .refl _
  | some column =>
    refine (row.alike_string "Key_name").bind fun index => ?_
    exact (row.alike_uint64 "Non_unique").bind fun nonUnique => .refl _

theorem LedgerEntry.alike_decodeRow (row : Row) :
    Alike (LedgerEntry.decodeRow row) (LedgerEntry.decodeRow row.textForm) := by
  refine (row.alike_uint64 "version").bind fun version => ?_
  refine (row.alike_string "start_time").bind fun start => ?_
  refine (Alike.refl _).bind fun start => ?_
  refine (row.alike_string "end_time").bind fun finish => .refl _

theorem Sqlite.alike_decodeTable (d : Sqlite) (row : Row) :
    Alike (Catalog.decodeTable d row) (Catalog.decodeTable d row.textForm) :=
  row.alike_string "name"

theorem Sqlite.alike_decodeColumn (d : Sqlite) {row : Row}
    (h : ∀ cell ∈ row.cells, cell.2.FitsInt64) :
    Alike (Catalog.decodeColumn d row) (Catalog.decodeColumn d row.textForm) := by
  refine (row.alike_string "name").bind fun name => ?_
  refine (row.alike_string "type").bind fun type => ?_
  refine (Row.alike_get (fun cell hcell => decodesAlike_bool (h cell hcell)) "notnull").bind
    fun notNull => ?_
  refine (row.alike_string? "dflt_value").bind fun default? => ?_
  exact (row.alike_int64 "pk").bind fun key => .refl _

theorem Sqlite.alike_decodeIndexPart (d : Sqlite) {row : Row}
    (h : ∀ cell ∈ row.cells, cell.2.FitsInt64) :
    Alike (Catalog.decodeIndexPart d row) (Catalog.decodeIndexPart d row.textForm) := by
  refine (row.alike_string? "column_name").bind fun column? => ?_
  cases column? with
  | none => exact .refl _
  | some column =>
    refine (row.alike_string "index_name").bind fun index => ?_
    exact (Row.alike_get (fun cell hcell => decodesAlike_bool (h cell hcell)) "is_unique").bind
      fun unique => .refl _

/-- A row of a catalog or of the ledger decodes as its text form does. For a catalog with truth
values this takes numbers that have their place among those with a sign. -/
theorem decoding_independent_of_text_form :
    (∀ (d : MySql) (row : Row),
      Alike (Catalog.decodeTable d row) (Catalog.decodeTable d row.textForm) ∧
      Alike (Catalog.decodeColumn d row) (Catalog.decodeColumn d row.textForm) ∧
      Alike (Catalog.decodeIndexPart d row) (Catalog.decodeIndexPart d row.textForm)) ∧
    (∀ row : Row,
      Alike (row.get "version" : Except Failure UInt64) (row.textForm.get "version") ∧
      Alike (LedgerEntry.decodeRow row) (LedgerEntry.decodeRow row.textForm)) ∧
    ∀ (d : Sqlite) (row : Row), (∀ cell ∈ row.cells, cell.2.FitsInt64) →
      Alike (Catalog.decodeTable d row) (Catalog.decodeTable d row.textForm) ∧
      Alike (Catalog.decodeColumn d row) (Catalog.decodeColumn d row.textForm) ∧
      Alike (Catalog.decodeIndexPart d row) (Catalog.decodeIndexPart d row.textForm) := by
  refine ⟨?_, ?_, ?_⟩
  · intro d row
    exact ⟨d.alike_decodeTable row, d.alike_decodeColumn row, d.alike_decodeIndexPart row⟩
  · intro row
    exact ⟨row.alike_uint64 "version", LedgerEntry.alike_decodeRow row⟩
  · intro d row h
    exact ⟨d.alike_decodeTable row, d.alike_decodeColumn h, d.alike_decodeIndexPart h⟩

/-- A column with numbers of both kinds for its truth values. -/
def countedRow : Row :=
  ⟨[("name", .text "größe"), ("type", .bytes "int".toUTF8), ("notnull", .uint64 1),
    ("dflt_value", .null), ("pk", .int64 (-3)), ("column_name", .int64 7),
    ("index_name", .text "i"), ("is_unique", .int64 0)]⟩

theorem countedRow_decodes_as_text :
    (∀ cell ∈ countedRow.cells, cell.2.FitsInt64) ∧
    Alike (Catalog.decodeTable ({} : Sqlite) countedRow)
      (Catalog.decodeTable ({} : Sqlite) countedRow.textForm) ∧
    Alike (Catalog.decodeColumn ({} : Sqlite) countedRow)
      (Catalog.decodeColumn ({} : Sqlite) countedRow.textForm) ∧
    Alike (Catalog.decodeIndexPart ({} : Sqlite) countedRow)
      (Catalog.decodeIndexPart ({} : Sqlite) countedRow.textForm) := by
  have hfits : ∀ cell ∈ countedRow.cells, cell.2.FitsInt64 := by
    intro cell hcell n hn
    simp only [countedRow, List.mem_cons, List.not_mem_nil, or_false] at hcell
    rcases hcell with rfl | rfl | rfl | rfl | rfl | rfl | rfl | rfl <;> cases hn
    decide
  exact ⟨hfits, decoding_independent_of_text_form.2.2 {} countedRow hfits⟩

end SchemaChange
