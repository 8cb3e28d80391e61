import SchemaChange.MySql
import SchemaChange.Proofs.AsciiCase
import SchemaChange.Proofs.Success
import SchemaChange.Sqlite

/-!
Listings that say the same names in another case. When the rows of a listing decode, then so do rows
that differ from them in the case of letters in a name, and what they decode to differs in the case
of letters in that name and in nothing else.
-/
namespace SchemaChange

/-- Whenever the first succeeds so does the second, with something related. -/
def Follows {α β : Type} (R : α → β → Prop) (x : Except Failure α) (y : Except Failure β) : Prop :=
  ∀ a, x = .ok a → ∃ b, y = .ok b ∧ R a b

namespace Follows

variable {α β α' β' : Type} {R : α → β → Prop} {S : α' → β' → Prop}

theorem ok {a : α} {b : β} (h : R a b) : Follows R (.ok a) (.ok b) := by
  intro a' heq
  cases heq
  exact ⟨b, rfl, h⟩

theorem of_eq {x y : Except Failure α} (h : x = y) : Follows Eq x y := by
  intro a ha
  exact ⟨a, h ▸ ha, rfl⟩

theorem bind {x : Except Failure α} {y : Except Failure β} {f : α → Except Failure α'}
    {g : β → Except Failure β'} (h : Follows R x y) (hf : ∀ a b, R a b → Follows S (f a) (g b)) :
    Follows S (x >>= f) (y >>= g) := by
  intro a' ha'
  obtain ⟨a, ha, hfa⟩ := bind_eq_ok_iff.mp ha'
  obtain ⟨b, hb, hab⟩ := h a ha
  obtain ⟨b', hgb, hab'⟩ := hf a b hab a' hfa
  exact ⟨b', bind_eq_ok_iff.mpr ⟨b, hb, hgb⟩, hab'⟩

theorem mapM {f : α → Except Failure α'} {g : β → Except Failure β'}
    (hf : ∀ a b, R a b → Follows S (f a) (g b)) {xs : List α} {ys : List β}
    (h : List.Forall₂ R xs ys) : Follows (List.Forall₂ S) (xs.mapM f) (ys.mapM g) := by
  intro xs' hxs'
  simp only [mapM_eq_ok_iff] at hxs' ⊢
  induction h generalizing xs' with
  | nil =>
    cases hxs'
    exact ⟨[], .nil, .nil⟩
  | cons hfirst hrest ih =>
    cases hxs' with
    | cons hx hxs =>
      obtain ⟨y, hy, hxy⟩ := hf _ _ hfirst _ hx
      obtain ⟨ys', hys', hall⟩ := ih _ hxs
      exact ⟨y :: ys', .cons hy hys', .cons hxy hall⟩

end Follows

theorem Recased.refl (a : String) : Recased a a := beq_self_eq_true _

/-- The same value, or two texts that differ at most in the case of ASCII letters. -/
def Value.Recased (v v' : Value) : Prop :=
  v = v' ∨ ∃ a a', (decode v : Except Failure String) = .ok a ∧
    (decode v' : Except Failure String) = .ok a' ∧ SchemaChange.Recased a a'

namespace Value.Recased

variable {v v' : Value}

theorem decode_string (h : v.Recased v') :
    Follows SchemaChange.Recased (decode v) (decode v') := by
  rcases h with rfl | ⟨a, a', hfirst, hsecond, hrecased⟩
  · intro a ha
    exact ⟨a, ha, .refl a⟩
  · rw [hfirst, hsecond]
    exact .ok hrecased

theorem decode_string?_of_ok {a : String} (h : decode v = .ok a) :
    (decode v : Except Failure (Option String)) = .ok (some a) := by
  have hmap : (decode v : Except Failure String).map some = .ok (some a) := by
    rw [h]
    rfl
  cases v with
  | null => cases h
  | text s => exact hmap
  | bytes b => exact hmap
  | int64 n => exact hmap
  | uint64 n => exact hmap
  | bool b => exact hmap
  | float x => exact hmap

theorem decode_string? (h : v.Recased v') :
    Follows (Option.Rel SchemaChange.Recased) (decode v) (decode v') := by
  rcases h with rfl | ⟨a, a', hfirst, hsecond, hrecased⟩
  · intro a? ha
    refine ⟨a?, ha, ?_⟩
    cases a? with
    | none => exact .none
    | some a => exact .some (.refl a)
  · rw [decode_string?_of_ok hfirst, decode_string?_of_ok hsecond]
    exact .ok (.some hrecased)

end Value.Recased

namespace Row

/-- The rows have the same cells but for the case of letters in the cells of these columns. -/
def RecasedIn (isName : String → Prop) (row row' : Row) : Prop :=
  List.Forall₂ (fun cell cell' => cell.1 = cell'.1 ∧ cell.2.Recased cell'.2 ∧
    (¬ isName cell.1 → cell.2 = cell'.2)) row.cells row'.cells

namespace RecasedIn

variable {isName : String → Prop} {row row' : Row} (h : row.RecasedIn isName row')
include h

theorem columns_eq : row.columns = row'.columns := by
  have hnames := List.rel_map (R := fun cell cell' : String × Value => cell.1 = cell'.1)
    (fun cell cell' (hcell : cell.1 = cell'.1) => hcell) (h.imp fun cell cell' hcell => hcell.1)
  exact List.forall₂_eq_eq_eq ▸ hnames

theorem find?_cases (column : String) :
    (∃ v v', v.Recased v' ∧ (¬ isName column → v = v') ∧
        (row.cells.find? fun cell => cell.1 == column) = some (column, v) ∧
        (row'.cells.find? fun cell => cell.1 == column) = some (column, v')) ∨
      ((row.cells.find? fun cell => cell.1 == column) = none ∧
        (row'.cells.find? fun cell => cell.1 == column) = none) := by
  rcases find?_of_forall₂ h (p := fun cell => cell.1 == column) (q := fun cell => cell.1 == column)
    (fun cell cell' hcell => by rw [hcell.1]) with
    ⟨i, ⟨name, v⟩, ⟨name', v'⟩, ⟨hname, hrecased, hsame⟩, -, -, hfind, hfind'⟩ | hnone
  · have hcolumn : name = column := by simpa using List.find?_some hfind
    subst hcolumn
    cases hname
    exact Or.inl ⟨v, v', hrecased, hsame, hfind, hfind'⟩
  · exact Or.inr hnone

/-- A cell of another column is the same. -/
theorem get_eq {α : Type} [Decode α] {column : String} (hcolumn : ¬ isName column) :
    Follows Eq (row.get column : Except Failure α) (row'.get column) := by
  refine .of_eq ?_
  unfold get
  rcases h.find?_cases column with ⟨v, v', -, hsame, hfind, hfind'⟩ | ⟨hnone, hnone'⟩
  · rw [hfind, hfind', hsame hcolumn]
  · rw [hnone, hnone', h.columns_eq]

theorem get_string (column : String) :
    Follows SchemaChange.Recased (row.get column) (row'.get column) := by
  unfold get
  rcases h.find?_cases column with ⟨v, v', hrecased, -, hfind, hfind'⟩ | ⟨hnone, hnone'⟩
  · rw [hfind, hfind']
    exact hrecased.decode_string
  · rw [hnone]
    exact nofun

theorem get_string? (column : String) :
    Follows (Option.Rel SchemaChange.Recased) (row.get column) (row'.get column) := by
  unfold get
  rcases h.find?_cases column with ⟨v, v', hrecased, -, hfind, hfind'⟩ | ⟨hnone, hnone'⟩
  · rw [hfind, hfind']
    exact hrecased.decode_string?
  · rw [hnone]
    exact nofun

theorem getAt_zero : Follows SchemaChange.Recased (row.getAt 0) (row'.getAt 0) := by
  obtain ⟨cells⟩ := row
  obtain ⟨cells'⟩ := row'
  unfold RecasedIn at h
  cases h with
  | nil => exact nofun
  | cons hcell hrest => exact hcell.2.1.decode_string

end RecasedIn

end Row

/-- A listing that decodes does so in another case too, where the names of columns stand in the
cells called so. -/
structure ReadsRecased {δ : Type} [Catalog δ] (d : δ) (columnName partName : String) : Prop where
  tables {rows rows' : List Row} : List.Forall₂ (Row.RecasedIn fun _ => True) rows rows' →
    Follows (List.Forall₂ Recased) (rows.mapM (Catalog.decodeTable d))
      (rows'.mapM (Catalog.decodeTable d))
  columns {rows rows' : List Row} : List.Forall₂ (Row.RecasedIn (· = columnName)) rows rows' →
    Follows (List.Forall₂ ListedColumn.Recased) (rows.mapM (Catalog.decodeColumn d))
      (rows'.mapM (Catalog.decodeColumn d))
  parts {rows rows' : List Row} : List.Forall₂ (Row.RecasedIn (· = partName)) rows rows' →
    Follows (List.Forall₂ (Option.Rel IndexPart.Recased)) (rows.mapM (Catalog.decodeIndexPart d))
      (rows'.mapM (Catalog.decodeIndexPart d))

namespace MySql

variable (d : MySql) {row row' : Row}

theorem decodeColumn_follows (h : row.RecasedIn (· = "Field") row') :
    Follows ListedColumn.Recased (Catalog.decodeColumn d row) (Catalog.decodeColumn d row') := by
  refine (h.get_string "Field").bind fun name name' hname => ?_
  refine (h.get_eq (by decide)).bind fun type type' htype => ?_
  refine (h.get_eq (by decide)).bind fun null null' hnull => ?_
  refine (h.get_eq (by decide)).bind fun default? default?' hdefault => ?_
  refine (h.get_eq (by decide)).bind fun extra? extra?' hextra => ?_
  cases htype
  cases hnull
  cases hdefault
  cases hextra
  exact .ok ⟨hname, rfl⟩

theorem decodeIndexPart_follows (h : row.RecasedIn (· = "Column_name") row') :
    Follows (Option.Rel IndexPart.Recased) (Catalog.decodeIndexPart d row)
      (Catalog.decodeIndexPart d row') := by
  refine (h.get_string? "Column_name").bind fun column? column?' hcolumn => ?_
  cases hcolumn with
  | none => exact .ok .none
  | some hrecased =>
    refine (h.get_eq (by decide)).bind fun index index' hindex => ?_
    refine (h.get_eq (by decide)).bind fun nonUnique nonUnique' hunique => ?_
    cases hindex
    cases hunique
    exact .ok (.some ⟨rfl, hrecased, rfl⟩)

theorem readsRecased : ReadsRecased d "Field" "Column_name" where
  tables := Follows.mapM fun _ _ h => h.getAt_zero
  columns := Follows.mapM fun _ _ h => decodeColumn_follows d h
  parts := Follows.mapM fun _ _ h => decodeIndexPart_follows d h

end MySql

namespace Sqlite

variable (d : Sqlite) {row row' : Row}

theorem decodeColumn_follows (h : row.RecasedIn (· = "name") row') :
    Follows ListedColumn.Recased (Catalog.decodeColumn d row) (Catalog.decodeColumn d row') := by
  refine (h.get_string "name").bind fun name name' hname => ?_
  refine (h.get_eq (by decide)).bind fun type type' htype => ?_
  refine (h.get_eq (by decide)).bind fun notNull notNull' hnull => ?_
  refine (h.get_eq (by decide)).bind fun default? default?' hdefault => ?_
  refine (h.get_eq (by decide)).bind fun key key' hkey => ?_
  cases htype
  cases hnull
  cases hdefault
  cases hkey
  exact .ok ⟨hname, rfl⟩

theorem decodeIndexPart_follows (h : row.RecasedIn (· = "column_name") row') :
    Follows (Option.Rel IndexPart.Recased) (Catalog.decodeIndexPart d row)
      (Catalog.decodeIndexPart d row') := by
  refine (h.get_string? "column_name").bind fun column? column?' hcolumn => ?_
  cases hcolumn with
  | none => exact .ok .none
  | some hrecased =>
    refine (h.get_eq (by decide)).bind fun index index' hindex => ?_
    refine (h.get_eq (by decide)).bind fun unique unique' hunique => ?_
    cases hindex
    cases hunique
    exact .ok (.some ⟨rfl, hrecased, rfl⟩)

theorem readsRecased : ReadsRecased d "name" "column_name" where
  tables := Follows.mapM fun _ _ h => h.get_string "name"
  columns := Follows.mapM fun _ _ h => decodeColumn_follows d h
  parts := Follows.mapM fun _ _ h => decodeIndexPart_follows d h

end Sqlite

end SchemaChange
