import SchemaChange.Proofs.ListingOrder
import SchemaChange.Proofs.TableLookup

/-!
The case of ASCII letters in the names that are looked up and in those that are listed. The lower
case of a text is the same whatever case its ASCII letters have, and this holds although the capital
sigma looks at its surroundings, since an ASCII letter is cased in either case. So two listings that
differ only in the case of such letters lead to the same answers and to the same changes.
-/
namespace SchemaChange

namespace Text

open LetterCase

theorem toLower_eq_self_or_capital (c : Char) :
    c.toLower = c ∨ ∃ n : Fin 26, c = Char.ofNat (65 + n) := by
  unfold Char.toLower
  split
  · next hcapital =>
    right
    have hlow : 65 ≤ c.toNat := hcapital.1
    have hhigh : c.toNat ≤ 90 := hcapital.2
    have hn : c.toNat - 65 < 26 := by omega
    refine ⟨⟨c.toNat - 65, hn⟩, ?_⟩
    have hsum : 65 + (c.toNat - 65) = c.toNat := by omega
    simp only [hsum, Char.ofNat_toNat]
  · exact Or.inl rfl

/-- What holds of the ASCII capitals and of all that are left alone holds of every character. -/
theorem forall_toLower {P : Char → Char → Prop} (hself : ∀ c, P c c)
    (hcapital : ∀ n : Fin 26, P (Char.ofNat (65 + n)) (Char.ofNat (65 + n)).toLower) (c : Char) :
    P c c.toLower := by
  rcases toLower_eq_self_or_capital c with h | ⟨n, rfl⟩
  · rw [h]
    exact hself c
  · exact hcapital n

theorem lowerChar_toLower (c : Char) : lowerChar c.toLower = lowerChar c :=
  forall_toLower (P := fun c d => lowerChar d = lowerChar c) (fun _ => rfl) (by decide +kernel) c

theorem isCased_toLower (c : Char) : isCased c.toLower = isCased c :=
  forall_toLower (P := fun c d => isCased d = isCased c) (fun _ => rfl) (by decide +kernel) c

theorem isIgnorable_toLower (c : Char) : isIgnorable c.toLower = isIgnorable c :=
  forall_toLower (P := fun c d => isIgnorable d = isIgnorable c) (fun _ => rfl)
    (by decide +kernel) c

theorem toLower_eq_sigma_iff (c : Char) : c.toLower = 'Σ' ↔ c = 'Σ' :=
  forall_toLower (P := fun c d => d = 'Σ' ↔ c = 'Σ') (fun _ => Iff.rfl) (by decide +kernel) c

theorem startsCased_map_toLower (s : List Char) :
    startsCased (s.map Char.toLower) = startsCased s := by
  have hignorable : isIgnorable ∘ Char.toLower = isIgnorable := funext isIgnorable_toLower
  unfold startsCased
  rw [List.dropWhile_map, hignorable]
  cases s.dropWhile isIgnorable with
  | nil => rfl
  | cons c rest => exact isCased_toLower c

/-- The letters before and behind a sigma count alike in either case. -/
theorem lowerAfter_map_toLower (before s : List Char) :
    lowerAfter (before.map Char.toLower) (s.map Char.toLower) = lowerAfter before s := by
  induction s generalizing before with
  | nil => rfl
  | cons c rest ih =>
    have hrest := ih (c :: before)
    rw [List.map_cons] at hrest
    simp only [List.map_cons, lowerAfter, startsCased_map_toLower, toLower_eq_sigma_iff,
      lowerChar_toLower, hrest]

theorem lower_eq_of_sameAsciiName {a b : String} (h : sameAsciiName a b = true) :
    lower a.toList = lower b.toList := by
  have hmap : a.toList.map Char.toLower = b.toList.map Char.toLower := beq_iff_eq.mp h
  calc lower a.toList
      = lower (a.toList.map Char.toLower) := (lowerAfter_map_toLower [] a.toList).symm
    _ = lower (b.toList.map Char.toLower) := congrArg lower hmap
    _ = lower b.toList := lowerAfter_map_toLower [] b.toList

end Text

/-- The names differ at most in the case of ASCII letters. -/
def Recased (a b : String) : Prop := Text.sameAsciiName a b = true

instance (a b : String) : Decidable (Recased a b) := inferInstanceAs (Decidable (_ = true))

theorem Recased.sameName_eq {a a' b b' : String} (ha : Recased a a') (hb : Recased b b') :
    Text.sameName a b = Text.sameName a' b' := by
  unfold Text.sameName
  rw [Text.lower_eq_of_sameAsciiName ha, Text.lower_eq_of_sameAsciiName hb]

/-- The names of tables have the same schema and differ in the case of letters behind it. -/
structure RecasedTable (a b : String) : Prop where
  schema : Text.QualifiedName.schema? a = Text.QualifiedName.schema? b
  table : Recased (Text.QualifiedName.table a) (Text.QualifiedName.table b)

/-- The same column but for the case of letters in its name. -/
structure ListedColumn.Recased (a b : ListedColumn) : Prop where
  name : SchemaChange.Recased a.name b.name
  rest : { a with name := b.name } = b

/-- The same part of the same index but for the case of letters in the name of its column. -/
structure IndexPart.Recased (a b : IndexPart) : Prop where
  index : a.index = b.index
  column : SchemaChange.Recased a.column b.column
  unique : a.unique = b.unique

structure ListedIndex.Recased (a b : ListedIndex) : Prop where
  name : a.name = b.name
  columns : List.Forall₂ SchemaChange.Recased a.columns b.columns

section

variable {α β : Type} {R : α → β → Prop} {p : α → Bool} {q : β → Bool} {xs : List α} {ys : List β}

theorem any_eq_of_forall₂ (h : List.Forall₂ R xs ys) (hfits : ∀ x y, R x y → p x = q y) :
    xs.any p = ys.any q := by
  induction h with
  | nil => rfl
  | cons hx hrest ih => rw [List.any_cons, List.any_cons, hfits _ _ hx, ih]

theorem all_eq_of_forall₂ (h : List.Forall₂ R xs ys) (hfits : ∀ x y, R x y → p x = q y) :
    xs.all p = ys.all q := by
  induction h with
  | nil => rfl
  | cons hx hrest ih => rw [List.all_cons, List.all_cons, hfits _ _ hx, ih]

/-- The first that fits stands in the same place. -/
theorem find?_of_forall₂ (h : List.Forall₂ R xs ys) (hfits : ∀ x y, R x y → p x = q y) :
    (∃ (i : Nat) (x : α) (y : β), R x y ∧ xs[i]? = some x ∧ ys[i]? = some y ∧
        xs.find? p = some x ∧ ys.find? q = some y) ∨
      (xs.find? p = none ∧ ys.find? q = none) := by
  induction h with
  | nil => exact Or.inr ⟨rfl, rfl⟩
  | @cons x y xs ys hx hrest ih =>
    cases hp : p x with
    | true =>
      have hq : q y = true := (hfits x y hx).symm.trans hp
      exact Or.inl ⟨0, x, y, hx, rfl, rfl, List.find?_cons_of_pos hp, List.find?_cons_of_pos hq⟩
    | false =>
      have hq : q y = false := (hfits x y hx).symm.trans hp
      rw [List.find?_cons_of_neg (by simp [hp]), List.find?_cons_of_neg (by simp [hq])]
      rcases ih with ⟨i, x', y', halike, hxs, hys, hfound⟩ | hnone
      · exact Or.inl ⟨i + 1, x', y', halike, hxs, hys, hfound⟩
      · exact Or.inr hnone

end

theorem isListed_eq_of_recased {table table' : String} {names names' : List String}
    (htable : RecasedTable table table') (hnames : List.Forall₂ Recased names names') :
    isListed table names = isListed table' names' :=
  any_eq_of_forall₂ hnames fun _ _ hname => hname.sameName_eq htable.table

namespace ListedIndex

theorem recased_insertPart {part part' : IndexPart} {indexes indexes' : List ListedIndex}
    (hpart : part.Recased part') (h : List.Forall₂ ListedIndex.Recased indexes indexes') :
    List.Forall₂ ListedIndex.Recased (insertPart part indexes) (insertPart part' indexes') := by
  induction h with
  | nil => exact .cons ⟨hpart.index, .cons hpart.column .nil⟩ .nil
  | @cons index index' rest rest' hindex hrest ih =>
    unfold insertPart
    rw [hindex.name, hpart.index]
    by_cases hname : index'.name = part'.index
    · rw [if_pos hname, if_pos hname]
      have hcolumns := List.rel_append hindex.columns (.cons hpart.column .nil)
      exact .cons ⟨rfl, hcolumns⟩ hrest
    · rw [if_neg hname, if_neg hname]
      exact .cons hindex ih

theorem recased_ofParts {parts parts' : List IndexPart}
    (h : List.Forall₂ IndexPart.Recased parts parts') :
    List.Forall₂ ListedIndex.Recased (ofParts parts) (ofParts parts') := by
  have hstep : ∀ indexes indexes', List.Forall₂ ListedIndex.Recased indexes indexes' →
      ∀ part part', IndexPart.Recased part part' →
        List.Forall₂ ListedIndex.Recased (insertPart part indexes) (insertPart part' indexes') :=
    fun _ _ hindexes _ _ hpart => recased_insertPart hpart hindexes
  exact List.rel_foldl hstep .nil h

variable {index index' : ListedIndex} {requested requested' : List String}

theorem covers_eq_of_recased (hindex : index.Recased index')
    (hrequested : List.Forall₂ SchemaChange.Recased requested requested') :
    index.covers requested = index'.covers requested' :=
  all_eq_of_forall₂ hrequested fun _ _ hcolumn =>
    any_eq_of_forall₂ hindex.columns fun _ _ hown => hown.sameName_eq hcolumn

theorem isExactly_eq_of_recased (hindex : index.Recased index')
    (hrequested : List.Forall₂ SchemaChange.Recased requested requested') :
    index.isExactly requested = index'.isExactly requested' := by
  have hnothingElse :
      (index.columns.all fun own => requested.any fun column => Text.sameName own column) =
        index'.columns.all fun own => requested'.any fun column => Text.sameName own column :=
    all_eq_of_forall₂ hindex.columns fun _ _ hown =>
      any_eq_of_forall₂ hrequested fun _ _ hcolumn => hown.sameName_eq hcolumn
  unfold isExactly
  rw [covers_eq_of_recased hindex hrequested, hnothingElse]

end ListedIndex

/-- The parts that are columns are the same but for the case of letters. -/
theorem recased_listedIndexes {parts parts' : List (Option IndexPart)}
    (h : List.Forall₂ (Option.Rel IndexPart.Recased) parts parts') :
    List.Forall₂ ListedIndex.Recased (ListedIndex.ofParts (parts.filterMap id))
      (ListedIndex.ofParts (parts'.filterMap id)) :=
  ListedIndex.recased_ofParts (List.rel_filterMap (fun _ _ hpart => hpart) h)

theorem removedNames_eq_of_recased {columns columns' : List String}
    {parts parts' : List (Option IndexPart)}
    (hcolumns : List.Forall₂ Recased columns columns')
    (hparts : List.Forall₂ (Option.Rel IndexPart.Recased) parts parts') :
    removedNames columns parts = removedNames columns' parts' := by
  have hexactly := List.rel_filter
    (fun index index' (hindex : ListedIndex.Recased index index') =>
      Bool.eq_iff_iff.mp (ListedIndex.isExactly_eq_of_recased hindex hcolumns))
    (recased_listedIndexes hparts)
  have hnames := List.rel_map
    (fun index index' (hindex : ListedIndex.Recased index index') => hindex.name) hexactly
  exact List.forall₂_eq_eq_eq ▸ hnames

end SchemaChange
