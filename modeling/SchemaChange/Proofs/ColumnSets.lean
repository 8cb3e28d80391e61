import SchemaChange.Proofs.AsciiCase

/-!
Columns compared as sets of names. An index covers a request when the names of the request, apart
from the case of letters, are among its own, and it has exactly the columns of the request when they
are the same names. So covering is an order and having exactly the columns is the equality that goes
with it, and neither depends on how a list spells its set: in which order, how often and with which
ASCII letters capital.
-/
namespace SchemaChange

/-- Lists that differ in the order of their names, in repetitions and in the case of ASCII letters
alone. -/
inductive Respelled : List String → List String → Prop
  | permuted {names others : List String} (h : names.Perm others) : Respelled names others
  | repeated {name : String} {names : List String} (h : name ∈ names) :
      Respelled names (name :: names)
  | recased {names others : List String} (h : List.Forall₂ Recased names others) :
      Respelled names others
  | symm {names others : List String} (h : Respelled names others) : Respelled others names
  | trans {names others more : List String} (h : Respelled names others)
      (h' : Respelled others more) : Respelled names more

namespace ListedIndex

theorem mem_foldedNames_iff {names : List String} {folded : List Char} :
    folded ∈ foldedNames names ↔ folded ∈ names.map fun name => Text.lower name.toList :=
  List.mem_map.symm

theorem map_lower_eq_of_recased {names others : List String}
    (h : List.Forall₂ SchemaChange.Recased names others) :
    (names.map fun name => Text.lower name.toList) =
      others.map fun name => Text.lower name.toList := by
  induction h with
  | nil => rfl
  | cons hname hlater ih =>
    rw [List.map_cons, List.map_cons, Text.lower_eq_of_sameAsciiName hname, ih]

/-- A change of the spelling keeps the set of names. -/
theorem foldedNames_eq_of_respelled {names others : List String} (h : Respelled names others) :
    foldedNames names = foldedNames others := by
  induction h with
  | permuted h => exact foldedNames_eq_of_perm h
  | @repeated name names h =>
    ext folded
    rw [mem_foldedNames_iff, mem_foldedNames_iff, List.map_cons, List.mem_cons]
    refine ⟨Or.inr, fun hfolded => hfolded.elim (fun heq => ?_) id⟩
    rw [heq]
    exact List.mem_map_of_mem h
  | recased h =>
    ext folded
    rw [mem_foldedNames_iff, mem_foldedNames_iff, map_lower_eq_of_recased h]
  | symm h ih => exact ih.symm
  | trans h h' ih ih' => exact ih.trans ih'

/-- The comparisons of an index with requested columns are those of two sets: whether the second is
a part of the first, and whether they are equal. -/
structure CompareSets (covers isExactly : ListedIndex → List String → Bool) : Prop where
  covers_iff (index : ListedIndex) (requested : List String) :
    covers index requested = true ↔ foldedNames requested ⊆ foldedNames index.columns
  isExactly_iff (index : ListedIndex) (requested : List String) :
    isExactly index requested = true ↔ foldedNames index.columns = foldedNames requested
  covers_self (index : ListedIndex) : covers index index.columns = true
  covers_trans {index other : ListedIndex} {requested : List String}
    (h : covers index other.columns = true) (h' : covers other requested = true) :
    covers index requested = true
  covers_both_iff (index other : ListedIndex) :
    (covers index other.columns = true ∧ covers other index.columns = true) ↔
      isExactly index other.columns = true
  equivalence : Equivalence fun index other : ListedIndex => isExactly index other.columns = true
  respelled {index index' : ListedIndex} {requested requested' : List String}
    (hindex : Respelled index.columns index'.columns) (hrequested : Respelled requested requested') :
    covers index requested = covers index' requested' ∧
      isExactly index requested = isExactly index' requested'
  /-- An index covers what a request does that it has exactly the columns of. -/
  covers_eq {index request : ListedIndex} (h : isExactly index request.columns = true)
    (requested : List String) : covers index requested = covers request requested

/-- Covering is inclusion, and having exactly the columns is equality, of the names apart from the
case of their letters. -/
theorem columns_compared_as_sets : CompareSets covers isExactly where
  covers_iff index requested := covers_iff
  isExactly_iff index requested := isExactly_iff
  covers_self index := covers_iff.mpr (Set.Subset.refl _)
  covers_trans h h' := covers_iff.mpr ((covers_iff.mp h').trans (covers_iff.mp h))
  covers_both_iff index other := by
    rw [covers_iff, covers_iff, isExactly_iff, and_comm, Set.Subset.antisymm_iff]
  equivalence := by
    simp only [isExactly_iff]
    exact ⟨fun index => rfl, fun heq => heq.symm, fun heq heq' => heq.trans heq'⟩
  respelled hindex hrequested := by
    have hown := foldedNames_eq_of_respelled hindex
    have hwanted := foldedNames_eq_of_respelled hrequested
    constructor
    · rw [Bool.eq_iff_iff, covers_iff, covers_iff, hown, hwanted]
    · rw [Bool.eq_iff_iff, isExactly_iff, isExactly_iff, hown, hwanted]
  covers_eq h requested := by
    rw [Bool.eq_iff_iff, covers_iff, covers_iff, isExactly_iff.mp h]

/-- An index that is respelled from a request covers the same and has exactly its columns. -/
theorem respelled_email_index_compared :
    let index : ListedIndex := ⟨"by_email", ["Email", "age", "email"], false⟩
    let request : ListedIndex := ⟨"wanted", ["AGE", "EMAIL"], true⟩
    Respelled index.columns request.columns ∧
      index.isExactly request.columns = true ∧
      (∀ requested, index.covers requested = request.covers requested) ∧
      index.covers ["eMail"] = true ∧ request.isExactly ["eMail"] = false := by
  intro index request
  have hrecased : Respelled index.columns ["EMAIL", "AGE", "EMAIL"] :=
    .recased (.cons (by decide) (.cons (by decide) (.cons (by decide) .nil)))
  have hrepeated : Respelled ["AGE", "EMAIL"] ["EMAIL", "AGE", "EMAIL"] := .repeated (by decide)
  have hspelled : Respelled index.columns request.columns := hrecased.trans hrepeated.symm
  have hsame := columns_compared_as_sets.respelled hspelled
    (.permuted (List.Perm.refl request.columns))
  have hexactly : index.isExactly request.columns = true :=
    hsame.2.trans (columns_compared_as_sets.equivalence.refl request)
  exact ⟨hspelled, hexactly, columns_compared_as_sets.covers_eq hexactly, by decide +kernel,
    by decide +kernel⟩

end ListedIndex

end SchemaChange
