import Mathlib.Data.List.Sort
import Mathlib.Data.List.Nodup
import Mathlib.Data.Prod.Lex

/-! Sorting by a key or by a comparison. -/

namespace Collections

variable {α K : Type} [LinearOrder K]

/-- Elements of equal keys stay in their order. -/
def sortByKey (key : α → K) (xs : List α) : List α := xs.insertionSort fun a b => key a ≤ key b

theorem sortByKey_perm (key : α → K) (xs : List α) : (sortByKey key xs).Perm xs :=
  List.perm_insertionSort _ xs

theorem sortByKey_pairwise (key : α → K) (xs : List α) :
    (sortByKey key xs).Pairwise fun a b => key a ≤ key b := by
  have htotal : Std.Total fun a b : α => key a ≤ key b := ⟨fun a b => le_total (key a) (key b)⟩
  have htrans : IsTrans α fun a b => key a ≤ key b := ⟨fun _ _ _ => le_trans⟩
  exact List.pairwise_insertionSort _ xs

theorem sortByKey_eq_of_perm {key : α → K} {xs ys : List α} (hperm : xs.Perm ys)
    (hnodup : (xs.map key).Nodup) : sortByKey key xs = sortByKey key ys := by
  refine List.Perm.eq_of_pairwise ?_ (sortByKey_pairwise key xs) (sortByKey_pairwise key ys)
    ((sortByKey_perm key xs).trans (hperm.trans (sortByKey_perm key ys).symm))
  intro a b ha hb hab hba
  have ha' : a ∈ xs := (sortByKey_perm key xs).mem_iff.1 ha
  have hb' : b ∈ xs := hperm.mem_iff.2 ((sortByKey_perm key ys).mem_iff.1 hb)
  exact List.inj_on_of_nodup_map hnodup ha' hb' (le_antisymm hab hba)

/-- `sort_unstable_by` for elements of which no two compare as equal. -/
def sortUnstableBy {β : Type} (compareBy : β → β → Ordering) (xs : List β) : List β :=
  xs.insertionSort fun a b => (compareBy a b).isLE = true

theorem sortUnstableBy_perm {β : Type} (compareBy : β → β → Ordering) (xs : List β) :
    (sortUnstableBy compareBy xs).Perm xs :=
  List.perm_insertionSort _ xs

theorem mem_sortUnstableBy {β : Type} {compareBy : β → β → Ordering} {xs : List β} {x : β} :
    x ∈ sortUnstableBy compareBy xs ↔ x ∈ xs :=
  (sortUnstableBy_perm compareBy xs).mem_iff

example : sortByKey (fun p : ℤ × ℕ => p.1) [(2, 0), (1, 1), (2, 2), (1, 3)] =
    [(1, 1), (1, 3), (2, 0), (2, 2)] := by decide

end Collections
