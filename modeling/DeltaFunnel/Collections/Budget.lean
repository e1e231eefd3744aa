import Mathlib.Algebra.BigOperators.Group.List.Basic
import Mathlib.Logic.Function.Iterate
import Mathlib.Algebra.GroupWithZero.Nat

/-! The longest beginning of a list whose cost is within a budget, and costs of symbols that are
expanded layer by layer. -/

namespace Collections

variable {α : Type} {cost : α → ℕ} {budget spent : ℕ} {xs : List α}

def totalCost (cost : α → ℕ) (xs : List α) : ℕ := (xs.map cost).sum

@[simp] theorem totalCost_cons (cost : α → ℕ) (a : α) (xs : List α) :
    totalCost cost (a :: xs) = cost a + totalCost cost xs := rfl

theorem totalCost_append (cost : α → ℕ) (xs ys : List α) :
    totalCost cost (xs ++ ys) = totalCost cost xs + totalCost cost ys := by
  unfold totalCost
  rw [List.map_append, List.sum_append]

theorem length_le_totalCost (h : ∀ a, 0 < cost a) (xs : List α) :
    xs.length ≤ totalCost cost xs := by
  induction xs with
  | nil => exact Nat.zero_le _
  | cons a xs ih =>
    have ha := h a
    rw [List.length_cons, totalCost_cons]
    omega

/-- How many elements come before the first that exceeds the budget, if one does. -/
def cutIndex (cost : α → ℕ) (budget : ℕ) : ℕ → List α → Option ℕ
  | _, [] => none
  | spent, a :: xs =>
    if spent + cost a > budget then some 0
    else (cutIndex cost budget (spent + cost a) xs).map (· + 1)

theorem cutIndex_eq_none (h : spent ≤ budget) :
    cutIndex cost budget spent xs = none ↔ spent + totalCost cost xs ≤ budget := by
  induction xs generalizing spent with
  | nil => exact iff_of_true rfl h
  | cons a xs ih =>
    unfold cutIndex
    rw [totalCost_cons, ← Nat.add_assoc]
    split
    · next hover => exact iff_of_false nofun (by omega)
    · next hwithin => rw [Option.map_eq_none_iff, ih (Nat.le_of_not_lt hwithin)]

theorem cutIndex_eq_some {index : ℕ} (h : spent ≤ budget)
    (hcut : cutIndex cost budget spent xs = some index) :
    spent + totalCost cost (xs.take index) ≤ budget ∧ index < xs.length ∧
      budget < spent + totalCost cost (xs.take (index + 1)) := by
  induction xs generalizing spent index with
  | nil => cases hcut
  | cons a xs ih =>
    unfold cutIndex at hcut
    split at hcut
    · next hover =>
      obtain rfl := Option.some.inj hcut
      exact ⟨h, Nat.succ_pos _, hover⟩
    · next hwithin =>
      obtain ⟨index, hrest, rfl⟩ := Option.map_eq_some_iff.1 hcut
      obtain ⟨hbefore, hlt, hnext⟩ := ih (Nat.le_of_not_lt hwithin) hrest
      rw [List.take_succ_cons, List.take_succ_cons, totalCost_cons, totalCost_cons,
        ← Nat.add_assoc, ← Nat.add_assoc]
      exact ⟨hbefore, Nat.succ_lt_succ hlt, hnext⟩

theorem length_le_of_within {index : ℕ} (h : spent ≤ budget)
    (hcut : cutIndex cost budget spent xs = some index) {ys : List α} (hys : ys <+: xs)
    (hwithin : spent + totalCost cost ys ≤ budget) : ys.length ≤ index := by
  obtain ⟨-, -, hnext⟩ := cutIndex_eq_some h hcut
  by_contra hlong
  have htake : xs.take (index + 1) <+: ys := by
    rw [List.prefix_iff_eq_take.1 hys]
    exact List.take_prefix_take_left (by omega)
  obtain ⟨rest, hrest⟩ := htake
  have htotal := totalCost_append cost (xs.take (index + 1)) rest
  rw [hrest] at htotal
  omega

variable {expand : α → List α} {weight : α → ℕ}

/-- The weight of a symbol that is expanded in layers, each expanding what the last one gave. -/
def expandedWeight (expand : α → List α) (weight : α → ℕ) : α → ℕ → ℕ
  | a, 0 => weight a
  | a, layers + 1 => totalCost (fun b => expandedWeight expand weight b layers) (expand a)

theorem totalCost_flatMap (cost : α → ℕ) (expand : α → List α) (xs : List α) :
    totalCost cost (xs.flatMap expand) = totalCost (fun a => totalCost cost (expand a)) xs := by
  induction xs with
  | nil => rfl
  | cons a xs ih => rw [List.flatMap_cons, totalCost_append, ih, totalCost_cons]

theorem totalCost_expandedWeight (layers : ℕ) (xs : List α) :
    totalCost (fun a => expandedWeight expand weight a layers) xs =
      totalCost weight ((fun ys => ys.flatMap expand)^[layers] xs) := by
  induction layers generalizing xs with
  | zero => rfl
  | succ layers ih => rw [Function.iterate_succ_apply, ← ih, totalCost_flatMap]; rfl

end Collections
