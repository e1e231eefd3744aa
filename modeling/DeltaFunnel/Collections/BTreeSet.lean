import Mathlib.Data.List.Basic

/-! Ordered sets without duplicates, as the increasing list of their elements. -/

namespace Collections.BTreeSet

variable {α : Type} {cmp : α → α → Ordering}

/-- Inserts an element; an equal one that is already there stays. -/
def insert (cmp : α → α → Ordering) (x : α) : List α → List α
  | [] => [x]
  | y :: ys =>
    match cmp x y with
    | .lt => x :: y :: ys
    | .eq => y :: ys
    | .gt => y :: insert cmp x ys

def ofList (cmp : α → α → Ordering) (xs : List α) : List α :=
  xs.foldl (fun set x => insert cmp x set) []

theorem mem_of_mem_insert {x y : α} {set : List α} (h : y ∈ insert cmp x set) :
    y = x ∨ y ∈ set := by
  induction set with
  | nil => exact .inl (List.mem_singleton.1 h)
  | cons z zs ih =>
    unfold insert at h
    split at h
    · exact List.mem_cons.1 h
    · exact .inr h
    · rcases List.mem_cons.1 h with rfl | h
      · exact .inr (List.mem_cons_self ..)
      · exact (ih h).imp_right (List.mem_cons_of_mem _)

theorem mem_insert (hcmp : ∀ a b, cmp a b = .eq → a = b) {x y : α} {set : List α} :
    y ∈ insert cmp x set ↔ y = x ∨ y ∈ set := by
  induction set with
  | nil => simp [insert]
  | cons z zs ih =>
    unfold insert
    split
    · simp
    · next heq =>
      have hxz := hcmp x z heq
      subst hxz
      simp
    · simp only [List.mem_cons, ih]
      tauto

theorem mem_ofList (hcmp : ∀ a b, cmp a b = .eq → a = b) {y : α} {xs : List α} :
    y ∈ ofList cmp xs ↔ y ∈ xs := by
  have key : ∀ set, y ∈ xs.foldl (fun set x => insert cmp x set) set ↔ y ∈ xs ∨ y ∈ set := by
    induction xs with
    | nil => simp
    | cons x xs ih =>
      intro set
      rw [List.foldl_cons, ih, mem_insert hcmp, List.mem_cons]
      tauto
  rw [ofList, key]
  simp

theorem insert_increasing [Std.TransCmp cmp] (x : α) {set : List α}
    (h : set.Pairwise fun a b => cmp a b = .lt) :
    (insert cmp x set).Pairwise fun a b => cmp a b = .lt := by
  induction set with
  | nil => exact List.pairwise_singleton _ _
  | cons y ys ih =>
    obtain ⟨hy, hys⟩ := List.pairwise_cons.1 h
    unfold insert
    split
    · next hlt =>
      refine List.pairwise_cons.2 ⟨List.forall_mem_cons.2 ⟨hlt, fun z hz => ?_⟩, h⟩
      exact Std.TransCmp.lt_trans hlt (hy z hz)
    · exact h
    · next hgt =>
      refine List.pairwise_cons.2 ⟨fun z hz => ?_, ih hys⟩
      rcases mem_of_mem_insert hz with rfl | hz
      · exact Std.OrientedCmp.gt_iff_lt.1 hgt
      · exact hy z hz

end Collections.BTreeSet
