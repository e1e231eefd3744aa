import Mathlib.Algebra.BigOperators.Group.Finset.Basic
import Mathlib.Algebra.Order.BigOperators.Group.Finset

/-! Forests given by the parent of each node, their subtrees, and sums over subtrees. -/

namespace Graph

variable {α : Type} {parent : α → Option α} {x y a b r : α}

/-- `Below parent x a`: climbing from `x` reaches `a`, possibly without a step. -/
inductive Below (parent : α → Option α) : α → α → Prop
  | refl (x : α) : Below parent x x
  | up {x y a : α} (hparent : parent x = some y) (rest : Below parent y a) : Below parent x a

/-- Climbing from the node ends at a root. -/
inductive Grounded (parent : α → Option α) : α → Prop
  | root {x : α} (hparent : parent x = none) : Grounded parent x
  | up {x y : α} (hparent : parent x = some y) (rest : Grounded parent y) : Grounded parent x

/-- The parents of the nodes are nodes, and climbing always ends. -/
structure IsForest (parent : α → Option α) (nodes : Finset α) : Prop where
  closed : ∀ x ∈ nodes, ∀ y, parent x = some y → y ∈ nodes
  grounded : ∀ x ∈ nodes, Grounded parent x

theorem Below.trans (hxy : Below parent x y) (hya : Below parent y a) : Below parent x a := by
  induction hxy with
  | refl x => exact hya
  | up hparent _ ih => exact .up hparent (ih hya)

theorem Below.single (hparent : parent x = some y) : Below parent x y := .up hparent (.refl y)

theorem below_iff : Below parent x a ↔ x = a ∨ ∃ y, parent x = some y ∧ Below parent y a := by
  constructor
  · rintro (_ | ⟨hparent, rest⟩)
    · exact .inl rfl
    · exact .inr ⟨_, hparent, rest⟩
  · rintro (rfl | ⟨y, hparent, rest⟩)
    · exact .refl x
    · exact .up hparent rest

theorem Below.exists_child (hbelow : Below parent x a) (hne : x ≠ a) :
    ∃ c, parent c = some a ∧ Below parent x c := by
  induction hbelow with
  | refl x => exact absurd rfl hne
  | @up x y a hparent rest ih =>
    by_cases hya : y = a
    · subst hya
      exact ⟨x, hparent, .refl x⟩
    · obtain ⟨c, hc, hbelow⟩ := ih hya
      exact ⟨c, hc, .up hparent hbelow⟩

theorem Below.comparable (ha : Below parent x a) (hb : Below parent x b) :
    Below parent a b ∨ Below parent b a := by
  induction ha with
  | refl x => exact .inl hb
  | @up x y a hparent rest ih =>
    rcases below_iff.1 hb with rfl | ⟨y', hparent', hb'⟩
    · exact .inr (.up hparent rest)
    · obtain rfl : y = y' := Option.some.inj (hparent.symm.trans hparent')
      exact ih hb'

theorem Below.eq_of_root (hbelow : Below parent x a) (hroot : parent x = none) : x = a := by
  rcases below_iff.1 hbelow with rfl | ⟨y, hparent, -⟩
  · rfl
  · rw [hroot] at hparent
    cases hparent

theorem Grounded.of_below (hgrounded : Grounded parent x) (hbelow : Below parent x a) :
    Grounded parent a := by
  induction hbelow with
  | refl x => exact hgrounded
  | up hparent _ ih =>
    cases hgrounded with
    | root hroot => rw [hroot] at hparent; cases hparent
    | up hparent' rest =>
      obtain rfl := Option.some.inj (hparent'.symm.trans hparent)
      exact ih rest

theorem Grounded.not_below_parent (hgrounded : Grounded parent x) (hparent : parent x = some y) :
    ¬Below parent y x := by
  induction hgrounded generalizing y with
  | root hroot => rw [hroot] at hparent; cases hparent
  | @up x z hz rest ih =>
    obtain rfl := Option.some.inj (hz.symm.trans hparent)
    intro hback
    -- Going around the cycle once more starts at the parent, which is grounded earlier.
    rcases below_iff.1 hback with rfl | ⟨w, hw, hwx⟩
    · exact ih hz (.refl _)
    · exact ih hw (hwx.trans (.single hz))

theorem Below.antisymm (hgrounded : Grounded parent x) (hxy : Below parent x y)
    (hyx : Below parent y x) : x = y := by
  rcases below_iff.1 hxy with rfl | ⟨z, hz, hzy⟩
  · rfl
  · exact absurd (hzy.trans hyx) (hgrounded.not_below_parent hz)

theorem Grounded.exists_root (hgrounded : Grounded parent x) :
    ∃ r, Below parent x r ∧ parent r = none := by
  induction hgrounded with
  | @root x hroot => exact ⟨x, .refl x, hroot⟩
  | up hparent _ ih =>
    obtain ⟨r, hbelow, hroot⟩ := ih
    exact ⟨r, .up hparent hbelow, hroot⟩

theorem Below.root_unique (ha : Below parent x a) (hb : Below parent x b)
    (hroota : parent a = none) (hrootb : parent b = none) : a = b := by
  rcases ha.comparable hb with hab | hba
  · exact hab.eq_of_root hroota
  · exact (hba.eq_of_root hrootb).symm

section Subtrees
variable {nodes : Finset α}

theorem IsForest.mem_of_below (hforest : IsForest parent nodes) (hx : x ∈ nodes)
    (hbelow : Below parent x a) : a ∈ nodes := by
  induction hbelow with
  | refl x => exact hx
  | up hparent _ ih => exact ih (hforest.closed _ hx _ hparent)

open Classical in
/-- The nodes from which climbing reaches `a`. -/
noncomputable def subtree (parent : α → Option α) (nodes : Finset α) (a : α) : Finset α :=
  nodes.filter (Below parent · a)

open Classical in
noncomputable def children (parent : α → Option α) (nodes : Finset α) (a : α) : Finset α :=
  nodes.filter (parent · = some a)

open Classical in
noncomputable def roots (parent : α → Option α) (nodes : Finset α) : Finset α :=
  nodes.filter (parent · = none)

@[simp] theorem mem_subtree : x ∈ subtree parent nodes a ↔ x ∈ nodes ∧ Below parent x a := by
  classical simp [subtree]

@[simp] theorem mem_children : x ∈ children parent nodes a ↔ x ∈ nodes ∧ parent x = some a := by
  classical simp [children]

@[simp] theorem mem_roots : x ∈ roots parent nodes ↔ x ∈ nodes ∧ parent x = none := by
  classical simp [roots]

theorem IsForest.disjoint_children (hforest : IsForest parent nodes) :
    (children parent nodes a : Set α).PairwiseDisjoint (subtree parent nodes) := by
  intro c hc d hd hne
  rw [Function.onFun, Finset.disjoint_left]
  intro x hxc hxd
  have hc' := mem_children.1 (Finset.mem_coe.1 hc)
  have hd' := mem_children.1 (Finset.mem_coe.1 hd)
  rcases (mem_subtree.1 hxc).2.comparable (mem_subtree.1 hxd).2 with hcd | hdc
  · rcases below_iff.1 hcd with rfl | ⟨y, hy, hyd⟩
    · exact hne rfl
    · obtain rfl := Option.some.inj (hc'.2.symm.trans hy)
      exact (hforest.grounded d hd'.1).not_below_parent hd'.2 hyd
  · rcases below_iff.1 hdc with rfl | ⟨y, hy, hyc⟩
    · exact hne rfl
    · obtain rfl := Option.some.inj (hd'.2.symm.trans hy)
      exact (hforest.grounded c hc'.1).not_below_parent hc'.2 hyc

theorem IsForest.disjoint_roots :
    (roots parent nodes : Set α).PairwiseDisjoint (subtree parent nodes) := by
  intro r hr s hs hne
  rw [Function.onFun, Finset.disjoint_left]
  intro x hxr hxs
  exact hne ((mem_subtree.1 hxr).2.root_unique (mem_subtree.1 hxs).2
    (mem_roots.1 (Finset.mem_coe.1 hr)).2 (mem_roots.1 (Finset.mem_coe.1 hs)).2)

theorem IsForest.subtree_eq [DecidableEq α] (hforest : IsForest parent nodes) (ha : a ∈ nodes) :
    subtree parent nodes a =
      insert a ((children parent nodes a).biUnion (subtree parent nodes)) := by
  ext x
  simp only [mem_subtree, Finset.mem_insert, Finset.mem_biUnion, mem_children]
  constructor
  · rintro ⟨hx, hbelow⟩
    by_cases hne : x = a
    · exact .inl hne
    · obtain ⟨c, hc, hxc⟩ := hbelow.exists_child hne
      exact .inr ⟨c, ⟨hforest.mem_of_below hx hxc, hc⟩, hx, hxc⟩
  · rintro (rfl | ⟨c, ⟨-, hc⟩, hx, hxc⟩)
    · exact ⟨ha, .refl x⟩
    · exact ⟨hx, hxc.trans (.single hc)⟩

theorem IsForest.biUnion_roots [DecidableEq α] (hforest : IsForest parent nodes) :
    (roots parent nodes).biUnion (subtree parent nodes) = nodes := by
  ext x
  simp only [Finset.mem_biUnion, mem_roots, mem_subtree]
  constructor
  · rintro ⟨r, -, hx, -⟩
    exact hx
  · intro hx
    obtain ⟨r, hbelow, hroot⟩ := (hforest.grounded x hx).exists_root
    exact ⟨r, ⟨hforest.mem_of_below hx hbelow, hroot⟩, hx, hbelow⟩

theorem IsForest.card_subtree_lt (hforest : IsForest parent nodes) (hx : x ∈ nodes)
    (hparent : parent x = some y) :
    (subtree parent nodes x).card < (subtree parent nodes y).card := by
  apply Finset.card_lt_card
  constructor
  · intro z hz
    exact mem_subtree.2 ⟨(mem_subtree.1 hz).1, (mem_subtree.1 hz).2.trans (.single hparent)⟩
  · intro hsub
    have hy : y ∈ subtree parent nodes y := mem_subtree.2 ⟨hforest.closed x hx y hparent, .refl y⟩
    exact (hforest.grounded x hx).not_below_parent hparent (mem_subtree.1 (hsub hy)).2

open Classical in
/-- The nodes that climbing from `x` passes. -/
noncomputable def ancestors (parent : α → Option α) (nodes : Finset α) (x : α) : Finset α :=
  nodes.filter (Below parent x ·)

@[simp] theorem mem_ancestors : a ∈ ancestors parent nodes x ↔ a ∈ nodes ∧ Below parent x a := by
  classical simp [ancestors]

theorem card_ancestors_le : (ancestors parent nodes x).card ≤ nodes.card :=
  Finset.card_le_card fun _ ha => (mem_ancestors.1 ha).1

theorem IsForest.card_ancestors_lt (hforest : IsForest parent nodes) (hx : x ∈ nodes)
    (hparent : parent x = some y) :
    (ancestors parent nodes y).card < (ancestors parent nodes x).card := by
  apply Finset.card_lt_card
  constructor
  · intro z hz
    exact mem_ancestors.2 ⟨(mem_ancestors.1 hz).1, .up hparent (mem_ancestors.1 hz).2⟩
  · intro hsub
    have hmem : x ∈ ancestors parent nodes x := mem_ancestors.2 ⟨hx, .refl x⟩
    exact (hforest.grounded x hx).not_below_parent hparent (mem_ancestors.1 (hsub hmem)).2

theorem IsForest.card_ancestors_lt_of_below (hforest : IsForest parent nodes) (hx : x ∈ nodes)
    (hbelow : Below parent x a) (hne : x ≠ a) :
    (ancestors parent nodes a).card < (ancestors parent nodes x).card := by
  rcases below_iff.1 hbelow with heq | ⟨y, hparent, hya⟩
  · exact absurd heq hne
  · have hle : (ancestors parent nodes a).card ≤ (ancestors parent nodes y).card := by
      apply Finset.card_le_card
      intro z hz
      obtain ⟨hmem, haz⟩ := mem_ancestors.1 hz
      exact mem_ancestors.2 ⟨hmem, hya.trans haz⟩
    exact hle.trans_lt (hforest.card_ancestors_lt hx hparent)

theorem isForest_of_acyclic (hclosed : ∀ x ∈ nodes, ∀ y, parent x = some y → y ∈ nodes)
    (hacyclic : ∀ x ∈ nodes, ∀ y, parent x = some y → ¬Below parent y x) :
    IsForest parent nodes := by
  refine ⟨hclosed, ?_⟩
  intro x hx
  -- by induction on the number of nodes above
  induction hcard : (ancestors parent nodes x).card using Nat.strong_induction_on generalizing x with
  | _ n ih =>
    cases hparent : parent x with
    | none => exact .root hparent
    | some y =>
      have hy := hclosed x hx y hparent
      have hlt : (ancestors parent nodes y).card < n := by
        rw [← hcard]
        apply Finset.card_lt_card
        constructor
        · intro z hz
          obtain ⟨hmem, hyz⟩ := mem_ancestors.1 hz
          exact mem_ancestors.2 ⟨hmem, .up hparent hyz⟩
        · intro hsub
          have hmem : x ∈ ancestors parent nodes x := mem_ancestors.2 ⟨hx, .refl x⟩
          exact hacyclic x hx y hparent (mem_ancestors.1 (hsub hmem)).2
      exact .up hparent (ih _ hlt y hy rfl)

end Subtrees

section Sums
variable {M : Type} [AddCommMonoid M] {nodes : Finset α} {count : α → M}

/-- The sum of the counts from which climbing reaches `a`. -/
noncomputable def subtreeSum (parent : α → Option α) (nodes : Finset α) (count : α → M) (a : α) :
    M := ∑ x ∈ subtree parent nodes a, count x

theorem IsForest.subtreeSum_eq (hforest : IsForest parent nodes) (ha : a ∈ nodes) :
    subtreeSum parent nodes count a =
      count a + ∑ c ∈ children parent nodes a, subtreeSum parent nodes count c := by
  classical
  have hnotin : a ∉ (children parent nodes a).biUnion (subtree parent nodes) := by
    rw [Finset.mem_biUnion]
    rintro ⟨c, hc, hac⟩
    obtain ⟨hcmem, hcparent⟩ := mem_children.1 hc
    exact (hforest.grounded c hcmem).not_below_parent hcparent (mem_subtree.1 hac).2
  unfold subtreeSum
  rw [hforest.subtree_eq ha, Finset.sum_insert hnotin,
    Finset.sum_biUnion hforest.disjoint_children]

theorem IsForest.sum_roots (hforest : IsForest parent nodes) :
    ∑ r ∈ roots parent nodes, subtreeSum parent nodes count r = ∑ x ∈ nodes, count x := by
  classical
  unfold subtreeSum
  rw [← Finset.sum_biUnion IsForest.disjoint_roots, hforest.biUnion_roots]

theorem Below.shared {P : α → Prop} (hshared : ∀ x y, parent x = some y → (P x ↔ P y))
    (hbelow : Below parent x a) : P x ↔ P a := by
  induction hbelow with
  | refl x => exact Iff.rfl
  | up hparent _ ih => exact (hshared _ _ hparent).trans ih

variable {P : α → Prop} [DecidablePred P]

theorem IsForest.filter (hforest : IsForest parent nodes)
    (hshared : ∀ x y, parent x = some y → (P x ↔ P y)) : IsForest parent (nodes.filter P) where
  closed := by
    intro x hx y hparent
    obtain ⟨hx, hP⟩ := Finset.mem_filter.1 hx
    exact Finset.mem_filter.2 ⟨hforest.closed x hx y hparent, (hshared x y hparent).1 hP⟩
  grounded := fun x hx => hforest.grounded x (Finset.mem_filter.1 hx).1

theorem subtree_filter (hshared : ∀ x y, parent x = some y → (P x ↔ P y)) (ha : P a) :
    subtree parent (nodes.filter P) a = subtree parent nodes a := by
  ext x
  rw [mem_subtree, mem_subtree, Finset.mem_filter, and_right_comm]
  constructor
  · rintro ⟨⟨hx, hbelow⟩, -⟩
    exact ⟨hx, hbelow⟩
  · rintro ⟨hx, hbelow⟩
    exact ⟨⟨hx, hbelow⟩, (hbelow.shared hshared).2 ha⟩

theorem IsForest.sum_roots_filter (hforest : IsForest parent nodes)
    (hshared : ∀ x y, parent x = some y → (P x ↔ P y)) :
    ∑ r ∈ (roots parent nodes).filter P, subtreeSum parent nodes count r =
      ∑ x ∈ nodes.filter P, count x := by
  have hroots : (roots parent nodes).filter P = roots parent (nodes.filter P) := by
    ext r
    simp only [Finset.mem_filter, mem_roots]
    tauto
  rw [← (hforest.filter hshared).sum_roots, hroots]
  apply Finset.sum_congr rfl
  intro r hr
  unfold subtreeSum
  rw [subtree_filter hshared (Finset.mem_filter.1 (mem_roots.1 hr).1).2]

end Sums

section Records
variable {ρ M : Type} [AddCommMonoid M] [DecidableEq α] {records : List ρ} {key : ρ → α}

theorem sum_keys_filter (hnodup : (records.map key).Nodup) (count : α → M) (P : α → Prop)
    [DecidablePred P] :
    ∑ k ∈ (records.map key).toFinset.filter P, count k =
      ((records.filter fun r => P (key r)).map fun r => count (key r)).sum := by
  have hset : (records.map key).toFinset.filter P =
      ((records.map key).filter fun k => P k).toFinset := by
    ext k
    simp
  rw [hset, List.sum_toFinset count (hnodup.filter _), List.filter_map, List.map_map]
  rfl

theorem sum_keys (hnodup : (records.map key).Nodup) (count : α → M) :
    ∑ k ∈ (records.map key).toFinset, count k = (records.map fun r => count (key r)).sum := by
  rw [List.sum_toFinset count hnodup, List.map_map]
  rfl

open Classical in
theorem subtreeSum_keys (hnodup : (records.map key).Nodup) (count : α → M) :
    subtreeSum parent (records.map key).toFinset count a =
      ((records.filter fun r => Below parent (key r) a).map fun r => count (key r)).sum :=
  sum_keys_filter hnodup count (Below parent · a)

/-- Adding up groups of records, one for each of some keys, adds up the records of those keys. -/
theorem sum_groups (key : ρ → α) {keys : List α} (hkeys : keys.Nodup) (count : ρ → M)
    (records : List ρ) :
    (keys.map fun k => ((records.filter (key · = k)).map count).sum).sum =
      ((records.filter (key · ∈ keys)).map count).sum := by
  induction keys with
  | nil => simp
  | cons k keys ih =>
    obtain ⟨hk, hkeys⟩ := List.nodup_cons.1 hkeys
    rw [List.map_cons, List.sum_cons, ih hkeys]
    clear ih
    induction records with
    | nil => simp
    | cons r records ih =>
      simp only [List.mem_cons, Bool.decide_or] at ih
      by_cases hr : key r = k
      · simp [hr, hk, ← ih, add_assoc]
      · by_cases hmem : key r ∈ keys
        · simp [hr, hmem, ← ih, add_left_comm]
        · simp [hr, hmem, ← ih]

end Records

section OrderedSums
variable {nodes : Finset α} {count : α → ℤ}

theorem subtreeSum_nonneg (hcount : ∀ x ∈ nodes, 0 ≤ count x) :
    0 ≤ subtreeSum parent nodes count a :=
  Finset.sum_nonneg fun x hx => hcount x (mem_subtree.1 hx).1

end OrderedSums
end Graph
