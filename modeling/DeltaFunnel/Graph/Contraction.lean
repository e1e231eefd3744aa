import DeltaFunnel.Graph.Forest

/-! A forest with some of its nodes left out: each kept node hangs below its nearest kept
ancestor, and sums over subtrees stay when the left out nodes count nothing. -/

namespace Graph

variable {α : Type} {parent q : α → Option α} {kept : α → Prop} {nodes : Finset α}
  {x y a b d : α} {o o' : Option α}

/-- Climbing from the node, the node itself included, the first kept node is `o`. -/
inductive NearestKept (parent : α → Option α) (kept : α → Prop) : α → Option α → Prop
  | here {x : α} (hkept : kept x) : NearestKept parent kept x (some x)
  | top {x : α} (hhidden : ¬kept x) (hroot : parent x = none) : NearestKept parent kept x none
  | up {x y : α} {o : Option α} (hhidden : ¬kept x) (hparent : parent x = some y)
      (rest : NearestKept parent kept y o) : NearestKept parent kept x o

/-- The nearest kept proper ancestor of the node is `o`. -/
def NearestAbove (parent : α → Option α) (kept : α → Prop) (x : α) (o : Option α) : Prop :=
  match parent x with
  | none => o = none
  | some y => NearestKept parent kept y o

/-- A kept node is reached from `x` through nodes that are left out, `x` the first of them. -/
inductive NearestBelow (parent : α → Option α) (nodes : Finset α) (kept : α → Prop) :
    α → α → Prop
  | here {x : α} (hkept : kept x) : NearestBelow parent nodes kept x x
  | down {x c d : α} (hhidden : ¬kept x) (hc : c ∈ nodes) (hparent : parent c = some x)
      (rest : NearestBelow parent nodes kept c d) : NearestBelow parent nodes kept x d

theorem nearestAbove_of_parent (hparent : parent x = some y)
    (h : NearestAbove parent kept x o) : NearestKept parent kept y o := by
  unfold NearestAbove at h
  rw [hparent] at h
  exact h

theorem NearestKept.unique (h : NearestKept parent kept x o)
    (h' : NearestKept parent kept x o') : o = o' := by
  induction h with
  | here hkept =>
    cases h' with
    | here _ => rfl
    | top hhidden _ => exact absurd hkept hhidden
    | up hhidden _ _ => exact absurd hkept hhidden
  | top hhidden hroot =>
    cases h' with
    | here hkept => exact absurd hkept hhidden
    | top _ _ => rfl
    | up _ hparent _ =>
      rw [hroot] at hparent
      cases hparent
  | up hhidden hparent _ ih =>
    cases h' with
    | here hkept => exact absurd hkept hhidden
    | top _ hroot =>
      rw [hroot] at hparent
      cases hparent
    | up _ hparent' rest' =>
      obtain rfl := Option.some.inj (hparent.symm.trans hparent')
      exact ih rest'

theorem NearestKept.spec (h : NearestKept parent kept x (some a)) :
    kept a ∧ Below parent x a := by
  generalize hgoal : some a = goal at h
  induction h with
  | here hkept =>
    obtain rfl := Option.some.inj hgoal
    exact ⟨hkept, .refl a⟩
  | top _ _ => cases hgoal
  | up _ hparent _ ih =>
    obtain ⟨hkept, hbelow⟩ := ih hgoal
    exact ⟨hkept, .up hparent hbelow⟩

theorem NearestAbove.spec (h : NearestAbove parent kept x (some a)) :
    kept a ∧ ∃ y, parent x = some y ∧ Below parent y a := by
  rcases hparent : parent x with _ | y
  · unfold NearestAbove at h
    rw [hparent] at h
    cases h
  · obtain ⟨hkept, hbelow⟩ := (nearestAbove_of_parent hparent h).spec
    exact ⟨hkept, y, rfl, hbelow⟩

theorem NearestBelow.spec (h : NearestBelow parent nodes kept x d) :
    kept d ∧ Below parent d x := by
  induction h with
  | here hkept => exact ⟨hkept, .refl _⟩
  | down _ _ hparent _ ih => exact ⟨ih.1, ih.2.trans (.single hparent)⟩

theorem NearestBelow.mem (h : NearestBelow parent nodes kept x d) (hx : x ∈ nodes) :
    d ∈ nodes := by
  induction h with
  | here _ => exact hx
  | down _ hc _ _ ih => exact ih hc

theorem NearestKept.congr {kept' : α → Prop} (hforest : IsForest parent nodes)
    (hagree : ∀ x ∈ nodes, (kept x ↔ kept' x)) (hx : x ∈ nodes)
    (h : NearestKept parent kept x o) : NearestKept parent kept' x o := by
  induction h with
  | @here x hkept => exact .here ((hagree x hx).1 hkept)
  | @top x hhidden hroot => exact .top (fun hkept => hhidden ((hagree x hx).2 hkept)) hroot
  | @up x y o hhidden hparent _ ih =>
    exact .up (fun hkept => hhidden ((hagree x hx).2 hkept)) hparent
      (ih (hforest.closed x hx y hparent))

theorem NearestAbove.congr {kept' : α → Prop} (hforest : IsForest parent nodes)
    (hagree : ∀ x ∈ nodes, (kept x ↔ kept' x)) (hx : x ∈ nodes)
    (h : NearestAbove parent kept x o) : NearestAbove parent kept' x o := by
  unfold NearestAbove at h ⊢
  rcases hparent : parent x with _ | y
  · rw [hparent] at h
    exact h
  · rw [hparent] at h
    exact h.congr hforest hagree (hforest.closed x hx y hparent)

section Contracted
variable (hforest : IsForest parent nodes)
  (hq : ∀ x ∈ nodes, kept x → NearestAbove parent kept x (q x))
include hforest hq

theorem contracted_grounded (hgrounded : Grounded parent x) (hx : x ∈ nodes) :
    (kept x → Grounded q x) ∧ ∀ a, NearestKept parent kept x (some a) → Grounded q a := by
  induction hgrounded with
  | @root x hroot =>
    have hkept : kept x → Grounded q x := by
      intro hkept
      have habove := hq x hx hkept
      unfold NearestAbove at habove
      rw [hroot] at habove
      exact .root habove
    refine ⟨hkept, ?_⟩
    intro a ha
    cases ha with
    | here hx => exact hkept hx
    | up _ hparent _ =>
      rw [hroot] at hparent
      cases hparent
  | @up x y hparent _ ih =>
    obtain ⟨_, habove⟩ := ih (hforest.closed x hx y hparent)
    have hkept : kept x → Grounded q x := by
      intro hkept
      have hnearest := nearestAbove_of_parent hparent (hq x hx hkept)
      rcases hqx : q x with _ | a
      · exact .root hqx
      · rw [hqx] at hnearest
        exact .up hqx (habove a hnearest)
    refine ⟨hkept, ?_⟩
    intro a ha
    cases ha with
    | here hx => exact hkept hx
    | up _ hparent' rest =>
      obtain rfl := Option.some.inj (hparent.symm.trans hparent')
      exact habove a rest

theorem contracted_closed (hx : x ∈ nodes) (hkept : kept x) (hqx : q x = some a) :
    a ∈ nodes ∧ kept a ∧ Below parent x a := by
  have habove := hq x hx hkept
  rw [hqx] at habove
  obtain ⟨hkepta, y, hparent, hbelow⟩ := habove.spec
  have hxa : Below parent x a := .up hparent hbelow
  exact ⟨hforest.mem_of_below hx hxa, hkepta, hxa⟩

theorem below_of_contracted (hbelow : Below q x a) (hx : x ∈ nodes) (hkept : kept x) :
    Below parent x a := by
  induction hbelow with
  | refl x => exact .refl x
  | up hqx _ ih =>
    obtain ⟨hy, hkepty, hxy⟩ := contracted_closed hforest hq hx hkept hqx
    exact hxy.trans (ih hy hkepty)

theorem contracted_of_below (hbelow : Below parent x a) (hx : x ∈ nodes) (ha : kept a)
    (h : NearestKept parent kept x o) : ∃ b, o = some b ∧ Below q b a := by
  induction hbelow generalizing o with
  | refl x =>
    cases h with
    | here _ => exact ⟨x, rfl, .refl x⟩
    | top hhidden _ => exact absurd ha hhidden
    | up hhidden _ _ => exact absurd ha hhidden
  | @up x y a hparent _ ih =>
    have hy := hforest.closed x hx y hparent
    cases h with
    | here hkept =>
      obtain ⟨b, hqx, hb⟩ := ih hy ha (nearestAbove_of_parent hparent (hq x hx hkept))
      exact ⟨x, rfl, .up hqx hb⟩
    | top _ hroot =>
      rw [hroot] at hparent
      cases hparent
    | up _ hparent' rest =>
      obtain rfl := Option.some.inj (hparent.symm.trans hparent')
      exact ih hy ha rest

theorem contracted_below_iff (hx : x ∈ nodes) (hkept : kept x) (ha : kept a) :
    Below q x a ↔ Below parent x a := by
  constructor
  · intro hbelow
    exact below_of_contracted hforest hq hbelow hx hkept
  · intro hbelow
    obtain ⟨b, hb, hba⟩ := contracted_of_below hforest hq hbelow hx ha (.here hkept)
    obtain rfl := Option.some.inj hb
    exact hba

variable [DecidablePred kept]

theorem contracted_isForest : IsForest q (nodes.filter kept) where
  closed := by
    intro x hx y hqx
    obtain ⟨hx, hkept⟩ := Finset.mem_filter.1 hx
    obtain ⟨hy, hkepty, -⟩ := contracted_closed hforest hq hx hkept hqx
    exact Finset.mem_filter.2 ⟨hy, hkepty⟩
  grounded := by
    intro x hx
    obtain ⟨hx, hkept⟩ := Finset.mem_filter.1 hx
    exact (contracted_grounded hforest hq (hforest.grounded x hx) hx).1 hkept

variable {M : Type} [AddCommMonoid M] {count : α → M}

theorem contracted_subtreeSum (hzero : ∀ x ∈ nodes, ¬kept x → count x = 0) (ha : kept a) :
    subtreeSum q (nodes.filter kept) count a = subtreeSum parent nodes count a := by
  have hsubtree : subtree q (nodes.filter kept) a = (subtree parent nodes a).filter kept := by
    ext x
    rw [mem_subtree, Finset.mem_filter, Finset.mem_filter, mem_subtree]
    constructor
    · rintro ⟨⟨hx, hkept⟩, hbelow⟩
      exact ⟨⟨hx, (contracted_below_iff hforest hq hx hkept ha).1 hbelow⟩, hkept⟩
    · rintro ⟨⟨hx, hbelow⟩, hkept⟩
      exact ⟨⟨hx, hkept⟩, (contracted_below_iff hforest hq hx hkept ha).2 hbelow⟩
  unfold subtreeSum
  rw [hsubtree]
  apply Finset.sum_filter_of_ne
  intro x hx hne
  by_contra hhidden
  exact hne (hzero x (mem_subtree.1 hx).1 hhidden)

end Contracted

section Chains
variable (hforest : IsForest parent nodes)
  (hchain : ∀ x ∈ nodes, ¬kept x → ∃ c, children parent nodes x = {c})
include hforest hchain

theorem exists_nearestBelow (hx : x ∈ nodes) : ∃ d, NearestBelow parent nodes kept x d := by
  induction hn : (subtree parent nodes x).card using Nat.strong_induction_on generalizing x with
  | _ n ih =>
    by_cases hkept : kept x
    · exact ⟨x, .here hkept⟩
    · obtain ⟨c, hc⟩ := hchain x hx hkept
      have hmem : c ∈ children parent nodes x := by
        rw [hc]
        exact Finset.mem_singleton_self c
      obtain ⟨hcmem, hparent⟩ := mem_children.1 hmem
      have hlt := hforest.card_subtree_lt hcmem hparent
      obtain ⟨d, hd⟩ := ih _ (hn ▸ hlt) hcmem rfl
      exact ⟨d, .down hkept hcmem hparent hd⟩

omit hforest in
theorem NearestBelow.unique (hx : x ∈ nodes) (h : NearestBelow parent nodes kept x d)
    (h' : NearestBelow parent nodes kept x b) : d = b := by
  induction h with
  | here hkept =>
    cases h' with
    | here _ => rfl
    | down hhidden _ _ _ => exact absurd hkept hhidden
  | @down x c d hhidden hc hparent _ ih =>
    cases h' with
    | here hkept => exact absurd hkept hhidden
    | @down _ c' _ _ hc' hparent' rest' =>
      obtain ⟨e, he⟩ := hchain x hx hhidden
      have hmem : c ∈ children parent nodes x := mem_children.2 ⟨hc, hparent⟩
      have hmem' : c' ∈ children parent nodes x := mem_children.2 ⟨hc', hparent'⟩
      rw [he, Finset.mem_singleton] at hmem hmem'
      obtain rfl : c = c' := hmem.trans hmem'.symm
      exact ih hc rest'

variable {M : Type} [AddCommMonoid M] {count : α → M}

theorem NearestBelow.subtreeSum_eq (hzero : ∀ x ∈ nodes, ¬kept x → count x = 0)
    (hx : x ∈ nodes) (h : NearestBelow parent nodes kept x d) :
    subtreeSum parent nodes count x = subtreeSum parent nodes count d := by
  induction h with
  | here _ => rfl
  | @down x c d hhidden hc hparent _ ih =>
    obtain ⟨e, he⟩ := hchain x hx hhidden
    have hmem : c ∈ children parent nodes x := mem_children.2 ⟨hc, hparent⟩
    rw [he, Finset.mem_singleton] at hmem
    rw [hforest.subtreeSum_eq hx, hzero x hx hhidden, zero_add, he, Finset.sum_singleton, ← hmem]
    exact ih hc

end Chains

end Graph
