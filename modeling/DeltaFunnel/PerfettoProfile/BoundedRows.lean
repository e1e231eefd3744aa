import DeltaFunnel.PerfettoProfile.TerminalRows

/-! What the walks of a terminal view list: a bounded part of a preorder, with the nodes that
match a filter and those above them. -/

namespace DeltaFunnel
open Collections Graph

section Generic
variable {α Id : Type} [DecidableEq Id] {idOf : α → Id} {parent : Id → Option Id}
  {nodes : Finset Id} {context : Option Id}

/-- A climb from a node of a forest ends, and passes the nodes above it that are not above the
context. -/
theorem contextPath_spec (context : Option Id) (hforest : IsForest parent nodes) {fuel : ℕ} {id : Id}
    (hid : id ∈ nodes) (hfuel : (ancestors parent nodes id).card ≤ fuel) :
    ∃ path, contextPath parent context fuel id = some path ∧
      (∀ z ∈ path, Below parent id z) ∧
      ∀ z, Below parent id z → (∀ c, context = some c → ¬ Below parent c z) → z ∈ path := by
  -- on the fuel, which the ancestors still to pass bound
  induction fuel generalizing id with
  | zero =>
    have hself : id ∈ ancestors parent nodes id := mem_ancestors.2 ⟨hid, .refl id⟩
    exact absurd (Finset.card_pos.2 ⟨id, hself⟩) (Nat.not_lt.2 hfuel)
  | succ fuel ih =>
    rw [contextPath]
    -- the climb stops at the context, or at a root
    by_cases hcontext : some id = context
    · rw [if_pos hcontext]
      refine ⟨[], rfl, fun z hz => absurd hz List.not_mem_nil, ?_⟩
      intro z hz hnot
      exact absurd hz (hnot id hcontext.symm)
    · rw [if_neg hcontext]
      cases hparent : parent id with
      | none =>
        refine ⟨[id], rfl, ?_, ?_⟩
        · intro z hz
          rw [List.mem_singleton.1 hz]
          exact .refl id
        · intro z hz _
          rw [hz.eq_of_root hparent]
          exact List.mem_singleton_self z
      | some parentId =>
        have hcard := hforest.card_ancestors_lt hid hparent
        obtain ⟨path, hpath, hbelow, hmem⟩ := ih (hforest.closed id hid parentId hparent)
          (Nat.le_of_lt_succ (Nat.lt_of_lt_of_le hcard hfuel))
        refine ⟨id :: path, ?_, ?_, ?_⟩
        · dsimp only
          rw [hpath]
          rfl
        · intro z hz
          rcases List.mem_cons.1 hz with rfl | hz
          · exact .refl z
          · exact .up hparent (hbelow z hz)
        · intro z hz hnot
          rcases below_iff.1 hz with rfl | ⟨y, hy, hrest⟩
          · exact List.mem_cons_self
          · obtain rfl := Option.some.inj (hparent.symm.trans hy)
            exact List.mem_cons_of_mem id (hmem z hrest hnot)

theorem foldlM_addMatch (context : Option Id) (hforest : IsForest parent nodes) {fuel : ℕ}
    (hfuel : nodes.card ≤ fuel) (isMatch : α → Bool) {rows : List (ℕ × α)}
    (hrows : ∀ row ∈ rows, idOf row.2 ∈ nodes) (included : List Id) :
    ∃ included', rows.foldlM (addMatch fuel idOf parent context isMatch) included =
        some included' ∧
      (∀ z ∈ included', z ∈ included ∨ ∃ row ∈ rows, isMatch row.2 = true ∧
        Below parent (idOf row.2) z) ∧
      ∀ z, (z ∈ included ∨ ∃ row ∈ rows, isMatch row.2 = true ∧ Below parent (idOf row.2) z ∧
        ∀ c, context = some c → ¬ Below parent c z) → z ∈ included' := by
  -- over the rows: a match adds its path, any other row nothing
  induction rows generalizing included with
  | nil =>
    refine ⟨included, rfl, fun z hz => Or.inl hz, ?_⟩
    intro z hz
    rcases hz with hz | ⟨row, hrow, -⟩
    · exact hz
    · exact absurd hrow List.not_mem_nil
  | cons row rows ih =>
    obtain ⟨hrow, hrest⟩ := List.forall_mem_cons.1 hrows
    rw [List.foldlM_cons]
    unfold addMatch
    by_cases hmatch : isMatch row.2 = true
    · obtain ⟨path, hpath, hbelow, hmem⟩ := contextPath_spec context hforest hrow
        (card_ancestors_le.trans hfuel)
      obtain ⟨included', hfold, hfrom, hto⟩ := ih hrest (path ++ included)
      refine ⟨included', ?_, ?_, ?_⟩
      · rw [if_pos hmatch, hpath]
        exact hfold
      · intro z hz
        rcases hfrom z hz with hz | ⟨other, hother, hrest⟩
        · rcases List.mem_append.1 hz with hz | hz
          · exact Or.inr ⟨row, List.mem_cons_self, hmatch, hbelow z hz⟩
          · exact Or.inl hz
        · exact Or.inr ⟨other, List.mem_cons_of_mem row hother, hrest⟩
      · intro z hz
        apply hto
        rcases hz with hz | ⟨other, hother, hotherMatch, hz, hnot⟩
        · exact Or.inl (List.mem_append_right path hz)
        · rcases List.mem_cons.1 hother with rfl | hother
          · exact Or.inl (List.mem_append_left included (hmem z hz hnot))
          · exact Or.inr ⟨other, hother, hotherMatch, hz, hnot⟩
    · obtain ⟨included', hfold, hfrom, hto⟩ := ih hrest included
      refine ⟨included', ?_, ?_, ?_⟩
      · rw [if_neg hmatch]
        exact hfold
      · intro z hz
        rcases hfrom z hz with hz | ⟨other, hother, hrest⟩
        · exact Or.inl hz
        · exact Or.inr ⟨other, List.mem_cons_of_mem row hother, hrest⟩
      · intro z hz
        apply hto
        rcases hz with hz | ⟨other, hother, hotherMatch, hz, hnot⟩
        · exact Or.inl hz
        · rcases List.mem_cons.1 hother with rfl | hother
          · exact absurd hotherMatch hmatch
          · exact Or.inr ⟨other, hother, hotherMatch, hz, hnot⟩

theorem foldl_addRow {limit : ℕ} (included : Option (List Id)) {rows shown : List (ℕ × α)}
    (hshown : shown.length ≤ limit) (total : ℕ) :
    rows.foldl (addRow idOf limit included) (total, shown) =
      (total + (rows.filter fun row => included.all (idOf row.2 ∈ ·)).length,
        shown ++ (rows.filter fun row => included.all (idOf row.2 ∈ ·)).take
          (limit - shown.length)) := by
  induction rows generalizing total shown with
  | nil =>
    rw [List.foldl_nil, List.filter_nil, List.take_nil, List.append_nil]
    rfl
  | cons row rows ih =>
    rw [List.foldl_cons, List.filter_cons]
    unfold addRow
    by_cases hin : included.all (idOf row.2 ∈ ·) = true
    · rw [if_pos hin, if_pos hin, List.length_cons]
      by_cases hroom : shown.length < limit
      · have hlength : (shown ++ [row]).length = shown.length + 1 := List.length_append
        have hmore : limit - shown.length = (limit - (shown.length + 1)) + 1 := by omega
        rw [if_pos hroom]
        have hfit : (shown ++ [row]).length ≤ limit := by omega
        have hnext := ih hfit (total + 1)
        unfold addRow at hnext
        rw [hnext, hlength, hmore, List.take_succ_cons, List.append_assoc]
        congr 1
        omega
      · have hnone : limit - shown.length = 0 := by omega
        rw [if_neg hroom]
        have hnext := ih hshown (total + 1)
        unfold addRow at hnext
        rw [hnext, hnone, List.take_zero, List.take_zero]
        congr 1
        omega
    · rw [if_neg hin, if_neg hin]
      have hnext := ih hshown total
      unfold addRow at hnext
      exact hnext

open Classical in
/-- The nodes of a tree that match, or have a node below them in it that does; all of them without
a filter. -/
noncomputable def retained (idOf : α → Id) (parent : Id → Option Id)
    (isMatch : Option (α → Bool)) (tree : List (ℕ × α)) : List (ℕ × α) :=
  tree.filter fun row => ∀ test ∈ isMatch,
    ∃ other ∈ tree, test other.2 = true ∧ Below parent (idOf other.2) (idOf row.2)

structure BoundedPrefix (idOf : α → Id) (parent : Id → Option Id) (context : Option Id)
    (isMatch : Option (α → Bool)) (tree : List (ℕ × α)) (limit : ℕ)
    (found : ℕ × List (ℕ × α)) : Prop where
  total : found.1 = (retained idOf parent isMatch tree).length
  rows : found.2 = (retained idOf parent isMatch tree).take limit
  /-- no node of the tree is listed twice -/
  distinct : (tree.map fun row => idOf row.2).Nodup
  /-- what a shown row is a child of is the context or shown above it -/
  parent_shown : ∀ before row after, found.2 = before ++ row :: after →
    parent (idOf row.2) = context ∨
      ∃ above ∈ before, parent (idOf row.2) = some (idOf above.2) ∧ above.1 + 1 = row.1

/-- The children of the nodes of a forest, and an order of them. -/
structure SortedForest (idOf : α → Id) (parent : Id → Option Id) (nodes : Finset Id)
    (context : Option Id) (children siblings : α → List α) (roots sortedRoots : List α) :
    Prop where
  forest : IsForest parent nodes
  grounded : ∀ id, Grounded parent id
  mem_siblings : ∀ x y, y ∈ siblings x ↔ y ∈ children x
  mem_sortedRoots : ∀ y, y ∈ sortedRoots ↔ y ∈ roots
  parent_child : ∀ x, ∀ y ∈ children x, parent (idOf y) = some (idOf x)
  parent_root : ∀ y ∈ roots, parent (idOf y) = context
  child_node : ∀ x, ∀ y ∈ children x, idOf y ∈ nodes
  root_node : ∀ y ∈ roots, idOf y ∈ nodes
  nodup_siblings : ∀ x, ((siblings x).map idOf).Nodup
  nodup_roots : (sortedRoots.map idOf).Nodup

namespace SortedForest
variable {children siblings : α → List α} {roots sortedRoots : List α} {firstDepth maxDepth : ℕ}

omit [DecidableEq Id] in
theorem parent_sibling
    (h : SortedForest idOf parent nodes context children siblings roots sortedRoots) :
    ∀ x, ∀ y ∈ siblings x, parent (idOf y) = some (idOf x) := by
  intro x y hy
  exact h.parent_child x y ((h.mem_siblings x y).1 hy)

omit [DecidableEq Id] in
theorem parent_sortedRoot
    (h : SortedForest idOf parent nodes context children siblings roots sortedRoots) :
    ∀ y ∈ sortedRoots, parent (idOf y) = context := by
  intro y hy
  exact h.parent_root y ((h.mem_sortedRoots y).1 hy)

omit [DecidableEq Id] in
theorem mem_nodes
    (h : SortedForest idOf parent nodes context children siblings roots sortedRoots)
    {row : ℕ × α} (hrow : row ∈ preorder siblings sortedRoots firstDepth maxDepth) :
    idOf row.2 ∈ nodes := by
  obtain ⟨d, y⟩ := row
  obtain ⟨-, n, -, root, hroot, hsteps⟩ := mem_preorder.1 hrow
  have hmem : ∀ {n x z}, Steps siblings n x z → idOf x ∈ nodes → idOf z ∈ nodes := by
    intro n x z hsteps
    induction hsteps with
    | refl x => exact id
    | down hchild _ ih =>
      intro _
      exact ih (h.child_node _ _ ((h.mem_siblings _ _).1 hchild))
  exact hmem hsteps (h.root_node root ((h.mem_sortedRoots root).1 hroot))

omit [DecidableEq Id] in
theorem mem_matched
    (h : SortedForest idOf parent nodes context children siblings roots sortedRoots)
    {row : ℕ × α} :
    row ∈ preorder (fun x => (children x).reverse) roots.reverse firstDepth maxDepth ↔
      row ∈ preorder siblings sortedRoots firstDepth maxDepth := by
  apply mem_preorder_congr
  · intro x y
    rw [List.mem_reverse, h.mem_siblings]
  · intro y
    rw [List.mem_reverse, h.mem_sortedRoots]

omit [DecidableEq Id] in
theorem not_above
    (h : SortedForest idOf parent nodes context children siblings roots sortedRoots)
    {row : ℕ × α} (hrow : row ∈ preorder siblings sortedRoots firstDepth maxDepth) :
    ∀ c, context = some c → ¬ Below parent c (idOf row.2) := by
  intro c hc
  refine (below_of_mem_preorder h.parent_sibling h.grounded ?_ hrow).2
  intro y hy
  rw [h.parent_sortedRoot y hy, hc]

theorem contextualMatches_spec
    (h : SortedForest idOf parent nodes context children siblings roots sortedRoots)
    {fuel : ℕ} (hcard : nodes.card ≤ fuel)
    (hfuel : (preorder (fun x => (children x).reverse) roots.reverse firstDepth
      maxDepth).length ≤ fuel) (isMatch : α → Bool) :
    ∃ included, contextualMatches fuel idOf parent context children roots firstDepth maxDepth
        isMatch = some included ∧
      ∀ row ∈ preorder siblings sortedRoots firstDepth maxDepth, idOf row.2 ∈ included ↔
        ∃ other ∈ preorder siblings sortedRoots firstDepth maxDepth,
          isMatch other.2 = true ∧ Below parent (idOf other.2) (idOf row.2) := by
  unfold contextualMatches
  by_cases hdepth : firstDepth > maxDepth
  · rw [if_pos hdepth]
    refine ⟨[], rfl, ?_⟩
    intro row hrow
    unfold preorder at hrow
    rw [if_neg (Nat.not_le.2 hdepth)] at hrow
    exact absurd hrow List.not_mem_nil
  · have hle := Nat.le_of_not_lt hdepth
    obtain ⟨included, hfold, hfrom, hto⟩ := foldlM_addMatch context h.forest hcard
      isMatch (fun row hrow => h.mem_nodes (h.mem_matched.1 hrow)) []
    refine ⟨included, ?_, ?_⟩
    · rw [if_neg hdepth, walk_eq_foldlM, stackRows_roots hle]
      · exact hfold
      · intro row hrow
        obtain ⟨x, -, rfl⟩ := List.mem_map.1 hrow
        exact hle
      · rw [stackRows_roots hle]
        exact hfuel
    · intro row hrow
      constructor
      · intro hmem
        rcases hfrom _ hmem with hnil | ⟨other, hother, hmatch, hbelow⟩
        · exact absurd hnil List.not_mem_nil
        · exact ⟨other, h.mem_matched.1 hother, hmatch, hbelow⟩
      · intro hmatched
        obtain ⟨other, hother, hmatch, hbelow⟩ := hmatched
        exact hto _ (Or.inr ⟨other, h.mem_matched.2 hother, hmatch, hbelow, h.not_above hrow⟩)

omit [DecidableEq Id] in
theorem parent_shown
    (h : SortedForest idOf parent nodes context children siblings roots sortedRoots)
    (isMatch : Option (α → Bool)) {limit : ℕ} {before after : List (ℕ × α)} {row : ℕ × α}
    (hrows : (retained idOf parent isMatch
      (preorder siblings sortedRoots firstDepth maxDepth)).take limit = before ++ row :: after) :
    parent (idOf row.2) = context ∨
      ∃ above ∈ before, parent (idOf row.2) = some (idOf above.2) ∧ above.1 + 1 = row.1 := by
  classical
  unfold retained at hrows
  obtain ⟨front, back, htree, hkept, rfl⟩ := filter_take_eq_append_cons hrows
  obtain ⟨d, y⟩ := row
  rcases preorder_parent htree with ⟨-, hroot⟩ | ⟨p, hp, hd, hfront⟩
  · exact Or.inl (h.parent_sortedRoot y hroot)
  · right
    have hparent := h.parent_sibling p y hp
    refine ⟨(d - 1, p), ?_, hparent, Nat.succ_pred_eq_of_ne_zero hd⟩
    -- what matches below the row matches below its parent
    rw [List.mem_filter, decide_eq_true_iff]
    refine ⟨hfront, ?_⟩
    intro test htest
    obtain ⟨other, hother, hmatch, hbelow⟩ := of_decide_eq_true hkept test htest
    exact ⟨other, hother, hmatch, hbelow.trans (.single hparent)⟩

theorem collectRows_spec
    (h : SortedForest idOf parent nodes context children siblings roots sortedRoots)
    (isMatch : Option (α → Bool)) {fuel : ℕ}
    (hfuel : (preorder siblings sortedRoots firstDepth maxDepth).length ≤ fuel)
    {included : Option (List Id)}
    (hincluded : ∀ row ∈ preorder siblings sortedRoots firstDepth maxDepth,
      included.all (idOf row.2 ∈ ·) = true ↔ ∀ test ∈ isMatch,
        ∃ other ∈ preorder siblings sortedRoots firstDepth maxDepth,
          test other.2 = true ∧ Below parent (idOf other.2) (idOf row.2)) (limit : ℕ) :
    ∃ found, collectRows fuel idOf siblings sortedRoots firstDepth maxDepth limit included =
        some found ∧
      BoundedPrefix idOf parent context isMatch
        (preorder siblings sortedRoots firstDepth maxDepth) limit found := by
  classical
  -- the rows that are included are those that the filter retains
  have hfilter : (preorder siblings sortedRoots firstDepth maxDepth).filter
      (fun row => included.all (idOf row.2 ∈ ·)) =
      retained idOf parent isMatch (preorder siblings sortedRoots firstDepth maxDepth) := by
    unfold retained
    apply List.filter_congr
    intro row hrow
    rw [Bool.eq_iff_iff, decide_eq_true_iff]
    exact hincluded row hrow
  have hdistinct : ((preorder siblings sortedRoots firstDepth maxDepth).map
      fun row => idOf row.2).Nodup :=
    nodup_preorder h.parent_sibling h.grounded h.nodup_siblings h.parent_sortedRoot h.nodup_roots
  refine ⟨((retained idOf parent isMatch (preorder siblings sortedRoots firstDepth
    maxDepth)).length, (retained idOf parent isMatch (preorder siblings sortedRoots firstDepth
    maxDepth)).take limit), ?_, rfl, rfl, hdistinct, fun _ _ _ => h.parent_shown isMatch⟩
  unfold collectRows
  by_cases hdepth : firstDepth > maxDepth
  · have hempty : preorder siblings sortedRoots firstDepth maxDepth = [] :=
      if_neg (Nat.not_le.2 hdepth)
    have hnone : retained idOf parent isMatch [] = [] := List.filter_nil
    rw [if_pos hdepth, hempty, hnone, List.take_nil]
    rfl
  · have hle := Nat.le_of_not_lt hdepth
    have hnone : ([] : List (ℕ × α)).length ≤ limit := Nat.zero_le limit
    rw [if_neg hdepth, walk_eq_foldlM, stackRows_roots hle]
    · rw [show (fun found row => some (addRow idOf limit included found row)) =
        fun found row => (pure (addRow idOf limit included found row) : Option _) from rfl,
        List.foldlM_pure, foldl_addRow included hnone, hfilter, List.nil_append, Nat.zero_add]
      rfl
    · intro row hrow
      obtain ⟨x, -, rfl⟩ := List.mem_map.1 hrow
      exact hle
    · rw [stackRows_roots hle]
      exact hfuel

end SortedForest

end Generic

end DeltaFunnel
