import DeltaFunnel.Graph.Forest

/-! Walking a stack of nodes, and the preorder of a bounded depth that it visits. -/

namespace Graph

/-- Pops the first node, visits it and puts the nodes that follow it on the stack, until the stack
is empty; `none` when a visit fails or more than `fuel` nodes are popped. -/
def walk {α σ : Type} (visit : σ → α → Option σ) (next : α → List α) :
    ℕ → List α → σ → Option σ
  | _, [], state => some state
  | 0, _ :: _, _ => none
  | fuel + 1, x :: stack, state =>
    (visit state x).bind (walk visit next fuel (next x ++ stack))

/-- The children of a node of some depth, unless they would be too deep. -/
def pushChildren {α : Type} (children : α → List α) (maxDepth : ℕ) (row : ℕ × α) :
    List (ℕ × α) :=
  if row.1 < maxDepth then (children row.2).map (row.1 + 1, ·) else []

/-- A node of a depth and what is below it, `levels` deep. -/
def descend {α : Type} (children : α → List α) : ℕ → ℕ → α → List (ℕ × α)
  | 0, depth, x => [(depth, x)]
  | levels + 1, depth, x =>
    (depth, x) :: (children x).flatMap (descend children levels (depth + 1))

/-- The nodes below the roots in preorder, down to a depth. -/
def preorder {α : Type} (children : α → List α) (roots : List α) (firstDepth maxDepth : ℕ) :
    List (ℕ × α) :=
  if firstDepth ≤ maxDepth then
    roots.flatMap (descend children (maxDepth - firstDepth) firstDepth)
  else []

section Walk
variable {α σ : Type} {children : α → List α} {maxDepth : ℕ}

def stackRows (children : α → List α) (maxDepth : ℕ) (stack : List (ℕ × α)) : List (ℕ × α) :=
  stack.flatMap fun row => descend children (maxDepth - row.1) row.1 row.2

theorem stackRows_cons {row : ℕ × α} (hdepth : row.1 ≤ maxDepth) (stack : List (ℕ × α)) :
    stackRows children maxDepth (row :: stack) =
      row :: stackRows children maxDepth (pushChildren children maxDepth row ++ stack) := by
  unfold stackRows pushChildren
  rw [List.flatMap_cons, List.flatMap_append]
  by_cases hlt : row.1 < maxDepth
  · have hlevels : maxDepth - row.1 = (maxDepth - (row.1 + 1)) + 1 := by omega
    rw [if_pos hlt, List.flatMap_map, hlevels, descend]
    rfl
  · have hlevels : maxDepth - row.1 = 0 := by omega
    rw [if_neg hlt, hlevels]
    rfl

/-- With fuel for the nodes, a walk visits them in preorder. -/
theorem walk_eq_foldlM (visit : σ → ℕ × α → Option σ) {stack : List (ℕ × α)}
    (hdepth : ∀ row ∈ stack, row.1 ≤ maxDepth) {fuel : ℕ}
    (hfuel : (stackRows children maxDepth stack).length ≤ fuel) (state : σ) :
    walk visit (pushChildren children maxDepth) fuel stack state =
      (stackRows children maxDepth stack).foldlM visit state := by
  induction fuel generalizing stack state with
  | zero =>
    cases stack with
    | nil => rfl
    | cons row stack =>
      rw [stackRows_cons (hdepth row List.mem_cons_self)] at hfuel
      exact absurd hfuel (Nat.not_succ_le_zero _)
  | succ fuel ih =>
    cases stack with
    | nil => rfl
    | cons row stack =>
      have hrow := hdepth row List.mem_cons_self
      rw [stackRows_cons hrow] at hfuel ⊢
      rw [walk, List.foldlM_cons]
      refine congrArg (Option.bind (visit state row)) ?_
      funext next
      apply ih
      · intro other hother
        rcases List.mem_append.1 hother with hchild | hrest
        · unfold pushChildren at hchild
          split at hchild
          · next hlt =>
            obtain ⟨child, -, rfl⟩ := List.mem_map.1 hchild
            exact hlt
          · exact absurd hchild List.not_mem_nil
        · exact hdepth other (List.mem_cons_of_mem row hrest)
      · exact Nat.le_of_succ_le_succ hfuel

theorem stackRows_roots {firstDepth : ℕ} (h : firstDepth ≤ maxDepth) (roots : List α) :
    stackRows children maxDepth (roots.map (firstDepth, ·)) =
      preorder children roots firstDepth maxDepth := by
  unfold stackRows preorder
  rw [if_pos h, List.flatMap_map]

end Walk

/-- `y` is reached from `x` in `n` steps to a child. -/
inductive Steps {α : Type} (children : α → List α) : ℕ → α → α → Prop
  | refl (x : α) : Steps children 0 x x
  | down {n : ℕ} {x y z : α} (hchild : y ∈ children x) (hsteps : Steps children n y z) :
      Steps children (n + 1) x z

section Members
variable {α : Type} {children : α → List α} {roots : List α} {firstDepth maxDepth : ℕ}

theorem mem_descend {levels depth d : ℕ} {x y : α} :
    (d, y) ∈ descend children levels depth x ↔
      ∃ n ≤ levels, d = depth + n ∧ Steps children n x y := by
  induction levels generalizing depth x with
  | zero =>
    unfold descend
    rw [List.mem_singleton, Prod.mk.injEq]
    constructor
    · intro h
      obtain ⟨rfl, rfl⟩ := h
      exact ⟨0, Nat.le_refl 0, rfl, .refl y⟩
    · intro h
      obtain ⟨n, hn, rfl, hsteps⟩ := h
      obtain rfl := Nat.le_zero.1 hn
      cases hsteps
      exact ⟨rfl, rfl⟩
  | succ levels ih =>
    rw [descend, List.mem_cons, List.mem_flatMap, Prod.mk.injEq]
    constructor
    · intro h
      rcases h with ⟨rfl, rfl⟩ | ⟨child, hchild, hmem⟩
      · exact ⟨0, Nat.zero_le _, rfl, .refl y⟩
      · obtain ⟨n, hn, rfl, hsteps⟩ := ih.1 hmem
        exact ⟨n + 1, Nat.succ_le_succ hn, by omega, .down hchild hsteps⟩
    · intro h
      obtain ⟨n, hn, rfl, hsteps⟩ := h
      cases hsteps with
      | refl => exact Or.inl ⟨rfl, rfl⟩
      | down hchild hsteps =>
        next n child =>
        refine Or.inr ⟨child, hchild, ih.2 ⟨n, Nat.le_of_succ_le_succ hn, by omega, hsteps⟩⟩

theorem mem_preorder {d : ℕ} {y : α} :
    (d, y) ∈ preorder children roots firstDepth maxDepth ↔
      d ≤ maxDepth ∧ ∃ n, d = firstDepth + n ∧ ∃ root ∈ roots, Steps children n root y := by
  unfold preorder
  split
  · rw [List.mem_flatMap]
    constructor
    · intro h
      obtain ⟨root, hroot, hmem⟩ := h
      obtain ⟨n, hn, rfl, hsteps⟩ := mem_descend.1 hmem
      exact ⟨by omega, n, rfl, root, hroot, hsteps⟩
    · intro h
      obtain ⟨hle, n, rfl, root, hroot, hsteps⟩ := h
      exact ⟨root, hroot, mem_descend.2 ⟨n, by omega, rfl, hsteps⟩⟩
  · constructor
    · exact fun h => absurd h List.not_mem_nil
    · intro h
      obtain ⟨hle, n, rfl, -⟩ := h
      omega

theorem Steps.congr {children' : α → List α} (h : ∀ x y, y ∈ children x ↔ y ∈ children' x)
    {n : ℕ} {x y : α} (hsteps : Steps children n x y) : Steps children' n x y := by
  induction hsteps with
  | refl x => exact .refl x
  | down hchild _ ih => exact .down ((h _ _).1 hchild) ih

theorem mem_preorder_congr {children' : α → List α} {roots' : List α}
    (hchildren : ∀ x y, y ∈ children x ↔ y ∈ children' x) (hroots : ∀ x, x ∈ roots ↔ x ∈ roots')
    {row : ℕ × α} : row ∈ preorder children roots firstDepth maxDepth ↔
      row ∈ preorder children' roots' firstDepth maxDepth := by
  obtain ⟨d, y⟩ := row
  rw [mem_preorder, mem_preorder]
  constructor
  · intro h
    obtain ⟨hle, n, hd, root, hroot, hsteps⟩ := h
    exact ⟨hle, n, hd, root, (hroots root).1 hroot, hsteps.congr hchildren⟩
  · intro h
    obtain ⟨hle, n, hd, root, hroot, hsteps⟩ := h
    exact ⟨hle, n, hd, root, (hroots root).2 hroot,
      hsteps.congr fun x y => (hchildren x y).symm⟩

theorem flatMap_eq_append_cons {β : Type} {f : α → List β} {xs : List α} {before after : List β}
    {z : β} (h : xs.flatMap f = before ++ z :: after) :
    ∃ x ∈ xs, ∃ skipped inner rest, f x = inner ++ z :: rest ∧ before = skipped ++ inner := by
  induction xs generalizing before with
  | nil => exact absurd h.symm (List.append_ne_nil_of_right_ne_nil before (List.cons_ne_nil z after))
  | cons x xs ih =>
    rw [List.flatMap_cons] at h
    rcases List.append_eq_append_iff.1 h with ⟨more, hbefore, hrest⟩ | ⟨more, hfirst, hrest⟩
    · obtain ⟨y, hy, skipped, inner, rest, hfy, rfl⟩ := ih hrest
      refine ⟨y, List.mem_cons_of_mem x hy, f x ++ skipped, inner, rest, hfy, ?_⟩
      rw [hbefore, List.append_assoc]
    · cases more with
      | nil =>
        have hrest' : xs.flatMap f = [] ++ z :: after := hrest.symm
        obtain ⟨y, hy, skipped, inner, rest, hfy, hnil⟩ := ih hrest'
        refine ⟨y, List.mem_cons_of_mem x hy, f x ++ skipped, inner, rest, hfy, ?_⟩
        rw [List.append_assoc, ← hnil, hfirst, List.append_nil, List.append_nil]
      | cons w more =>
        obtain ⟨rfl, -⟩ := List.cons.inj hrest
        exact ⟨x, List.mem_cons_self, [], before, more, hfirst, rfl⟩

theorem descend_parent {levels depth d : ℕ} {x y : α} {before after : List (ℕ × α)}
    (h : descend children levels depth x = before ++ (d, y) :: after) :
    d = depth ∧ y = x ∨ ∃ p, y ∈ children p ∧ d ≠ 0 ∧ (d - 1, p) ∈ before := by
  induction levels generalizing depth x before after with
  | zero =>
    have hmem : (d, y) ∈ descend children 0 depth x := by
      rw [h]
      exact List.mem_append_right _ List.mem_cons_self
    obtain ⟨rfl, rfl⟩ := Prod.mk.inj (List.mem_singleton.1 hmem)
    exact Or.inl ⟨rfl, rfl⟩
  | succ levels ih =>
    rw [descend] at h
    cases before with
    | nil =>
      obtain ⟨hhead, -⟩ := List.cons.inj h
      obtain ⟨rfl, rfl⟩ := Prod.mk.inj hhead
      exact Or.inl ⟨rfl, rfl⟩
    | cons first before =>
      obtain ⟨rfl, hrest⟩ := List.cons.inj h
      right
      obtain ⟨child, hchild, skipped, inner, rest, hinner, rfl⟩ := flatMap_eq_append_cons hrest
      rcases ih hinner with ⟨rfl, rfl⟩ | ⟨p, hp, hd, hmem⟩
      · exact ⟨x, hchild, by omega, List.mem_cons_self⟩
      · exact ⟨p, hp, hd, List.mem_cons_of_mem _ (List.mem_append_right skipped hmem)⟩

theorem preorder_parent {d : ℕ} {y : α} {before after : List (ℕ × α)}
    (h : preorder children roots firstDepth maxDepth = before ++ (d, y) :: after) :
    d = firstDepth ∧ y ∈ roots ∨ ∃ p, y ∈ children p ∧ d ≠ 0 ∧ (d - 1, p) ∈ before := by
  unfold preorder at h
  split at h
  · obtain ⟨root, hroot, skipped, inner, rest, hinner, rfl⟩ := flatMap_eq_append_cons h
    rcases descend_parent hinner with ⟨rfl, rfl⟩ | ⟨p, hp, hd, hmem⟩
    · exact Or.inl ⟨rfl, hroot⟩
    · exact Or.inr ⟨p, hp, hd, List.mem_append_right skipped hmem⟩
  · exact absurd h.symm (List.append_ne_nil_of_right_ne_nil before (List.cons_ne_nil _ after))

end Members

theorem filter_take_eq_append_cons {β : Type} {p : β → Bool} {xs before after : List β} {z : β}
    {limit : ℕ} (h : (xs.filter p).take limit = before ++ z :: after) :
    ∃ front back, xs = front ++ z :: back ∧ p z = true ∧ before = front.filter p := by
  have hfilter : xs.filter p = before ++ z :: (after ++ (xs.filter p).drop limit) := by
    conv_lhs => rw [← List.take_append_drop limit (xs.filter p), h, List.append_assoc,
      List.cons_append]
  obtain ⟨front, rest, rfl, hfront, hrest⟩ := List.filter_eq_append_iff.1 hfilter
  obtain ⟨skipped, back, rfl, hskipped, hz, -⟩ := List.filter_eq_cons_iff.1 hrest
  refine ⟨front ++ skipped, back, (List.append_assoc _ _ _).symm, hz, ?_⟩
  rw [List.filter_append, hfront, List.filter_eq_nil_iff.2 hskipped, List.append_nil]

section Forest
variable {α Id : Type} {children : α → List α} {roots : List α} {idOf : α → Id}
  {parent : Id → Option Id} {firstDepth maxDepth : ℕ}

theorem Steps.climbs (hchildren : ∀ x, ∀ y ∈ children x, parent (idOf y) = some (idOf x))
    {n : ℕ} {x y : α} (h : Steps children n x y) : Below parent (idOf y) (idOf x) := by
  induction h with
  | refl x => exact .refl _
  | down hchild _ ih => exact ih.trans (.single (hchildren _ _ hchild))

theorem not_below_sibling (hgrounded : ∀ id, Grounded parent id) {a b : Id} (hne : a ≠ b)
    (hparent : parent a = parent b) : ¬ Below parent a b := by
  intro hbelow
  rcases below_iff.1 hbelow with rfl | ⟨c, hc, hrest⟩
  · exact hne rfl
  · exact (hgrounded b).not_below_parent (hparent ▸ hc) hrest

theorem nodup_flatMap_descend
    (hchildren : ∀ x, ∀ y ∈ children x, parent (idOf y) = some (idOf x))
    (hgrounded : ∀ id, Grounded parent id) (hnodup : ∀ x, ((children x).map idOf).Nodup)
    {above : Option Id} {xs : List α} (habove : ∀ x ∈ xs, parent (idOf x) = above)
    (hxs : (xs.map idOf).Nodup) (levels depth : ℕ) :
    ((xs.flatMap (descend children levels depth)).map fun row => idOf row.2).Nodup := by
  induction levels generalizing depth above xs with
  | zero =>
    have hblock : xs.flatMap (descend children 0 depth) = xs.map (depth, ·) :=
      List.map_eq_flatMap.symm
    rw [hblock, List.map_map]
    exact hxs
  | succ levels ih =>
    have hmem : ∀ x id, id ∈ (descend children (levels + 1) depth x).map
        (fun row => idOf row.2) → Below parent id (idOf x) := by
      intro x id hid
      obtain ⟨⟨d, y⟩, hy, rfl⟩ := List.mem_map.1 hid
      obtain ⟨n, -, -, hsteps⟩ := mem_descend.1 hy
      exact hsteps.climbs hchildren
    rw [List.map_flatMap, List.nodup_flatMap]
    constructor
    · intro x _
      rw [descend, List.map_cons, List.nodup_cons]
      refine ⟨?_, ih (hchildren x) (hnodup x) (depth + 1)⟩
      intro hbelow
      obtain ⟨⟨d, y⟩, hy, hid⟩ := List.mem_map.1 hbelow
      obtain ⟨child, hchild, hy⟩ := List.mem_flatMap.1 hy
      obtain ⟨n, -, -, hsteps⟩ := mem_descend.1 hy
      have hclimb := hsteps.climbs hchildren
      rw [show idOf y = idOf x from hid] at hclimb
      exact (hgrounded (idOf child)).not_below_parent (hchildren x child hchild) hclimb
    · have hdistinct : ∀ x ∈ xs, ∀ y ∈ xs, x ≠ y → idOf x ≠ idOf y := by
        intro x hx y hy hne hid
        exact hne (List.inj_on_of_nodup_map hxs hx hy hid)
      apply (List.Nodup.of_map idOf hxs).pairwise_of_forall_ne
      intro x hx y hy hne
      have hid := hdistinct x hx y hy hne
      have hparent : parent (idOf x) = parent (idOf y) := (habove x hx).trans (habove y hy).symm
      intro id hidx hidy
      -- a node below both would put one of the siblings below the other
      rcases (hmem x id hidx).comparable (hmem y id hidy) with hbelow | hbelow
      · exact not_below_sibling hgrounded hid hparent hbelow
      · exact not_below_sibling hgrounded hid.symm hparent.symm hbelow

theorem nodup_preorder
    (hchildren : ∀ x, ∀ y ∈ children x, parent (idOf y) = some (idOf x))
    (hgrounded : ∀ id, Grounded parent id) (hnodup : ∀ x, ((children x).map idOf).Nodup)
    {above : Option Id} (habove : ∀ x ∈ roots, parent (idOf x) = above)
    (hroots : (roots.map idOf).Nodup) :
    ((preorder children roots firstDepth maxDepth).map fun row => idOf row.2).Nodup := by
  unfold preorder
  split
  · exact nodup_flatMap_descend hchildren hgrounded hnodup habove hroots _ _
  · exact List.nodup_nil

/-- The nodes of a preorder are below the node that the roots are children of, and not that
node. -/
theorem below_of_mem_preorder
    (hchildren : ∀ x, ∀ y ∈ children x, parent (idOf y) = some (idOf x))
    (hgrounded : ∀ id, Grounded parent id) {context : Id}
    (hroots : ∀ x ∈ roots, parent (idOf x) = some context) {row : ℕ × α}
    (h : row ∈ preorder children roots firstDepth maxDepth) :
    Below parent (idOf row.2) context ∧ ¬ Below parent context (idOf row.2) := by
  obtain ⟨d, y⟩ := row
  obtain ⟨-, n, -, root, hroot, hsteps⟩ := mem_preorder.1 h
  have hclimb := hsteps.climbs hchildren
  refine ⟨hclimb.trans (.single (hroots root hroot)), ?_⟩
  intro hback
  exact (hgrounded (idOf root)).not_below_parent (hroots root hroot) (hback.trans hclimb)

end Forest

end Graph
