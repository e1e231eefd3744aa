import Mathlib.Data.Finset.Card
import Mathlib.Data.Set.Insert
import Mathlib.Logic.Relation

/-! Depth-first traversal of a graph given by edges, with a set of visited keys and a state
that every first visit updates. -/

namespace Graph

variable {E K S ε : Type}

/-- How a traversal reads an edge: an edge without a key is a leaf and is never visited. -/
structure Traversal (E K S ε : Type) where
  key : E → Option K
  leaf : E → S → S
  /-- The state after entering the target of the edge, and the edges to follow from there. -/
  enter : E → S → Except ε (S × List E)

namespace Traversal
variable (T : Traversal E K S ε)

section Algorithm
variable [DecidableEq K]

/-- Follows the edges in order; `descend` follows the edges of a target entered on the way. -/
def visitAll (descend : List E → List K × S → Option (Except ε (List K × S))) :
    List E → List K × S → Option (Except ε (List K × S))
  | [], found => some (.ok found)
  | e :: es, (visited, s) =>
    match T.key e with
    | none => visitAll descend es (visited, T.leaf e s)
    | some k =>
      if k ∈ visited then visitAll descend es (visited, s)
      else
        match T.enter e s with
        | .error error => some (.error error)
        | .ok (s', children) =>
          match descend children (k :: visited, s') with
          | none => none
          | some (.error error) => some (.error error)
          | some (.ok found) => visitAll descend es found

/-- `none` once more than `fuel` targets are nested. -/
def visit : ℕ → List E → List K × S → Option (Except ε (List K × S))
  | 0 => visitAll T fun _ _ => none
  | fuel + 1 => visitAll T (visit fuel)

end Algorithm

section Correctness

/-- The target `b` is behind one of the edges of `a`. -/
def Edge (children : K → List E) (a b : K) : Prop := ∃ e ∈ children a, T.key e = some b

/-- A finite part of the graph that the traversal cannot leave: it can be entered everywhere,
and its edges lead back into it. -/
structure Closed (known : Finset K) (children : K → List E) (P : List K → S → Prop) : Prop where
  enter : ∀ e s k, T.key e = some k → k ∈ known →
    ∃ s', T.enter e s = .ok (s', children k) ∧ ∀ visited, P visited s → P (k :: visited) s'
  leaf : ∀ e s visited, T.key e = none → P visited s → P visited (T.leaf e s)
  children : ∀ k ∈ known, ∀ e ∈ children k, ∀ k', T.key e = some k' → k' ∈ known

/-- What following some edges adds to the visited keys. -/
structure Found (children : K → List E) (es : List E) (visited visited' : List K) : Prop where
  mono : visited ⊆ visited'
  targets : ∀ e ∈ es, ∀ k, T.key e = some k → k ∈ visited'
  closed : ∀ k ∈ visited', k ∉ visited → ∀ k', T.Edge children k k' → k' ∈ visited'
  reached : ∀ k ∈ visited', k ∈ visited ∨
    ∃ e ∈ es, ∃ k₀, T.key e = some k₀ ∧ Relation.ReflTransGen (T.Edge children) k₀ k

variable {T} {known : Finset K} {children : K → List E} {P : List K → S → Prop}

theorem Found.skip {e : E} {es : List E} {visited visited' : List K}
    (h : T.Found children es visited visited') (he : ∀ k, T.key e = some k → k ∈ visited) :
    T.Found children (e :: es) visited visited' where
  mono := h.mono
  targets := by
    intro e' he' k hk
    rcases List.mem_cons.1 he' with rfl | he'
    · exact h.mono (he k hk)
    · exact h.targets e' he' k hk
  closed := h.closed
  reached := by
    intro k hk
    rcases h.reached k hk with hold | ⟨e', he', k₀, hk₀, hreach⟩
    · exact .inl hold
    · exact .inr ⟨e', List.mem_cons_of_mem _ he', k₀, hk₀, hreach⟩

theorem Found.descend {e : E} {es : List E} {k : K} {visited inner visited' : List K}
    (hkey : T.key e = some k) (hinner : T.Found children (children k) (k :: visited) inner)
    (hrest : T.Found children es inner visited') :
    T.Found children (e :: es) visited visited' where
  mono := fun k' hk' => hrest.mono (hinner.mono (List.mem_cons_of_mem _ hk'))
  targets := by
    intro e' he' k' hk'
    rcases List.mem_cons.1 he' with rfl | he'
    · have heq : k' = k := Option.some.inj (hk'.symm.trans hkey)
      rw [heq]
      exact hrest.mono (hinner.mono (List.mem_cons_self ..))
    · exact hrest.targets e' he' k' hk'
  closed := by
    intro k' hk' hnew k'' hedge
    by_cases hin : k' ∈ inner
    · by_cases hk : k' = k
      · subst hk
        obtain ⟨e', he', hk''⟩ := hedge
        exact hrest.mono (hinner.targets e' he' k'' hk'')
      · have hnot : k' ∉ k :: visited := by simp [hk, hnew]
        exact hrest.mono (hinner.closed k' hin hnot k'' hedge)
    · exact hrest.closed k' hk' hin k'' hedge
  reached := by
    intro k' hk'
    rcases hrest.reached k' hk' with hin | ⟨e', he', k₀, hk₀, hreach⟩
    · rcases hinner.reached k' hin with hold | ⟨e', he', k₀, hk₀, hreach⟩
      · rcases List.mem_cons.1 hold with rfl | hold
        · exact .inr ⟨e, List.mem_cons_self .., k', hkey, .refl⟩
        · exact .inl hold
      · refine .inr ⟨e, List.mem_cons_self .., k, hkey, ?_⟩
        exact Relation.ReflTransGen.head ⟨e', he', hk₀⟩ hreach
    · exact .inr ⟨e', List.mem_cons_of_mem _ he', k₀, hk₀, hreach⟩

theorem Found.mem_iff {es : List E} {visited' : List K} (h : T.Found children es [] visited')
    {k : K} :
    k ∈ visited' ↔ ∃ e ∈ es, ∃ k₀, T.key e = some k₀ ∧
      Relation.ReflTransGen (T.Edge children) k₀ k := by
  constructor
  · intro hk
    rcases h.reached k hk with hold | hreach
    · cases hold
    · exact hreach
  · rintro ⟨e, he, k₀, hk₀, hreach⟩
    induction hreach with
    | refl => exact h.targets e he k₀ hk₀
    | tail _ hedge ih => exact h.closed _ ih (List.not_mem_nil) _ hedge

variable [DecidableEq K]

theorem card_sdiff_cons_lt {visited : List K} {k : K} (hk : k ∈ known) (hnew : k ∉ visited) :
    (known \ (k :: visited).toFinset).card < (known \ visited.toFinset).card := by
  apply Finset.card_lt_card
  refine Finset.ssubset_iff_of_subset ?_ |>.2 ⟨k, by simp [hk, hnew], by simp⟩
  intro x hx
  simp only [Finset.mem_sdiff, List.mem_toFinset, List.mem_cons, not_or] at hx ⊢
  exact ⟨hx.1, hx.2.2⟩

theorem visitAll_found (hclosed : T.Closed known children P) {fuel : ℕ}
    {descend : List E → List K × S → Option (Except ε (List K × S))}
    (hdescend : ∀ k ∈ known, ∀ visited s, k ∉ visited →
      (known \ visited.toFinset).card ≤ fuel → P (k :: visited) s →
      ∃ visited' s', descend (children k) (k :: visited, s) = some (.ok (visited', s')) ∧
        T.Found children (children k) (k :: visited) visited' ∧ P visited' s')
    {es : List E} {visited : List K} {s : S} (hfuel : (known \ visited.toFinset).card ≤ fuel)
    (hes : ∀ e ∈ es, ∀ k, T.key e = some k → k ∈ known) (hP : P visited s) :
    ∃ visited' s', T.visitAll descend es (visited, s) = some (.ok (visited', s')) ∧
      T.Found children es visited visited' ∧ P visited' s' := by
  induction es generalizing visited s with
  | nil =>
    refine ⟨visited, s, rfl, ⟨fun _ hk => hk, by simp, ?_, fun _ hk => .inl hk⟩, hP⟩
    intro k hk hnew
    exact absurd hk hnew
  | cons e es ih =>
    have hes' : ∀ e' ∈ es, ∀ k, T.key e' = some k → k ∈ known :=
      fun e' he' => hes e' (List.mem_cons_of_mem _ he')
    unfold visitAll
    rcases hkey : T.key e with _ | k
    · obtain ⟨visited', s', hrun, hfound, hP'⟩ := ih hfuel hes' (hclosed.leaf e s visited hkey hP)
      refine ⟨visited', s', hrun, hfound.skip ?_, hP'⟩
      intro k hk
      rw [hkey] at hk
      cases hk
    · by_cases hk : k ∈ visited
      · obtain ⟨visited', s', hrun, hfound, hP'⟩ := ih hfuel hes' hP
        refine ⟨visited', s', by simp only [if_pos hk, hrun], hfound.skip ?_, hP'⟩
        intro k' hk'
        rw [hkey] at hk'
        rwa [← Option.some.inj hk']
      · have hknown := hes e (List.mem_cons_self ..) k hkey
        obtain ⟨entered, henter, hkeep⟩ := hclosed.enter e s k hkey hknown
        obtain ⟨inner, s₁, hinnerRun, hinner, hP₁⟩ :=
          hdescend k hknown visited entered hk hfuel (hkeep visited hP)
        have hrestFuel : (known \ inner.toFinset).card ≤ fuel := by
          refine le_trans (Finset.card_le_card (Finset.sdiff_subset_sdiff le_rfl ?_)) hfuel
          intro x hx
          rw [List.mem_toFinset] at hx ⊢
          exact hinner.mono (List.mem_cons_of_mem _ hx)
        obtain ⟨visited', s', hrun, hfound, hP'⟩ := ih hrestFuel hes' hP₁
        refine ⟨visited', s', ?_, hinner.descend hkey hfound, hP'⟩
        simp only [if_neg hk, henter, hinnerRun, hrun]

/-- With fuel for the keys not yet visited, a traversal of a closed part of the graph succeeds. -/
theorem visit_found (hclosed : T.Closed known children P) {fuel : ℕ} {es : List E}
    {visited : List K} {s : S} (hfuel : (known \ visited.toFinset).card ≤ fuel)
    (hes : ∀ e ∈ es, ∀ k, T.key e = some k → k ∈ known) (hP : P visited s) :
    ∃ visited' s', T.visit fuel es (visited, s) = some (.ok (visited', s')) ∧
      T.Found children es visited visited' ∧ P visited' s' := by
  induction fuel generalizing es visited s with
  | zero =>
    refine visitAll_found hclosed ?_ hfuel hes hP
    intro k hk visited s hnew hcard
    have hlt := card_sdiff_cons_lt hk hnew
    omega
  | succ fuel ih =>
    refine visitAll_found hclosed ?_ hfuel hes hP
    intro k hk visited s hnew hcard hP
    have hlt := card_sdiff_cons_lt hk hnew
    exact ih (by omega) (hclosed.children k hk) hP

/-- A part of the state that collects the leaves and that entering a target leaves alone. -/
structure Collects {L : Type} (T : Traversal E K S ε) (leafOf : E → L) (view : S → Set L) :
    Prop where
  leaf : ∀ e s, T.key e = none → view (T.leaf e s) = insert (leafOf e) (view s)
  enter : ∀ e s s' es, T.enter e s = .ok (s', es) → view s' = view s

/-- The leaves among some edges and behind the keys visited since. -/
def leaves {L : Type} (T : Traversal E K S ε) (leafOf : E → L) (children : K → List E)
    (es : List E) (visited visited' : List K) : Set L :=
  {l | ∃ e, T.key e = none ∧ leafOf e = l ∧
    (e ∈ es ∨ ∃ k ∈ visited', k ∉ visited ∧ e ∈ children k)}

omit [DecidableEq K] in
theorem leaves_skip {L : Type} {leafOf : E → L} {e : E} {es : List E} {visited visited' : List K}
    {k : K} (hkey : T.key e = some k) :
    T.leaves leafOf children (e :: es) visited visited' =
      T.leaves leafOf children es visited visited' := by
  ext l
  constructor
  · rintro ⟨e', hleaf, hl, he' | hvisited⟩
    · rcases List.mem_cons.1 he' with rfl | he'
      · rw [hkey] at hleaf
        cases hleaf
      · exact ⟨e', hleaf, hl, .inl he'⟩
    · exact ⟨e', hleaf, hl, .inr hvisited⟩
  · rintro ⟨e', hleaf, hl, he' | hvisited⟩
    · exact ⟨e', hleaf, hl, .inl (List.mem_cons_of_mem _ he')⟩
    · exact ⟨e', hleaf, hl, .inr hvisited⟩

omit [DecidableEq K] in
theorem leaves_leaf {L : Type} {leafOf : E → L} {e : E} {es : List E} {visited visited' : List K}
    (hkey : T.key e = none) :
    T.leaves leafOf children (e :: es) visited visited' =
      insert (leafOf e) (T.leaves leafOf children es visited visited') := by
  ext l
  constructor
  · rintro ⟨e', hleaf, hl, he' | hvisited⟩
    · rcases List.mem_cons.1 he' with rfl | he'
      · exact .inl hl.symm
      · exact .inr ⟨e', hleaf, hl, .inl he'⟩
    · exact .inr ⟨e', hleaf, hl, .inr hvisited⟩
  · rintro (rfl | ⟨e', hleaf, hl, he' | hvisited⟩)
    · exact ⟨e, hkey, rfl, .inl (List.mem_cons_self ..)⟩
    · exact ⟨e', hleaf, hl, .inl (List.mem_cons_of_mem _ he')⟩
    · exact ⟨e', hleaf, hl, .inr hvisited⟩

theorem leaves_descend {L : Type} {leafOf : E → L} {es : List E} {k : K}
    {visited inner visited' : List K} (hnew : k ∉ visited) (hinner : k :: visited ⊆ inner)
    (hrest : inner ⊆ visited') :
    T.leaves leafOf children (children k) (k :: visited) inner ∪
        T.leaves leafOf children es inner visited' =
      T.leaves leafOf children es visited visited' := by
  have hk : k ∈ inner := hinner (List.mem_cons_self ..)
  ext l
  constructor
  · rintro (⟨e, hleaf, hl, he | ⟨k', hk', hout, he⟩⟩ | ⟨e, hleaf, hl, he | ⟨k', hk', hout, he⟩⟩)
    · exact ⟨e, hleaf, hl, .inr ⟨k, hrest hk, hnew, he⟩⟩
    · exact ⟨e, hleaf, hl, .inr ⟨k', hrest hk', fun h => hout (List.mem_cons_of_mem _ h), he⟩⟩
    · exact ⟨e, hleaf, hl, .inl he⟩
    · exact ⟨e, hleaf, hl, .inr ⟨k', hk', fun h => hout (hinner (List.mem_cons_of_mem _ h)), he⟩⟩
  · rintro ⟨e, hleaf, hl, he | ⟨k', hk', hout, he⟩⟩
    · exact .inr ⟨e, hleaf, hl, .inl he⟩
    · by_cases hin : k' ∈ inner
      · by_cases heq : k' = k
        · subst heq
          exact .inl ⟨e, hleaf, hl, .inl he⟩
        · refine .inl ⟨e, hleaf, hl, .inr ⟨k', hin, fun h => ?_, he⟩⟩
          rcases List.mem_cons.1 h with h | h
          · exact heq h
          · exact hout h
      · exact .inr ⟨e, hleaf, hl, .inr ⟨k', hk', hin, he⟩⟩

theorem visitAll_leaves {L : Type} {leafOf : E → L} {view : S → Set L}
    (hclosed : T.Closed known children P) (hview : T.Collects leafOf view)
    {descend : List E → List K × S → Option (Except ε (List K × S))}
    (hdescend : ∀ k ∈ known, ∀ visited s visited' s',
      descend (children k) (k :: visited, s) = some (.ok (visited', s')) →
      k :: visited ⊆ visited' ∧
        view s' = view s ∪ T.leaves leafOf children (children k) (k :: visited) visited')
    {es : List E} {visited visited' : List K} {s s' : S}
    (hes : ∀ e ∈ es, ∀ k, T.key e = some k → k ∈ known)
    (hrun : T.visitAll descend es (visited, s) = some (.ok (visited', s'))) :
    visited ⊆ visited' ∧ view s' = view s ∪ T.leaves leafOf children es visited visited' := by
  -- over the edges of one node; the hypothesis on the descent covers those below
  induction es generalizing visited s with
  | nil =>
    obtain ⟨rfl, rfl⟩ := Prod.mk.inj (Except.ok.inj (Option.some.inj hrun))
    refine ⟨fun _ hk => hk, ?_⟩
    have hnone : T.leaves leafOf children [] visited visited = ∅ := by
      apply Set.eq_empty_of_forall_notMem
      rintro l ⟨e, -, -, he | ⟨k, hk, hout, -⟩⟩
      · cases he
      · exact hout hk
    rw [hnone, Set.union_empty]
  | cons e es ih =>
    have hes' : ∀ e' ∈ es, ∀ k, T.key e' = some k → k ∈ known :=
      fun e' he' => hes e' (List.mem_cons_of_mem _ he')
    unfold visitAll at hrun
    rcases hkey : T.key e with _ | k
    · rw [hkey] at hrun
      obtain ⟨hmono, hsets⟩ := ih hes' hrun
      refine ⟨hmono, ?_⟩
      rw [hsets, hview.leaf e s hkey, leaves_leaf hkey, Set.insert_union, Set.union_insert]
    · rw [hkey] at hrun
      dsimp only at hrun
      split at hrun
      · obtain ⟨hmono, hsets⟩ := ih hes' hrun
        rw [leaves_skip hkey]
        exact ⟨hmono, hsets⟩
      · next hnew =>
        have hknown := hes e (List.mem_cons_self ..) k hkey
        obtain ⟨entered, henter, -⟩ := hclosed.enter e s k hkey hknown
        rw [henter] at hrun
        dsimp only at hrun
        split at hrun
        · cases hrun
        · cases hrun
        · next found hinner =>
          obtain ⟨inner, s₁⟩ := found
          obtain ⟨hinnerMono, hinnerSets⟩ := hdescend k hknown visited entered inner s₁ hinner
          obtain ⟨hmono, hsets⟩ := ih hes' hrun
          refine ⟨fun _ hx => hmono (hinnerMono (List.mem_cons_of_mem _ hx)), ?_⟩
          rw [hsets, hinnerSets, hview.enter e s entered _ henter, leaves_skip hkey,
            Set.union_assoc, leaves_descend hnew hinnerMono hmono]

theorem visit_leaves {L : Type} {leafOf : E → L} {view : S → Set L}
    (hclosed : T.Closed known children P) (hview : T.Collects leafOf view) {fuel : ℕ} {es : List E}
    {visited visited' : List K} {s s' : S} (hes : ∀ e ∈ es, ∀ k, T.key e = some k → k ∈ known)
    (hrun : T.visit fuel es (visited, s) = some (.ok (visited', s'))) :
    visited ⊆ visited' ∧ view s' = view s ∪ T.leaves leafOf children es visited visited' := by
  induction fuel generalizing es visited s visited' s' with
  | zero =>
    refine visitAll_leaves hclosed hview ?_ hes hrun
    intro k _ visited s visited' s' hnone
    cases hnone
  | succ fuel ih =>
    refine visitAll_leaves hclosed hview ?_ hes hrun
    exact fun k hk visited s visited' s' hinner => ih (hclosed.children k hk) hinner

end Correctness
end Traversal
end Graph
