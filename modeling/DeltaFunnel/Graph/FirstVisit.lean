import DeltaFunnel.Graph.Traversal
import Mathlib.Data.List.Nodup

/-! The order in which a depth-first traversal enters the nodes of a graph with ordered
children, each with the node it was first entered from. -/

namespace Graph

variable {K : Type}

/-- The edges carry the node they come from. -/
def firstVisit (children : K → List K) :
    Traversal (K × Option K) K (List (K × Option K)) Empty where
  key e := some e.1
  leaf _ order := order
  enter e order := .ok (order ++ [e], (children e.1).map (·, some e.1))

/-- The nodes behind `root` in first-visit preorder, if there are at most `fuel` of them. -/
def firstVisits [DecidableEq K] (children : K → List K) (fuel : ℕ) (root : K) :
    List (K × Option K) :=
  match (firstVisit children).visit fuel [(root, none)] ([], []) with
  | some (.ok (_, order)) => order
  | some (.error _) => []
  | none => []

/-- Following some edges extends the first order to the second. -/
inductive FirstVisits (children : K → List K) :
    List (K × Option K) → List (K × Option K) → List (K × Option K) → Prop
  | nil (order : List (K × Option K)) : FirstVisits children [] order order
  | skip {k : K} {p : Option K} {es order order' : List (K × Option K)}
      (hseen : k ∈ order.map Prod.fst) (hrest : FirstVisits children es order order') :
      FirstVisits children ((k, p) :: es) order order'
  | descend {k : K} {p : Option K} {es order inner order' : List (K × Option K)}
      (hnew : k ∉ order.map Prod.fst)
      (hinner : FirstVisits children ((children k).map (·, some k)) (order ++ [(k, p)]) inner)
      (hrest : FirstVisits children es inner order') :
      FirstVisits children ((k, p) :: es) order order'

namespace FirstVisits

variable {children : K → List K} {es order order' : List (K × Option K)}

theorem prefix_order (h : FirstVisits children es order order') : order <+: order' := by
  induction h with
  | nil order => exact List.prefix_refl order
  | skip _ _ ih => exact ih
  | descend _ _ _ ihInner ihRest =>
    exact ((List.prefix_append _ _).trans ihInner).trans ihRest

theorem keys_subset (h : FirstVisits children es order order') :
    order.map Prod.fst ⊆ order'.map Prod.fst :=
  (h.prefix_order.map Prod.fst).subset

theorem nodup (h : FirstVisits children es order order') (hnodup : (order.map Prod.fst).Nodup) :
    (order'.map Prod.fst).Nodup := by
  induction h with
  | nil order => exact hnodup
  | skip _ _ ih => exact ih hnodup
  | @descend k p es order inner order' hnew hinner hrest ihInner ihRest =>
    apply ihRest
    apply ihInner
    rw [List.map_append, List.map_singleton]
    exact hnodup.append (List.nodup_singleton k) (List.disjoint_singleton.2 hnew)

theorem parents (h : FirstVisits children es order order')
    (hes : ∀ e ∈ es, ∀ q, e.2 = some q → q ∈ order.map Prod.fst ∧ e.1 ∈ children q)
    (horder : ∀ e ∈ order, ∀ q, e.2 = some q → q ∈ order.map Prod.fst ∧ e.1 ∈ children q) :
    ∀ e ∈ order', ∀ q, e.2 = some q → q ∈ order'.map Prod.fst ∧ e.1 ∈ children q := by
  induction h with
  | nil order => exact horder
  | skip _ _ ih => exact ih (fun e he => hes e (List.mem_cons_of_mem _ he)) horder
  | @descend k p es order inner order' hnew hinner hrest ihInner ihRest =>
    have hgrow : order.map Prod.fst ⊆ (order ++ [(k, p)]).map Prod.fst := by
      intro a ha
      rw [List.map_append]
      exact List.mem_append_left _ ha
    have hlisted := ihInner
      (by
        intro e he q hq
        obtain ⟨c, hc, rfl⟩ := List.mem_map.1 he
        obtain rfl : k = q := Option.some.inj hq
        exact ⟨by simp, hc⟩)
      (by
        intro e he q hq
        rcases List.mem_append.1 he with he | he
        · exact ⟨hgrow (horder e he q hq).1, (horder e he q hq).2⟩
        · rw [List.mem_singleton.1 he] at hq ⊢
          obtain ⟨hmem, hedge⟩ := hes (k, p) (List.mem_cons_self ..) q hq
          exact ⟨hgrow hmem, hedge⟩)
    refine ihRest ?_ hlisted
    intro e he q hq
    obtain ⟨hmem, hedge⟩ := hes e (List.mem_cons_of_mem _ he) q hq
    exact ⟨hinner.keys_subset (hgrow hmem), hedge⟩

theorem forall_mem (h : FirstVisits children es order order') {R : K → Prop}
    (hchildren : ∀ k, R k → ∀ c ∈ children k, R c) (hes : ∀ e ∈ es, R e.1)
    (horder : ∀ e ∈ order, R e.1) : ∀ e ∈ order', R e.1 := by
  induction h with
  | nil order => exact horder
  | skip _ _ ih => exact ih (fun e he => hes e (List.mem_cons_of_mem _ he)) horder
  | @descend k p es order inner order' hnew hinner hrest ihInner ihRest =>
    have hk : R k := hes (k, p) (List.mem_cons_self ..)
    apply ihRest (fun e he => hes e (List.mem_cons_of_mem _ he))
    apply ihInner
    · intro e he
      obtain ⟨c, hc, rfl⟩ := List.mem_map.1 he
      exact hchildren k hk c hc
    · intro e he
      rcases List.mem_append.1 he with he | he
      · exact horder e he
      · rw [List.mem_singleton.1 he]
        exact hk

theorem map {L : Type} {children' : L → List L} {f : K → L} {R : K → Prop}
    (h : FirstVisits children es order order') (hinj : ∀ a b, R a → R b → f a = f b → a = b)
    (hchildren : ∀ k, R k → children' (f k) = (children k).map f ∧ ∀ c ∈ children k, R c)
    (hes : ∀ e ∈ es, R e.1) (horder : ∀ e ∈ order, R e.1) :
    FirstVisits children' (es.map (Prod.map f (Option.map f)))
      (order.map (Prod.map f (Option.map f))) (order'.map (Prod.map f (Option.map f))) := by
  have hkeys : ∀ xs : List (K × Option K),
      (xs.map (Prod.map f (Option.map f))).map Prod.fst = (xs.map Prod.fst).map f := by
    intro xs
    simp [Function.comp_def]
  induction h with
  | nil order => exact .nil _
  | skip hseen hrest ih =>
    rw [List.map_cons]
    refine .skip ?_ (ih (fun e he => hes e (List.mem_cons_of_mem _ he)) horder)
    rw [hkeys]
    exact List.mem_map_of_mem hseen
  | @descend k p es order inner order' hnew hinner hrest ihInner ihRest =>
    have hk : R k := hes (k, p) (List.mem_cons_self ..)
    have hbehind : ∀ e ∈ (children k).map (·, some k), R e.1 := by
      intro e he
      obtain ⟨c, hc, rfl⟩ := List.mem_map.1 he
      exact (hchildren k hk).2 c hc
    have horder₁ : ∀ e ∈ order ++ [(k, p)], R e.1 := by
      intro e he
      rcases List.mem_append.1 he with he | he
      · exact horder e he
      · rw [List.mem_singleton.1 he]
        exact hk
    have horder₂ := hinner.forall_mem (fun k hk => (hchildren k hk).2) hbehind horder₁
    rw [List.map_cons]
    refine .descend ?_ ?_ (ihRest (fun e he => hes e (List.mem_cons_of_mem _ he)) horder₂)
    · rw [hkeys]
      intro hmem
      obtain ⟨k', hk', heq⟩ := List.mem_map.1 hmem
      obtain ⟨e, he, rfl⟩ := List.mem_map.1 hk'
      rw [hinj e.1 k (horder e he) hk heq] at hk'
      exact hnew hk'
    · have hrun := ihInner hbehind horder₁
      rw [List.map_append, List.map_singleton, List.map_map] at hrun
      show FirstVisits children' ((children' (f k)).map (·, some (f k))) _ _
      rw [(hchildren k hk).1, List.map_map]
      exact hrun

end FirstVisits

section Runs
variable [DecidableEq K] {children : K → List K}

theorem visitAll_firstVisits
    {descend : List (K × Option K) → List K × List (K × Option K) →
      Option (Except Empty (List K × List (K × Option K)))}
    (hdescend : ∀ es visited order visited' order', (∀ k, k ∈ visited ↔ k ∈ order.map Prod.fst) →
      descend es (visited, order) = some (.ok (visited', order')) →
      FirstVisits children es order order' ∧ ∀ k, k ∈ visited' ↔ k ∈ order'.map Prod.fst)
    {es : List (K × Option K)} {visited visited' : List K} {order order' : List (K × Option K)}
    (hvisited : ∀ k, k ∈ visited ↔ k ∈ order.map Prod.fst)
    (hrun : (firstVisit children).visitAll descend es (visited, order) =
      some (.ok (visited', order'))) :
    FirstVisits children es order order' ∧ ∀ k, k ∈ visited' ↔ k ∈ order'.map Prod.fst := by
  induction es generalizing visited order with
  | nil =>
    obtain ⟨rfl, rfl⟩ := Prod.mk.inj (Except.ok.inj (Option.some.inj hrun))
    exact ⟨.nil _, hvisited⟩
  | cons e es ih =>
    obtain ⟨k, p⟩ := e
    have hkey : (firstVisit children).key (k, p) = some k := rfl
    have henter : (firstVisit children).enter (k, p) order =
        .ok (order ++ [(k, p)], (children k).map (·, some k)) := rfl
    unfold Traversal.visitAll at hrun
    rw [hkey] at hrun
    dsimp only at hrun
    split at hrun
    · next hseen =>
      obtain ⟨hrest, hkeys⟩ := ih hvisited hrun
      exact ⟨.skip ((hvisited k).1 hseen) hrest, hkeys⟩
    · next hnew =>
      rw [henter] at hrun
      dsimp only at hrun
      split at hrun
      · cases hrun
      · cases hrun
      · next found hinnerRun =>
        obtain ⟨visited₁, inner⟩ := found
        have hvisited₁ : ∀ k', k' ∈ k :: visited ↔ k' ∈ (order ++ [(k, p)]).map Prod.fst := by
          intro k'
          rw [List.mem_cons, hvisited k', List.map_append, List.mem_append, List.map_singleton,
            List.mem_singleton, or_comm]
        obtain ⟨hinner, hkeys₁⟩ := hdescend _ _ _ _ _ hvisited₁ hinnerRun
        obtain ⟨hrest, hkeys⟩ := ih hkeys₁ hrun
        exact ⟨.descend (fun h => hnew ((hvisited k).2 h)) hinner hrest, hkeys⟩

theorem visit_firstVisits {fuel : ℕ} {es : List (K × Option K)} {visited visited' : List K}
    {order order' : List (K × Option K)} (hvisited : ∀ k, k ∈ visited ↔ k ∈ order.map Prod.fst)
    (hrun : (firstVisit children).visit fuel es (visited, order) = some (.ok (visited', order'))) :
    FirstVisits children es order order' ∧ ∀ k, k ∈ visited' ↔ k ∈ order'.map Prod.fst := by
  induction fuel generalizing es visited order visited' order' with
  | zero =>
    refine visitAll_firstVisits ?_ hvisited hrun
    intro es visited order visited' order' _ hnone
    cases hnone
  | succ fuel ih =>
    refine visitAll_firstVisits ?_ hvisited hrun
    exact fun _ _ _ _ _ hvisited hrun => ih hvisited hrun

/-- With fuel for a finite set of nodes closed under children, the traversal lists the nodes
behind the root, each once. -/
theorem firstVisits_spec {known : Finset K} {fuel : ℕ} (hfuel : known.card ≤ fuel) {root : K}
    (hroot : root ∈ known) (hknown : ∀ k ∈ known, ∀ c ∈ children k, c ∈ known) :
    FirstVisits children [(root, none)] [] (firstVisits children fuel root) ∧
      ∀ k, k ∈ (firstVisits children fuel root).map Prod.fst ↔
        Relation.ReflTransGen (fun a b => b ∈ children a) root k := by
  -- every edge keeps the node it comes from, which is the parent of a first visit
  have hclosed : (firstVisit children).Closed known (fun k => (children k).map (·, some k))
      fun _ _ => True := by
    refine ⟨?_, fun _ _ _ _ _ => trivial, ?_⟩
    · intro e s k hkey hk
      obtain rfl : e.1 = k := Option.some.inj hkey
      exact ⟨_, rfl, fun _ _ => trivial⟩
    · intro k hk e he k' hkey
      obtain ⟨c, hc, rfl⟩ := List.mem_map.1 he
      obtain rfl : c = k' := Option.some.inj hkey
      exact hknown k hk c hc
  have hes : ∀ e ∈ [(root, (none : Option K))], ∀ k,
      (firstVisit children).key e = some k → k ∈ known := by
    intro e he k hkey
    rw [List.mem_singleton.1 he] at hkey
    obtain rfl : root = k := Option.some.inj hkey
    exact hroot
  obtain ⟨visited, order, hrun, hfound, -⟩ : ∃ visited order,
      (firstVisit children).visit fuel [(root, none)] ([], []) = some (.ok (visited, order)) ∧
        (firstVisit children).Found (fun k => (children k).map (·, some k)) [(root, none)] []
          visited ∧ True :=
    Traversal.visit_found hclosed (by simpa using hfuel) hes trivial
  have horder : firstVisits children fuel root = order := by
    unfold firstVisits
    rw [hrun]
  obtain ⟨hvisits, hkeys⟩ := visit_firstVisits (by simp) hrun
  have hedge : (firstVisit children).Edge (fun k => (children k).map (·, some k)) =
      fun a b => b ∈ children a := by
    funext a b
    apply propext
    constructor
    · rintro ⟨e, he, hkey⟩
      obtain ⟨c, hc, rfl⟩ := List.mem_map.1 he
      obtain rfl : c = b := Option.some.inj hkey
      exact hc
    · intro hb
      exact ⟨(b, some a), List.mem_map_of_mem hb, rfl⟩
  rw [horder]
  refine ⟨hvisits, fun k => ?_⟩
  rw [← hkeys, hfound.mem_iff, hedge]
  constructor
  · rintro ⟨e, he, k₀, hkey, hreach⟩
    rw [List.mem_singleton.1 he] at hkey
    obtain rfl : root = k₀ := Option.some.inj hkey
    exact hreach
  · intro hreach
    exact ⟨(root, none), List.mem_singleton_self _, root, rfl, hreach⟩

end Runs
end Graph
