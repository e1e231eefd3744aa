import DeltaFunnel.Collections.HashMap
import DeltaFunnel.Graph.Forest
import DeltaFunnel.Support
import Mathlib.Tactic.Linarith
import Mathlib.Tactic.Ring

/-! The two walks over parent maps of the ranked profile: folding self counts into inclusive
counts, and looking for a cycle. -/

namespace DeltaFunnel
open Collections Graph

section Walks
variable {Id Site : Type} [DecidableEq Id]

/-- The locals of `fold_inclusive_counts`. The top of the stack `ready` comes first. -/
structure FoldState (Id : Type) where
  ready : List Id
  inclusive : HashMap Id ℤ
  remainingChildren : HashMap Id ℕ
  visited : ℕ

def parentIn (parents : HashMap Id (Option Id)) (id : Id) : Option Id := (parents.get? id).join

def countChild (remainingChildren : HashMap Id ℕ) (parent : Option Id) :
    Option (HashMap Id ℕ) :=
  match parent with
  | none => some remainingChildren
  | some parent =>
    (remainingChildren.get? parent).map fun children => remainingChildren.insert parent (children + 1)

/-- The turn of the loop that has taken `id` from the stack. -/
def foldReadyNode (parents : HashMap Id (Option Id)) (id : Id) (state : FoldState Id) :
    Option (FoldState Id) :=
  let state := { state with visited := state.visited + 1 }
  match parentIn parents id with
  | none => some state
  | some parent => do
    let count ← state.inclusive.get? id
    let parentCount ← state.inclusive.get? parent
    let parentCount ← checkedAdd parentCount count
    let children ← state.remainingChildren.get? parent
    if children = 0 then none
    else
      let ready := if children - 1 = 0 then parent :: state.ready else state.ready
      some { state with
        ready
        inclusive := state.inclusive.insert parent parentCount
        remainingChildren := state.remainingChildren.insert parent (children - 1) }

/-- The loop takes every node from the stack at most once, so `fuel` nodes suffice. -/
def foldReady (parents : HashMap Id (Option Id)) : ℕ → FoldState Id → Option (FoldState Id)
  | 0, state => if state.ready = [] then some state else none
  | fuel + 1, state =>
    match state.ready with
    | [] => some state
    | id :: ready => do
      let state ← foldReadyNode parents id { state with ready }
      foldReady parents fuel state

def foldInclusiveCounts (order : IterationOrder Site) (site : Site)
    (parents : HashMap Id (Option Id)) (selfCounts : HashMap Id ℤ) : Option (HashMap Id ℤ) := do
  let remainingChildren := HashMap.collect ((parents.iter order site).map fun e => (e.1, 0))
  let remainingChildren ← ((parents.iter order site).map Prod.snd).foldlM countChild remainingChildren
  let ready := ((remainingChildren.iter order site).filterMap fun e =>
    if e.2 = 0 then some e.1 else none).reverse
  let state ← foldReady parents parents.len ⟨ready, selfCounts, remainingChildren, 0⟩
  if state.visited = parents.len then some state.inclusive else none

/-- Climbs from `current` and answers the nodes of the path, or the node found twice on it. -/
def climb (parents : HashMap Id (Option Id)) (complete : List Id) :
    ℕ → List Id → Option Id → Except Id (List Id)
  | _, path, none => .ok path
  | 0, _, some node => .error node
  | fuel + 1, path, some node =>
    if node ∈ complete then .ok path
    else if node ∈ path then .error node
    else climb parents complete fuel (node :: path) (parentIn parents node)

def firstCycleFrom (parents : HashMap Id (Option Id)) : List Id → List Id → Option Id
  | _, [] => none
  | complete, start :: starts =>
    if start ∈ complete then firstCycleFrom parents complete starts
    else
      match climb parents complete (parents.len + 2) [] (some start) with
      | .error node => some node
      | .ok path => firstCycleFrom parents (path ++ complete) starts

def firstCycle (parents : HashMap Id (Option Id)) (starts : List Id) : Option Id :=
  firstCycleFrom parents [] starts

def nodesOf (parents : HashMap Id (Option Id)) : Finset Id := parents.keys.toFinset

def countIn (counts : HashMap Id ℤ) (id : Id) : ℤ := (counts.get? id).getD 0

@[simp] theorem mem_nodesOf {parents : HashMap Id (Option Id)} {id : Id} :
    id ∈ nodesOf parents ↔ id ∈ parents.keys := List.mem_toFinset

theorem card_nodesOf (parents : HashMap Id (Option Id)) : (nodesOf parents).card = parents.len := by
  rw [nodesOf, List.toFinset_card_of_nodup parents.nodup_keys, HashMap.len_eq]

theorem countIn_insert (counts : HashMap Id ℤ) (id id' : Id) (count : ℤ) :
    countIn (counts.insert id count) id' = if id' = id then count else countIn counts id' := by
  unfold countIn
  rw [HashMap.get?_insert]
  split
  · rfl
  · rfl

/-- The children of a node that the loop has not taken yet. -/
noncomputable def pending (parents : HashMap Id (Option Id)) (done : List Id) (id : Id) :
    Finset Id := (children (parentIn parents) (nodesOf parents) id).filter (· ∉ done)

/-- What holds after the nodes of `done` were taken from the stack, the last one first. -/
structure FoldInvariant (parents : HashMap Id (Option Id)) (selfCounts : HashMap Id ℤ)
    (done : List Id) (state : FoldState Id) : Prop where
  closed : ∀ id ∈ nodesOf parents, ∀ parent, parentIn parents id = some parent →
    parent ∈ nodesOf parents
  nodup : done.Nodup
  known : ∀ id ∈ done, id ∈ nodesOf parents
  visited : state.visited = done.length
  ready_nodup : state.ready.Nodup
  mem_ready : ∀ id, id ∈ state.ready ↔
    id ∈ nodesOf parents ∧ id ∉ done ∧ pending parents done id = ∅
  remaining : ∀ id ∈ nodesOf parents,
    state.remainingChildren.get? id = some (pending parents done id).card
  counted : ∀ id ∈ nodesOf parents, ∃ count, state.inclusive.get? id = some count
  inclusive : ∀ id ∈ nodesOf parents, countIn state.inclusive id = countIn selfCounts id +
    ∑ c ∈ (children (parentIn parents) (nodesOf parents) id).filter (· ∈ done),
      countIn state.inclusive c
  finished : ∀ id ∈ done, pending parents done id = ∅
  ascending : done.Pairwise fun later earlier => parentIn parents later ≠ some earlier
  no_loop : ∀ id ∈ done, parentIn parents id ≠ some id

section Invariant
variable {parents : HashMap Id (Option Id)} {selfCounts : HashMap Id ℤ} {done : List Id}
  {state : FoldState Id} {id parent c : Id}

theorem mem_pending : c ∈ pending parents done id ↔
    c ∈ nodesOf parents ∧ parentIn parents c = some id ∧ c ∉ done := by
  rw [pending, Finset.mem_filter, mem_children, and_assoc]

theorem pending_cons_of_ne (hparent : parentIn parents c ≠ some id) :
    pending parents (c :: done) id = pending parents done id := by
  ext x
  rw [mem_pending, mem_pending, List.mem_cons, not_or]
  constructor
  · rintro ⟨hx, hxid, -, hxdone⟩
    exact ⟨hx, hxid, hxdone⟩
  · rintro ⟨hx, hxid, hxdone⟩
    refine ⟨hx, hxid, ?_, hxdone⟩
    intro heq
    exact hparent (heq ▸ hxid)

theorem pending_cons_parent : pending parents (c :: done) id = (pending parents done id).erase c := by
  ext x
  rw [Finset.mem_erase, mem_pending, mem_pending, List.mem_cons, not_or]
  tauto

namespace FoldInvariant

theorem parent_waits (hinv : FoldInvariant parents selfCounts done state) (hready : id ∈ state.ready)
    (hparent : parentIn parents id = some parent) :
    id ∈ pending parents done parent ∧ parent ∉ done ∧ parent ≠ id := by
  obtain ⟨hid, hnotDone, hnone⟩ := (hinv.mem_ready id).1 hready
  have hwaits : id ∈ pending parents done parent := mem_pending.2 ⟨hid, hparent, hnotDone⟩
  refine ⟨hwaits, ?_, ?_⟩
  · intro hdone
    rw [hinv.finished parent hdone] at hwaits
    exact Finset.notMem_empty id hwaits
  · intro heq
    rw [heq, hnone] at hwaits
    exact Finset.notMem_empty id hwaits

theorem parent_not_ready (hinv : FoldInvariant parents selfCounts done state)
    (hready : id ∈ state.ready) (hparent : parentIn parents id = some parent) :
    parent ∉ state.ready := by
  intro hmem
  have hwaits := (hinv.parent_waits hready hparent).1
  rw [((hinv.mem_ready parent).1 hmem).2.2] at hwaits
  exact Finset.notMem_empty id hwaits

theorem foldReadyNode_root {ready : List Id}
    (hinv : FoldInvariant parents selfCounts done { state with ready := id :: ready })
    (hroot : parentIn parents id = none) :
    foldReadyNode parents id { state with ready } =
        some { state with ready, visited := state.visited + 1 } ∧
      FoldInvariant parents selfCounts (id :: done)
        { state with ready, visited := state.visited + 1 } := by
  have hready : id ∈ id :: ready := List.mem_cons_self ..
  obtain ⟨hid, hnotDone, hnone⟩ := (hinv.mem_ready id).1 hready
  -- No node waits for a root, so only the root itself leaves the stack.
  have hsame : ∀ x, pending parents (id :: done) x = pending parents done x := by
    intro x
    apply pending_cons_of_ne
    rw [hroot]
    exact nofun
  have hnotChild : ∀ x, id ∉ children (parentIn parents) (nodesOf parents) x := by
    intro x hmem
    have hparent := (mem_children.1 hmem).2
    rw [hroot] at hparent
    cases hparent
  constructor
  · unfold foldReadyNode
    rw [hroot]
  · have hnodup := List.nodup_cons.1 hinv.ready_nodup
    exact {
      closed := hinv.closed
      nodup := List.nodup_cons.2 ⟨hnotDone, hinv.nodup⟩
      known := by
        intro x hx
        rcases List.mem_cons.1 hx with rfl | hx
        · exact hid
        · exact hinv.known x hx
      visited := congrArg (· + 1) hinv.visited
      ready_nodup := hnodup.2
      mem_ready := by
        intro x
        have hx := hinv.mem_ready x
        rw [hsame, List.mem_cons, not_or]
        constructor
        · intro hmem
          obtain ⟨hxnode, hxdone, hxnone⟩ := hx.1 (List.mem_cons_of_mem id hmem)
          have hne : x ≠ id := fun heq => hnodup.1 (heq ▸ hmem)
          exact ⟨hxnode, ⟨hne, hxdone⟩, hxnone⟩
        · rintro ⟨hxnode, ⟨hne, hxdone⟩, hxnone⟩
          exact (List.mem_cons.1 (hx.2 ⟨hxnode, hxdone, hxnone⟩)).resolve_left hne
      remaining := by
        intro x hx
        rw [hsame]
        exact hinv.remaining x hx
      counted := hinv.counted
      inclusive := by
        intro x hx
        rw [hinv.inclusive x hx]
        congr 1
        apply Finset.sum_congr _ fun _ _ => rfl
        apply Finset.filter_congr
        intro c hc
        have hne : c ≠ id := fun heq => hnotChild x (heq ▸ hc)
        rw [List.mem_cons]
        exact ⟨.inr, fun hmem => hmem.resolve_left hne⟩
      finished := by
        intro x hx
        rw [hsame]
        rcases List.mem_cons.1 hx with rfl | hx
        · exact hnone
        · exact hinv.finished x hx
      ascending := by
        refine List.pairwise_cons.2 ⟨?_, hinv.ascending⟩
        intro earlier _
        rw [hroot]
        exact nofun
      no_loop := by
        intro x hx
        rcases List.mem_cons.1 hx with rfl | hx
        · rw [hroot]
          exact nofun
        · exact hinv.no_loop x hx }

def foldedInto (state : FoldState Id) (ready : List Id) (id parent : Id) (waiting : ℕ) :
    FoldState Id :=
  { ready := if waiting - 1 = 0 then parent :: ready else ready
    inclusive := state.inclusive.insert parent
      (countIn state.inclusive parent + countIn state.inclusive id)
    remainingChildren := state.remainingChildren.insert parent (waiting - 1)
    visited := state.visited + 1 }

section Child
variable {ready : List Id} {x : Id}

theorem pending_other (hparent : parentIn parents id = some parent) (hx : x ≠ parent) :
    pending parents (id :: done) x = pending parents done x := by
  apply pending_cons_of_ne
  rw [hparent]
  exact fun heq => hx (Option.some.inj heq).symm

theorem filter_done_other (hparent : parentIn parents id = some parent) (hx : x ≠ parent) :
    (children (parentIn parents) (nodesOf parents) x).filter (· ∈ id :: done) =
      (children (parentIn parents) (nodesOf parents) x).filter (· ∈ done) := by
  apply Finset.filter_congr
  intro c hc
  have hcid : c ≠ id := by
    rintro rfl
    exact hx (Option.some.inj ((mem_children.1 hc).2.symm.trans hparent))
  rw [List.mem_cons]
  exact ⟨fun hmem => hmem.resolve_left hcid, .inr⟩

variable (hinv : FoldInvariant parents selfCounts done { state with ready := id :: ready })
  (hparent : parentIn parents id = some parent)
include hinv hparent

theorem card_pending_parent :
    (pending parents (id :: done) parent).card = (pending parents done parent).card - 1 := by
  obtain ⟨hwaits, -, -⟩ := hinv.parent_waits (List.mem_cons_self ..) hparent
  rw [pending_cons_parent, Finset.card_erase_of_mem hwaits]

theorem filter_done_parent :
    (children (parentIn parents) (nodesOf parents) parent).filter (· ∈ id :: done) =
      insert id ((children (parentIn parents) (nodesOf parents) parent).filter (· ∈ done)) := by
  obtain ⟨hid, -, -⟩ := (hinv.mem_ready id).1 (List.mem_cons_self ..)
  ext c
  simp only [Finset.mem_filter, Finset.mem_insert, List.mem_cons, mem_children]
  constructor
  · rintro ⟨hc, rfl | hcdone⟩
    · exact .inl rfl
    · exact .inr ⟨hc, hcdone⟩
  · rintro (rfl | ⟨hc, hcdone⟩)
    · exact ⟨⟨hid, hparent⟩, .inl rfl⟩
    · exact ⟨hc, .inr hcdone⟩

theorem mem_ready_foldedInto :
    x ∈ (foldedInto state ready id parent (pending parents done parent).card).ready ↔
      x ∈ nodesOf parents ∧ x ∉ id :: done ∧ pending parents (id :: done) x = ∅ := by
  have hready : id ∈ id :: ready := List.mem_cons_self ..
  obtain ⟨hid, -, -⟩ := (hinv.mem_ready id).1 hready
  obtain ⟨-, hparentNotDone, hne⟩ := hinv.parent_waits hready hparent
  have hparentNotReady := hinv.parent_not_ready hready hparent
  show x ∈ (if _ then parent :: ready else ready) ↔ _
  by_cases hx : x = parent
  · subst hx
    have hempty : pending parents (id :: done) x = ∅ ↔ (pending parents done x).card - 1 = 0 := by
      rw [← Finset.card_eq_zero, hinv.card_pending_parent hparent]
    rw [hempty]
    split
    · next hlast =>
      refine iff_of_true (List.mem_cons_self ..) ⟨hinv.closed id hid x hparent, ?_, hlast⟩
      exact fun hmem => (List.mem_cons.1 hmem).elim hne hparentNotDone
    · next hmore =>
      refine iff_of_false ?_ fun h => hmore h.2.2
      exact fun hmem => hparentNotReady (List.mem_cons_of_mem id hmem)
  · have hsame : x ∈ (if (pending parents done parent).card - 1 = 0 then parent :: ready
        else ready) ↔ x ∈ ready := by
      split
      · rw [List.mem_cons]
        exact ⟨fun hmem => hmem.resolve_left hx, .inr⟩
      · exact Iff.rfl
    rw [hsame, pending_other hparent hx, List.mem_cons, not_or]
    constructor
    · intro hmem
      obtain ⟨hxnode, hxdone, hxnone⟩ := (hinv.mem_ready x).1 (List.mem_cons_of_mem id hmem)
      have hxid : x ≠ id := fun heq => (List.nodup_cons.1 hinv.ready_nodup).1 (heq ▸ hmem)
      exact ⟨hxnode, ⟨hxid, hxdone⟩, hxnone⟩
    · rintro ⟨hxnode, ⟨hxid, hxdone⟩, hxnone⟩
      exact (List.mem_cons.1 ((hinv.mem_ready x).2 ⟨hxnode, hxdone, hxnone⟩)).resolve_left hxid

theorem inclusive_foldedInto (hx : x ∈ nodesOf parents) {waiting : ℕ} :
    countIn (foldedInto state ready id parent waiting).inclusive x = countIn selfCounts x +
      ∑ c ∈ (children (parentIn parents) (nodesOf parents) x).filter (· ∈ id :: done),
        countIn (foldedInto state ready id parent waiting).inclusive c := by
  have hready : id ∈ id :: ready := List.mem_cons_self ..
  obtain ⟨-, hnotDone, -⟩ := (hinv.mem_ready id).1 hready
  obtain ⟨-, hparentNotDone, hne⟩ := hinv.parent_waits hready hparent
  have hkept : ∀ y, y ≠ parent → countIn (foldedInto state ready id parent waiting).inclusive y =
      countIn state.inclusive y := by
    intro y hy
    exact (countIn_insert ..).trans (if_neg hy)
  have hsum : ∑ c ∈ (children (parentIn parents) (nodesOf parents) x).filter (· ∈ done),
      countIn (foldedInto state ready id parent waiting).inclusive c =
      ∑ c ∈ (children (parentIn parents) (nodesOf parents) x).filter (· ∈ done),
        countIn state.inclusive c := by
    apply Finset.sum_congr rfl
    intro c hc
    apply hkept
    intro heq
    exact hparentNotDone (heq ▸ (Finset.mem_filter.1 hc).2)
  have hbefore : countIn state.inclusive x = countIn selfCounts x + _ := hinv.inclusive x hx
  by_cases hxp : x = parent
  · subst hxp
    have hfresh : id ∉ (children (parentIn parents) (nodesOf parents) x).filter (· ∈ done) :=
      fun hmem => hnotDone (Finset.mem_filter.1 hmem).2
    have hvalue : countIn (foldedInto state ready id x waiting).inclusive x =
        countIn state.inclusive x + countIn state.inclusive id :=
      (countIn_insert ..).trans (if_pos rfl)
    rw [hvalue, hinv.filter_done_parent hparent, Finset.sum_insert hfresh, hkept id hne.symm, hsum,
      hbefore]
    ring
  · rw [hkept x hxp, filter_done_other hparent hxp, hsum]
    exact hbefore

theorem foldReadyNode_child :
    FoldInvariant parents selfCounts (id :: done)
      (foldedInto state ready id parent (pending parents done parent).card) := by
  have hready : id ∈ id :: ready := List.mem_cons_self ..
  obtain ⟨hid, hnotDone, hnone⟩ := (hinv.mem_ready id).1 hready
  obtain ⟨-, hparentNotDone, hne⟩ := hinv.parent_waits hready hparent
  have hparentNotReady := hinv.parent_not_ready hready hparent
  have hnodup := (List.nodup_cons.1 hinv.ready_nodup).2
  exact {
    closed := hinv.closed
    nodup := List.nodup_cons.2 ⟨hnotDone, hinv.nodup⟩
    known := by
      intro x hx
      rcases List.mem_cons.1 hx with rfl | hx
      · exact hid
      · exact hinv.known x hx
    visited := congrArg (· + 1) hinv.visited
    ready_nodup := by
      show (if _ then parent :: ready else ready).Nodup
      split
      · refine List.nodup_cons.2 ⟨?_, hnodup⟩
        exact fun hmem => hparentNotReady (List.mem_cons_of_mem id hmem)
      · exact hnodup
    mem_ready := fun x => hinv.mem_ready_foldedInto hparent
    remaining := by
      intro x hx
      show (state.remainingChildren.insert parent _).get? x = _
      rw [HashMap.get?_insert]
      split
      · next heq => rw [heq, hinv.card_pending_parent hparent]
      · next hxne =>
        rw [pending_other hparent hxne]
        exact hinv.remaining x hx
    counted := by
      intro x hx
      show ∃ count, (state.inclusive.insert parent _).get? x = some count
      rw [HashMap.get?_insert]
      split
      · exact ⟨_, rfl⟩
      · exact hinv.counted x hx
    inclusive := fun x hx => hinv.inclusive_foldedInto hparent hx
    finished := by
      intro x hx
      rcases List.mem_cons.1 hx with rfl | hx
      · rw [pending_other hparent hne.symm]
        exact hnone
      · have hxp : x ≠ parent := fun heq => hparentNotDone (heq ▸ hx)
        rw [pending_other hparent hxp]
        exact hinv.finished x hx
    ascending := by
      refine List.pairwise_cons.2 ⟨?_, hinv.ascending⟩
      intro earlier hearlier
      rw [hparent]
      exact fun heq => hparentNotDone (Option.some.inj heq ▸ hearlier)
    no_loop := by
      intro x hx
      rcases List.mem_cons.1 hx with rfl | hx
      · rw [hparent]
        exact fun heq => hne (Option.some.inj heq)
      · exact hinv.no_loop x hx }

end Child

theorem foldReadyNode_eq {ready : List Id}
    (hinv : FoldInvariant parents selfCounts done { state with ready := id :: ready })
    (hparent : parentIn parents id = some parent) :
    foldReadyNode parents id { state with ready } =
      if inI64 (countIn state.inclusive parent + countIn state.inclusive id) then
        some (foldedInto state ready id parent (pending parents done parent).card)
      else none := by
  have hready : id ∈ id :: ready := List.mem_cons_self ..
  obtain ⟨hid, -, -⟩ := (hinv.mem_ready id).1 hready
  have hparentNode : parent ∈ nodesOf parents := hinv.closed id hid parent hparent
  have hwaits := (hinv.parent_waits hready hparent).1
  obtain ⟨count, hcount⟩ := hinv.counted id hid
  obtain ⟨parentCount, hparentCount⟩ := hinv.counted parent hparentNode
  have hremaining : state.remainingChildren.get? parent = _ := hinv.remaining parent hparentNode
  have hpositive : (pending parents done parent).card ≠ 0 := Finset.card_ne_zero_of_mem hwaits
  have hvalue : countIn state.inclusive id = count := by
    show (state.inclusive.get? id).getD 0 = count
    rw [show state.inclusive.get? id = some count from hcount]
    rfl
  have hparentValue : countIn state.inclusive parent = parentCount := by
    show (state.inclusive.get? parent).getD 0 = parentCount
    rw [show state.inclusive.get? parent = some parentCount from hparentCount]
    rfl
  rw [hvalue, hparentValue]
  simp only at hcount hparentCount
  simp only [foldReadyNode, hparent, hcount, hparentCount, hremaining, checkedAdd,
    Option.bind_eq_bind, Option.bind_some]
  split
  · rw [Option.bind_some, foldedInto, hvalue, hparentValue]
  · rfl

theorem foldReady_some {fuel : ℕ} {final : FoldState Id}
    (hinv : FoldInvariant parents selfCounts done state)
    (hresult : foldReady parents fuel state = some final) :
    ∃ done', FoldInvariant parents selfCounts done' final ∧ final.ready = [] := by
  induction fuel generalizing done state with
  | zero =>
    unfold foldReady at hresult
    split at hresult
    · next hempty =>
      obtain rfl := Option.some.inj hresult
      exact ⟨done, hinv, hempty⟩
    · cases hresult
  | succ fuel ih =>
    unfold foldReady at hresult
    split at hresult
    · next hempty =>
      obtain rfl := Option.some.inj hresult
      exact ⟨done, hinv, hempty⟩
    · next id ready hready =>
      have hinv : FoldInvariant parents selfCounts done { state with ready := id :: ready } :=
        hready ▸ hinv
      obtain ⟨next, hnext, hrest⟩ := Option.bind_eq_some_iff.1 hresult
      rcases hparent : parentIn parents id with _ | parent
      · obtain ⟨hturn, hkept⟩ := foldReadyNode_root hinv hparent
        rw [hturn] at hnext
        obtain rfl := Option.some.inj hnext
        exact ih hkept hrest
      · rw [foldReadyNode_eq hinv hparent] at hnext
        split at hnext
        · obtain rfl := Option.some.inj hnext
          exact ih (foldReadyNode_child hinv hparent) hrest
        · cases hnext

theorem mem_done_of_visited (hinv : FoldInvariant parents selfCounts done state)
    (hvisited : state.visited = parents.len) : ∀ x ∈ nodesOf parents, x ∈ done := by
  have hsubset : done.toFinset ⊆ nodesOf parents := fun x hx =>
    hinv.known x (List.mem_toFinset.1 hx)
  have hcard : (nodesOf parents).card ≤ done.toFinset.card := by
    rw [card_nodesOf, List.toFinset_card_of_nodup hinv.nodup, ← hinv.visited, hvisited]
  intro x hx
  rw [← Finset.eq_of_subset_of_card_le hsubset hcard] at hx
  exact List.mem_toFinset.1 hx

theorem isForest (hinv : FoldInvariant parents selfCounts done state)
    (hall : ∀ x ∈ nodesOf parents, x ∈ done) : IsForest (parentIn parents) (nodesOf parents) := by
  have key : ∀ later earlier, done = later ++ earlier →
      ∀ x ∈ later, Grounded (parentIn parents) x := by
    intro later
    induction later using List.reverseRecOn with
    | nil => exact fun _ _ x hx => absurd hx List.not_mem_nil
    | append_singleton later x ih =>
      intro earlier hsplit
      have hsplit' : done = later ++ x :: earlier := by simpa using hsplit
      have hlater := ih (x :: earlier) hsplit'
      intro z hz
      rcases List.mem_append.1 hz with hz | hz
      · exact hlater z hz
      · rw [List.mem_singleton.1 hz]
        rcases hparent : parentIn parents x with _ | y
        · exact .root hparent
        · refine .up hparent (hlater y ?_)
          have hx : x ∈ done := by rw [hsplit']; simp
          have hy : y ∈ done := hall y (hinv.closed x (hinv.known x hx) y hparent)
          have hascending := hinv.ascending
          rw [hsplit', List.pairwise_append, List.pairwise_cons] at hascending
          rw [hsplit', List.mem_append, List.mem_cons] at hy
          rcases hy with hy | rfl | hy
          · exact hy
          · exact absurd hparent (hinv.no_loop y hx)
          · exact absurd hparent (hascending.2.1.1 y hy)
  exact ⟨hinv.closed, fun x hx => key done [] (List.append_nil done).symm x (hall x hx)⟩

theorem settled (hinv : FoldInvariant parents selfCounts done state)
    (hforest : IsForest (parentIn parents) (nodesOf parents)) {x : Id} (hx : x ∈ nodesOf parents)
    (hnone : pending parents done x = ∅) : countIn state.inclusive x =
      subtreeSum (parentIn parents) (nodesOf parents) (countIn selfCounts) x := by
  induction hcard : (subtree (parentIn parents) (nodesOf parents) x).card using
    Nat.strong_induction_on generalizing x with
  | _ card ih =>
    subst hcard
    have htaken : ∀ c ∈ children (parentIn parents) (nodesOf parents) x, c ∈ done := by
      intro c hc
      by_contra hnotDone
      have hpending : c ∈ pending parents done x :=
        mem_pending.2 ⟨(mem_children.1 hc).1, (mem_children.1 hc).2, hnotDone⟩
      rw [hnone] at hpending
      exact Finset.notMem_empty c hpending
    rw [hinv.inclusive x hx, hforest.subtreeSum_eq hx, Finset.filter_true_of_mem htaken]
    congr 1
    apply Finset.sum_congr rfl
    intro c hc
    obtain ⟨hcnode, hcparent⟩ := mem_children.1 hc
    exact ih _ (hforest.card_subtree_lt hcnode hcparent) hcnode (hinv.finished c (htaken c hc)) rfl

theorem inI64_add {ready : List Id}
    (hinv : FoldInvariant parents selfCounts done { state with ready := id :: ready })
    (hforest : IsForest (parentIn parents) (nodesOf parents))
    (hnonneg : ∀ x ∈ nodesOf parents, 0 ≤ countIn selfCounts x)
    (hbound : ∀ x ∈ nodesOf parents,
      subtreeSum (parentIn parents) (nodesOf parents) (countIn selfCounts) x ≤ i64Max)
    (hparent : parentIn parents id = some parent) :
    inI64 (countIn state.inclusive parent + countIn state.inclusive id) = true := by
  have hready : id ∈ id :: ready := List.mem_cons_self ..
  obtain ⟨hid, hnotDone, hnone⟩ := (hinv.mem_ready id).1 hready
  have hparentNode : parent ∈ nodesOf parents := hinv.closed id hid parent hparent
  have hown : countIn state.inclusive id =
      subtreeSum (parentIn parents) (nodesOf parents) (countIn selfCounts) id :=
    hinv.settled hforest hid hnone
  have hsubtree : ∀ c, 0 ≤ subtreeSum (parentIn parents) (nodesOf parents) (countIn selfCounts) c :=
    fun c => subtreeSum_nonneg hnonneg
  -- what the parent has taken so far is its own count and the sums of its folded children
  have htaken : countIn state.inclusive parent = countIn selfCounts parent +
      ∑ c ∈ (children (parentIn parents) (nodesOf parents) parent).filter (· ∈ done),
        subtreeSum (parentIn parents) (nodesOf parents) (countIn selfCounts) c := by
    rw [show countIn state.inclusive parent = _ from hinv.inclusive parent hparentNode]
    congr 1
    apply Finset.sum_congr rfl
    intro c hc
    obtain ⟨hc, hcdone⟩ := Finset.mem_filter.1 hc
    exact hinv.settled hforest (mem_children.1 hc).1 (hinv.finished c hcdone)
  have hfresh : id ∉ (children (parentIn parents) (nodesOf parents) parent).filter (· ∈ done) :=
    fun hmem => hnotDone (Finset.mem_filter.1 hmem).2
  -- with this child it is still a part of the sum below the parent
  have hpart : insert id ((children (parentIn parents) (nodesOf parents) parent).filter (· ∈ done)) ⊆
      children (parentIn parents) (nodesOf parents) parent :=
    Finset.insert_subset (mem_children.2 ⟨hid, hparent⟩) (Finset.filter_subset _ _)
  have hsum := Finset.sum_le_sum_of_subset_of_nonneg hpart fun c _ _ => hsubtree c
  rw [Finset.sum_insert hfresh] at hsum
  have htotal := hbound parent hparentNode
  rw [hforest.subtreeSum_eq hparentNode] at htotal
  have hparentNonneg := hnonneg parent hparentNode
  have hothers := Finset.sum_nonneg fun c (_ : c ∈ (children (parentIn parents) (nodesOf parents)
    parent).filter (· ∈ done)) => hsubtree c
  have hid' := hsubtree id
  rw [htaken, hown]
  apply inI64_of_nonneg
  · linarith
  · linarith

theorem foldReady_isSome {fuel : ℕ} (hinv : FoldInvariant parents selfCounts done state)
    (hforest : IsForest (parentIn parents) (nodesOf parents))
    (hnonneg : ∀ x ∈ nodesOf parents, 0 ≤ countIn selfCounts x)
    (hbound : ∀ x ∈ nodesOf parents,
      subtreeSum (parentIn parents) (nodesOf parents) (countIn selfCounts) x ≤ i64Max)
    (hfuel : done.length + fuel = parents.len) :
    ∃ final, foldReady parents fuel state = some final := by
  -- on the fuel: each turn folds one node, so it lasts until all nodes are done
  induction fuel generalizing done state with
  | zero =>
    have hall := hinv.mem_done_of_visited (hinv.visited.trans hfuel)
    have hempty : state.ready = [] := by
      apply List.eq_nil_iff_forall_not_mem.2
      intro x hx
      obtain ⟨hxnode, hxdone, -⟩ := (hinv.mem_ready x).1 hx
      exact hxdone (hall x hxnode)
    exact ⟨state, if_pos hempty⟩
  | succ fuel ih =>
    unfold foldReady
    split
    · exact ⟨state, rfl⟩
    · next id ready hready =>
      have hinv : FoldInvariant parents selfCounts done { state with ready := id :: ready } :=
        hready ▸ hinv
      have hfuel' : (id :: done).length + fuel = parents.len := by
        rw [List.length_cons]
        omega
      rcases hparent : parentIn parents id with _ | parent
      · obtain ⟨hturn, hkept⟩ := foldReadyNode_root hinv hparent
        rw [hturn]
        exact ih hkept hfuel'
      · rw [foldReadyNode_eq hinv hparent, if_pos (hinv.inI64_add hforest hnonneg hbound hparent)]
        exact ih (foldReadyNode_child hinv hparent) hfuel'

theorem mem_done_of_ready_nil (hinv : FoldInvariant parents selfCounts done state)
    (hforest : IsForest (parentIn parents) (nodesOf parents)) (hempty : state.ready = []) {x : Id}
    (hx : x ∈ nodesOf parents) : x ∈ done := by
  induction hcard : (subtree (parentIn parents) (nodesOf parents) x).card using
    Nat.strong_induction_on generalizing x with
  | _ card ih =>
    subst hcard
    by_contra hnotDone
    have hnone : pending parents done x = ∅ := by
      apply Finset.eq_empty_of_forall_notMem
      intro c hc
      obtain ⟨hcnode, hcparent, hcdone⟩ := mem_pending.1 hc
      exact hcdone (ih _ (hforest.card_subtree_lt hcnode hcparent) hcnode rfl)
    have hready := (hinv.mem_ready x).2 ⟨hx, hnotDone, hnone⟩
    rw [hempty] at hready
    exact List.not_mem_nil hready

theorem visited_eq_len (hinv : FoldInvariant parents selfCounts done state)
    (hall : ∀ x ∈ nodesOf parents, x ∈ done) : state.visited = parents.len := by
  have hsame : done.toFinset = nodesOf parents := by
    apply Finset.Subset.antisymm
    · exact fun x hx => hinv.known x (List.mem_toFinset.1 hx)
    · exact fun x hx => List.mem_toFinset.2 (hall x hx)
  rw [hinv.visited, ← card_nodesOf, ← hsame, List.toFinset_card_of_nodup hinv.nodup]

end FoldInvariant

theorem parentIn_eq_some : parentIn parents id = some parent ↔ (id, some parent) ∈ parents.entries := by
  rw [parentIn, Option.join_eq_some_iff, HashMap.get?_eq_some]

theorem card_children : (children (parentIn parents) (nodesOf parents) id).card =
    parents.values.count (some id) := by
  have hset : children (parentIn parents) (nodesOf parents) id =
      ((parents.entries.filter (·.2 = some id)).map Prod.fst).toFinset := by
    ext c
    rw [mem_children, List.mem_toFinset, List.mem_map, parentIn_eq_some]
    constructor
    · rintro ⟨-, hc⟩
      exact ⟨(c, some id), List.mem_filter.2 ⟨hc, by simp⟩, rfl⟩
    · rintro ⟨⟨c', parent⟩, hmem, rfl⟩
      obtain ⟨hentry, hparent⟩ := List.mem_filter.1 hmem
      obtain rfl : parent = some id := by simpa using hparent
      exact ⟨mem_nodesOf.2 (List.mem_map_of_mem hentry), hentry⟩
  have hnodup : ((parents.entries.filter (·.2 = some id)).map Prod.fst).Nodup :=
    parents.nodup.sublist (List.filter_sublist.map Prod.fst)
  rw [hset, List.toFinset_card_of_nodup hnodup, List.length_map, ← List.countP_eq_length_filter,
    HashMap.values, List.count, List.countP_map]
  apply List.countP_congr
  intro e _
  simp

theorem foldlM_countChild {values : List (Option Id)} {remaining final : HashMap Id ℕ}
    (hresult : values.foldlM countChild remaining = some final) :
    (∀ parent, some parent ∈ values → parent ∈ remaining.keys) ∧
      ∀ id, final.get? id = (remaining.get? id).map (· + values.count (some id)) := by
  induction values generalizing remaining with
  | nil =>
    obtain rfl := Option.some.inj hresult
    exact ⟨fun parent hmem => absurd hmem List.not_mem_nil, fun id => by simp⟩
  | cons value values ih =>
    rw [List.foldlM_cons] at hresult
    obtain ⟨next, hnext, hrest⟩ := Option.bind_eq_some_iff.1 hresult
    obtain ⟨hclosed, hcounts⟩ := ih hrest
    cases value with
    | none =>
      obtain rfl := Option.some.inj hnext
      refine ⟨fun parent hmem => hclosed parent ?_, fun id => ?_⟩
      · exact (List.mem_cons.1 hmem).resolve_left fun h => by cases h
      · have hne : (none : Option Id) ≠ some id := fun h => by cases h
        rw [hcounts id, List.count_cons_of_ne hne]
    | some parent =>
      obtain ⟨waiting, hwaiting, rfl⟩ := Option.map_eq_some_iff.1 hnext
      have hparent : parent ∈ remaining.keys := HashMap.mem_keys.2 ⟨waiting, hwaiting⟩
      refine ⟨fun other hmem => ?_, fun id => ?_⟩
      · rcases List.mem_cons.1 hmem with heq | hmem
        · exact Option.some.inj heq ▸ hparent
        · rcases HashMap.mem_keys_insert.1 (hclosed other hmem) with rfl | hother
          · exact hparent
          · exact hother
      · rw [hcounts id, HashMap.get?_insert]
        by_cases hid : id = parent
        · subst hid
          rw [if_pos rfl, hwaiting, List.count_cons_self]
          show some (waiting + 1 + values.count (some id)) = some (waiting + (values.count (some id) + 1))
          exact congrArg some (by omega)
        · rw [if_neg hid, List.count_cons_of_ne fun heq => hid (Option.some.inj heq).symm]

theorem foldlM_countChild_isSome {values : List (Option Id)} {remaining : HashMap Id ℕ}
    (hclosed : ∀ parent, some parent ∈ values → parent ∈ remaining.keys) :
    ∃ final, values.foldlM countChild remaining = some final := by
  induction values generalizing remaining with
  | nil => exact ⟨remaining, rfl⟩
  | cons value values ih =>
    rw [List.foldlM_cons]
    cases value with
    | none => exact ih fun parent hmem => hclosed parent (List.mem_cons_of_mem _ hmem)
    | some parent =>
      obtain ⟨waiting, hwaiting⟩ := HashMap.mem_keys.1 (hclosed parent (List.mem_cons_self ..))
      have hnext : countChild remaining (some parent) =
          some (remaining.insert parent (waiting + 1)) := by
        rw [countChild, hwaiting]
        rfl
      rw [hnext]
      exact ih fun other hmem =>
        HashMap.mem_keys_insert.2 (.inr (hclosed other (List.mem_cons_of_mem _ hmem)))

section Start
variable {order : IterationOrder Site} {site : Site}

theorem get?_collect_zero : (HashMap.collect ((parents.iter order site).map fun e => (e.1, 0))).get?
    id = if id ∈ parents.keys then some 0 else none := by
  have hkeys : ((parents.iter order site).map fun e => (e.1, 0)).map Prod.fst =
      (parents.iter order site).map Prod.fst := by
    rw [List.map_map]
    rfl
  have hperm := (parents.iter_perm order site).map Prod.fst
  have hnodup : (((parents.iter order site).map fun e => (e.1, 0)).map Prod.fst).Nodup := by
    rw [hkeys]
    exact hperm.nodup_iff.2 parents.nodup
  split
  · next hmem =>
    rw [HashMap.get?_collect hnodup]
    obtain ⟨e, he, rfl⟩ := List.mem_map.1 (hperm.mem_iff.2 hmem)
    exact List.mem_map_of_mem he
  · next hmem =>
    rw [HashMap.get?_eq_none, HashMap.keys_collect hnodup, hkeys]
    exact fun h => hmem (hperm.mem_iff.1 h)

theorem foldInvariant_start {remaining : HashMap Id ℕ}
    (hkeys : ∀ id ∈ parents.keys, id ∈ selfCounts.keys)
    (hremaining : ((parents.iter order site).map Prod.snd).foldlM countChild
      (HashMap.collect ((parents.iter order site).map fun e => (e.1, 0))) = some remaining) :
    FoldInvariant parents selfCounts [] ⟨((remaining.iter order site).filterMap fun e =>
      if e.2 = 0 then some e.1 else none).reverse, selfCounts, remaining, 0⟩ := by
  obtain ⟨hclosed, hcounts⟩ := foldlM_countChild hremaining
  have hvalues : ((parents.iter order site).map Prod.snd).Perm parents.values :=
    (parents.iter_perm order site).map Prod.snd
  -- nothing is folded yet, so every node waits for all its children
  have hwaiting : ∀ id, remaining.get? id =
      if id ∈ parents.keys then some (pending parents [] id).card else none := by
    intro id
    have hpending : pending parents [] id = children (parentIn parents) (nodesOf parents) id :=
      Finset.filter_true_of_mem fun _ _ => List.not_mem_nil
    rw [hcounts id, get?_collect_zero, hpending, card_children, hvalues.count_eq]
    split
    · exact congrArg some (Nat.zero_add _)
    · rfl
  -- the nodes that wait for nothing are the leaves
  have hleaf : ∀ id, id ∈ ((remaining.iter order site).filterMap fun e =>
      if e.2 = 0 then some e.1 else none) ↔ remaining.get? id = some 0 := by
    intro id
    rw [HashMap.get?_eq_some, ← (remaining.iter_perm order site).mem_iff, List.mem_filterMap]
    constructor
    · rintro ⟨⟨id', waiting⟩, hmem, hsome⟩
      dsimp only at hsome
      split at hsome
      · next hzero =>
        obtain rfl := Option.some.inj hsome
        exact hzero ▸ hmem
      · cases hsome
    · intro hmem
      exact ⟨(id, 0), hmem, rfl⟩
  exact {
    closed := by
      intro id _ parent hparent
      have hmem : some parent ∈ parents.values := List.mem_map_of_mem (parentIn_eq_some.1 hparent)
      obtain ⟨start, hzero⟩ := HashMap.mem_keys.1 (hclosed parent (hvalues.mem_iff.2 hmem))
      rw [get?_collect_zero] at hzero
      split at hzero
      · next hkey => exact mem_nodesOf.2 hkey
      · cases hzero
    nodup := .nil
    known := fun id hid => absurd hid List.not_mem_nil
    visited := rfl
    ready_nodup := by
      rw [List.nodup_reverse]
      have hsublist : ((remaining.iter order site).filterMap fun e =>
          if e.2 = 0 then some e.1 else none) =
          ((remaining.iter order site).filter (·.2 = 0)).map Prod.fst := by
        induction remaining.iter order site with
        | nil => rfl
        | cons e es ih => by_cases he : e.2 = 0 <;> simp [he, ih]
      rw [hsublist]
      have hnodup := ((remaining.iter_perm order site).map Prod.fst).nodup_iff.2 remaining.nodup
      exact hnodup.sublist (List.filter_sublist.map Prod.fst)
    mem_ready := by
      intro id
      rw [List.mem_reverse, hleaf, hwaiting, mem_nodesOf]
      split
      · next hkey => simp [hkey]
      · next hkey => simp [hkey]
    remaining := by
      intro id hid
      rw [hwaiting, if_pos (mem_nodesOf.1 hid)]
    counted := fun id hid => HashMap.mem_keys.1 (hkeys id (mem_nodesOf.1 hid))
    inclusive := by
      intro id _
      simp
    finished := fun id hid => absurd hid List.not_mem_nil
    ascending := .nil
    no_loop := fun id hid => absurd hid List.not_mem_nil }

theorem foldInclusiveCounts_eq_some {folded : HashMap Id ℤ}
    (hkeys : ∀ id ∈ parents.keys, id ∈ selfCounts.keys)
    (hresult : foldInclusiveCounts order site parents selfCounts = some folded) :
    IsForest (parentIn parents) (nodesOf parents) ∧ ∀ id ∈ parents.keys, folded.get? id =
      some (subtreeSum (parentIn parents) (nodesOf parents) (countIn selfCounts) id) := by
  obtain ⟨remaining, hremaining, hresult⟩ := Option.bind_eq_some_iff.1 hresult
  obtain ⟨final, hfinal, hresult⟩ := Option.bind_eq_some_iff.1 hresult
  obtain ⟨done, hinv, hempty⟩ := (foldInvariant_start hkeys hremaining).foldReady_some hfinal
  split at hresult
  · next hvisited =>
    obtain rfl := Option.some.inj hresult
    have hall := hinv.mem_done_of_visited hvisited
    have hforest := hinv.isForest hall
    refine ⟨hforest, fun id hid => ?_⟩
    have hnode := mem_nodesOf.2 hid
    rw [← hinv.settled hforest hnode (hinv.finished id (hall id hnode))]
    obtain ⟨count, hcount⟩ := hinv.counted id hnode
    rw [countIn, hcount]
    rfl
  · cases hresult

theorem foldInclusiveCounts_isSome (order : IterationOrder Site) (site : Site)
    (hkeys : ∀ id ∈ parents.keys, id ∈ selfCounts.keys)
    (hforest : IsForest (parentIn parents) (nodesOf parents))
    (hnonneg : ∀ x ∈ parents.keys, 0 ≤ countIn selfCounts x)
    (hbound : ∀ x ∈ parents.keys,
      subtreeSum (parentIn parents) (nodesOf parents) (countIn selfCounts) x ≤ i64Max) :
    ∃ folded, foldInclusiveCounts order site parents selfCounts = some folded := by
  have hclosed : ∀ parent, some parent ∈ (parents.iter order site).map Prod.snd →
      parent ∈ (HashMap.collect ((parents.iter order site).map fun e => (e.1, 0))).keys := by
    intro parent hmem
    obtain ⟨⟨id, parent'⟩, hentry, rfl⟩ := List.mem_map.1 hmem
    have hentry' := (parents.iter_perm order site).mem_iff.1 hentry
    have hnode := hforest.closed id (mem_nodesOf.2 (List.mem_map_of_mem hentry')) parent
      (parentIn_eq_some.2 hentry')
    refine HashMap.mem_keys.2 ⟨0, ?_⟩
    rw [get?_collect_zero, if_pos (mem_nodesOf.1 hnode)]
  obtain ⟨remaining, hremaining⟩ := foldlM_countChild_isSome hclosed
  have hstart := foldInvariant_start hkeys hremaining
  have hnonneg' : ∀ x ∈ nodesOf parents, 0 ≤ countIn selfCounts x :=
    fun x hx => hnonneg x (mem_nodesOf.1 hx)
  have hbound' : ∀ x ∈ nodesOf parents,
      subtreeSum (parentIn parents) (nodesOf parents) (countIn selfCounts) x ≤ i64Max :=
    fun x hx => hbound x (mem_nodesOf.1 hx)
  -- neither an overflow nor a node that is left over: the loop folds all of them
  obtain ⟨final, hfinal⟩ := hstart.foldReady_isSome hforest hnonneg' hbound' (Nat.zero_add _)
  obtain ⟨done, hinv, hempty⟩ := hstart.foldReady_some hfinal
  have hvisited := hinv.visited_eq_len fun x hx => hinv.mem_done_of_ready_nil hforest hempty hx
  refine ⟨final.inclusive, ?_⟩
  unfold foldInclusiveCounts
  simp only [hremaining, hfinal, Option.bind_eq_bind, Option.bind_some, hvisited, if_true]

end Start

variable {complete path found starts : List Id}

theorem climb_ok {fuel : ℕ} {current : Option Id}
    (hcomplete : ∀ x ∈ complete, Grounded (parentIn parents) x)
    (hresult : climb parents complete fuel path current = .ok found) :
    (∀ node, current = some node → Grounded (parentIn parents) node) ∧
      ∃ new, found = new ++ path ∧ ∀ x ∈ new, Grounded (parentIn parents) x := by
  -- on the fuel, up the path: the nodes it adds are grounded if their parents are
  induction fuel generalizing path current with
  | zero =>
    cases current with
    | none =>
      obtain rfl := Except.ok.inj hresult
      exact ⟨nofun, [], rfl, fun x hx => absurd hx List.not_mem_nil⟩
    | some node => cases hresult
  | succ fuel ih =>
    cases current with
    | none =>
      obtain rfl := Except.ok.inj hresult
      exact ⟨nofun, [], rfl, fun x hx => absurd hx List.not_mem_nil⟩
    | some node =>
      unfold climb at hresult
      split at hresult
      · next hmem =>
        obtain rfl := Except.ok.inj hresult
        refine ⟨?_, [], rfl, fun x hx => absurd hx List.not_mem_nil⟩
        rintro _ ⟨⟩
        exact hcomplete node hmem
      · split at hresult
        · cases hresult
        · obtain ⟨hparent, new, rfl, hnew⟩ := ih hresult
          have hnode : Grounded (parentIn parents) node := by
            rcases hup : parentIn parents node with _ | parent
            · exact .root hup
            · exact .up hup (hparent parent hup)
          refine ⟨?_, new ++ [node], by simp, ?_⟩
          · rintro _ ⟨⟩
            exact hnode
          · intro x hx
            rcases List.mem_append.1 hx with hx | hx
            · exact hnew x hx
            · exact List.mem_singleton.1 hx ▸ hnode

/-- From a grounded node the climb neither repeats a node nor runs out of fuel. -/
theorem climb_of_grounded {fuel : ℕ} {current : Option Id}
    (hgrounded : ∀ node, current = some node → Grounded (parentIn parents) node)
    (hnodup : path.Nodup) (hknown : ∀ x ∈ path, ∃ parent, parentIn parents x = some parent)
    (hbelow : ∀ x ∈ path, ∀ node, current = some node →
      ∃ parent, parentIn parents x = some parent ∧ Below (parentIn parents) parent node)
    (hfuel : parents.len < path.length + fuel) :
    ∃ found, climb parents complete fuel path current = .ok found := by
  -- the path holds distinct known nodes
  have hpath : path.length ≤ parents.len := by
    rw [HashMap.len_eq]
    refine (List.subperm_of_subset hnodup ?_).length_le
    intro x hx
    obtain ⟨parent, hparent⟩ := hknown x hx
    exact List.mem_map_of_mem (parentIn_eq_some.1 hparent)
  induction fuel generalizing path current with
  | zero => exact absurd hfuel (Nat.not_lt.2 hpath)
  | succ fuel ih =>
    cases current with
    | none => exact ⟨path, rfl⟩
    | some node =>
      have hnode := hgrounded node rfl
      unfold climb
      split
      · exact ⟨path, rfl⟩
      -- a node met twice would lie above itself
      · have hfresh : node ∉ path := by
          intro hmem
          obtain ⟨parent, hparent, hcycle⟩ := hbelow node hmem node rfl
          exact hnode.not_below_parent hparent hcycle
        rw [if_neg hfresh]
        rcases hup : parentIn parents node with _ | parent
        · exact ⟨node :: path, by cases fuel <;> rfl⟩
        · have hknown' : ∀ x ∈ node :: path, ∃ parent, parentIn parents x = some parent := by
            intro x hx
            rcases List.mem_cons.1 hx with rfl | hx
            · exact ⟨parent, hup⟩
            · exact hknown x hx
          refine ih ?_ (List.nodup_cons.2 ⟨hfresh, hnodup⟩) hknown' ?_ ?_ ?_
          · rintro _ ⟨⟩
            exact hnode.of_below (.single hup)
          · rintro x hx _ ⟨⟩
            rcases List.mem_cons.1 hx with rfl | hx
            · exact ⟨parent, hup, .refl parent⟩
            · obtain ⟨next, hnext, hreach⟩ := hbelow x hx node rfl
              exact ⟨next, hnext, hreach.trans (.single hup)⟩
          · rw [List.length_cons]
            omega
          · rw [HashMap.len_eq]
            refine (List.subperm_of_subset (List.nodup_cons.2 ⟨hfresh, hnodup⟩) ?_).length_le
            intro x hx
            obtain ⟨parent, hparent⟩ := hknown' x hx
            exact List.mem_map_of_mem (parentIn_eq_some.1 hparent)

theorem firstCycleFrom_eq_none
    (hcomplete : ∀ x ∈ complete, Grounded (parentIn parents) x) :
    firstCycleFrom parents complete starts = none ↔
      ∀ x ∈ starts, Grounded (parentIn parents) x := by
  induction starts generalizing complete with
  | nil => simp [firstCycleFrom]
  | cons start starts ih =>
    rw [List.forall_mem_cons]
    unfold firstCycleFrom
    split
    · next hmem =>
      rw [ih hcomplete]
      exact ⟨fun h => ⟨hcomplete start hmem, h⟩, fun h => h.2⟩
    · split
      · next node hclimb =>
        refine iff_of_false nofun fun h => ?_
        -- the climb failed, although a grounded start never fails
        have hfound : ∃ found, climb parents complete (parents.len + 2) [] (some start) =
            .ok found := by
          refine climb_of_grounded ?_ .nil (fun x hx => absurd hx List.not_mem_nil)
            (fun x hx => absurd hx List.not_mem_nil) ?_
          · rintro _ ⟨⟩
            exact h.1
          · rw [List.length_nil]
            omega
        rw [hclimb] at hfound
        obtain ⟨found, ⟨⟩⟩ := hfound
      · next path hclimb =>
        obtain ⟨hstart, new, rfl, hnew⟩ := climb_ok hcomplete hclimb
        rw [ih]
        · exact ⟨fun h => ⟨hstart start rfl, h⟩, fun h => h.2⟩
        · intro x hx
          rcases List.mem_append.1 hx with hx | hx
          · rw [List.append_nil] at hx
            exact hnew x hx
          · exact hcomplete x hx

theorem firstCycle_eq_none :
    firstCycle parents starts = none ↔ ∀ x ∈ starts, Grounded (parentIn parents) x :=
  firstCycleFrom_eq_none fun _ hx => absurd hx List.not_mem_nil

end Invariant
end Walks
end DeltaFunnel
