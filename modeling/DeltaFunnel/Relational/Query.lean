import Mathlib.Data.List.Dedup
import Mathlib.Data.Finset.Card
import Mathlib.Logic.Relation
import DeltaFunnel.Collections.Sorting
import Mathlib.Algebra.GroupWithZero.Nat

/-! Queries over tables, which are lists of rows. -/

namespace Relational
open Collections

variable {α β K : Type}

/-- Each row of `left` with each of its matches, or with none when there is no match. -/
def leftJoin (on : α → β → Bool) (left : List α) (right : List β) : List (α × Option β) :=
  left.flatMap fun row =>
    match right.filter (on row) with
    | [] => [(row, none)]
    | found => found.map fun other => (row, some other)

theorem leftJoin_eq_map {on : α → β → Bool} {left : List α} {right : List β}
    {partner : α → Option β}
    (h : ∀ row ∈ left, right.filter (on row) = (partner row).toList) :
    leftJoin on left right = left.map fun row => (row, partner row) := by
  unfold leftJoin
  induction left with
  | nil => rfl
  | cons row left ih =>
    obtain ⟨hrow, hleft⟩ := List.forall_mem_cons.1 h
    rw [List.flatMap_cons, List.map_cons, ih hleft, hrow]
    cases partner row with
    | none => rfl
    | some other => rfl

theorem mem_leftJoin_isNone {on : α → β → Bool} {left : List α} {right : List β}
    {row : α × Option β} :
    row ∈ (leftJoin on left right).filter (·.2.isNone) ↔
      row.1 ∈ left ∧ row.2 = none ∧ ∀ other ∈ right, on row.1 other = false := by
  have hblock : ∀ x : α, row ∈ (match right.filter (on x) with
      | [] => [(x, none)]
      | found => found.map fun other => (x, some other)) ∧ row.2.isNone = true ↔
        row.1 = x ∧ row.2 = none ∧ ∀ other ∈ right, on x other = false := by
    intro x
    cases hfound : right.filter (on x) with
    | nil =>
      have hnone : ∀ other ∈ right, on x other = false := by
        intro other hother
        exact Bool.eq_false_iff.2 (List.filter_eq_nil_iff.1 hfound other hother)
      simp only [List.mem_singleton, Option.isNone_iff_eq_none]
      constructor
      · intro h
        exact ⟨congrArg Prod.fst h.1, h.2, hnone⟩
      · intro h
        exact ⟨Prod.ext h.1 h.2.1, h.2.1⟩
    | cons other found =>
      have hmem : other ∈ right.filter (on x) := by
        rw [hfound]
        exact List.mem_cons_self
      obtain ⟨hother, hon⟩ := List.mem_filter.1 hmem
      constructor
      · intro h
        obtain ⟨partner, -, rfl⟩ := List.mem_map.1 h.1
        cases h.2
      · intro h
        rw [h.2.2 other hother] at hon
        cases hon
  rw [List.mem_filter, leftJoin, List.mem_flatMap]
  constructor
  · intro h
    obtain ⟨⟨x, hx, hrow⟩, hnone⟩ := h
    obtain ⟨heq, hsecond, hon⟩ := (hblock x).1 ⟨hrow, hnone⟩
    rw [heq]
    exact ⟨hx, hsecond, hon⟩
  · intro h
    obtain ⟨hx, hnone, hon⟩ := h
    have hrow := (hblock row.1).2 ⟨rfl, hnone, hon⟩
    exact ⟨⟨row.1, hx, hrow.1⟩, hrow.2⟩

section Groups
variable [DecidableEq K]

def countBy (key : α → K) (rows : List α) : List (K × ℕ) :=
  (rows.map key).dedup.map fun k => (k, rows.countP (key · = k))

def sumBy (key : α → K) (value : α → ℕ) (rows : List α) : List (K × ℕ) :=
  (rows.map key).dedup.map fun k => (k, ((rows.filter (key · = k)).map value).sum)

theorem filter_map_key {V : Type} {keys : List K} (hnodup : keys.Nodup) (value : K → V) (k : K) :
    (keys.map fun k => (k, value k)).filter (fun row => decide (row.1 = k)) =
      if k ∈ keys then [(k, value k)] else [] := by
  have hkeys : keys.filter (fun key => decide (key = k)) = if k ∈ keys then [k] else [] := by
    induction keys with
    | nil => rfl
    | cons key keys ih =>
      obtain ⟨hkey, hkeys⟩ := List.nodup_cons.1 hnodup
      by_cases heq : key = k
      · subst heq
        rw [List.filter_cons_of_pos (by simp), ih hkeys, if_neg hkey]
        simp
      · have hmem : k ∈ key :: keys ↔ k ∈ keys := by simp [Ne.symm heq]
        rw [List.filter_cons_of_neg (by simp [heq]), ih hkeys]
        simp only [hmem]
  rw [List.filter_map]
  show (keys.filter fun key => decide (key = k)).map _ = _
  rw [hkeys]
  split_ifs
  · rfl
  · rfl

theorem filter_countBy (key : α → K) (rows : List α) (k : K) :
    (countBy key rows).filter (fun row => decide (row.1 = k)) =
      if k ∈ rows.map key then [(k, rows.countP (key · = k))] else [] := by
  rw [countBy, filter_map_key (List.nodup_dedup _)]
  simp only [List.mem_dedup]

theorem getD_countBy (key : α → K) (rows : List α) (k : K) :
    ((((countBy key rows).filter fun row => decide (row.1 = k)).head?).map Prod.snd).getD 0 =
      rows.countP (key · = k) := by
  rw [filter_countBy]
  split_ifs with hmem
  · rfl
  · have hzero : rows.countP (fun row => decide (key row = k)) = 0 := by
      apply List.countP_eq_zero.2
      intro row hrow hkey
      exact hmem (List.mem_map.2 ⟨row, hrow, of_decide_eq_true hkey⟩)
    rw [hzero]
    rfl

theorem filter_sumBy (key : α → K) (value : α → ℕ) (rows : List α) (k : K) :
    (sumBy key value rows).filter (fun row => decide (row.1 = k)) =
      if k ∈ rows.map key then [(k, ((rows.filter (key · = k)).map value).sum)] else [] := by
  rw [sumBy, filter_map_key (List.nodup_dedup _)]
  simp only [List.mem_dedup]

theorem getD_sumBy (key : α → K) (value : α → ℕ) (rows : List α) (k : K) :
    ((((sumBy key value rows).filter fun row => decide (row.1 = k)).head?).map Prod.snd).getD 0 =
      ((rows.filter (key · = k)).map value).sum := by
  rw [filter_sumBy]
  split_ifs with hmem
  · rfl
  · have hnone : rows.filter (fun row => decide (key row = k)) = [] := by
      apply List.filter_eq_nil_iff.2
      intro row hrow hkey
      exact hmem (List.mem_map.2 ⟨row, hrow, of_decide_eq_true hkey⟩)
    rw [hnone]
    rfl

theorem filter_countBy_eq_head (key : α → K) (rows : List α) (k : K) :
    (countBy key rows).filter (fun row => decide (row.1 = k)) =
      ((countBy key rows).filter (fun row => decide (row.1 = k))).head?.toList := by
  rw [filter_countBy]
  split_ifs
  · rfl
  · rfl

theorem filter_sumBy_eq_head (key : α → K) (value : α → ℕ) (rows : List α) (k : K) :
    (sumBy key value rows).filter (fun row => decide (row.1 = k)) =
      ((sumBy key value rows).filter (fun row => decide (row.1 = k))).head?.toList := by
  rw [filter_sumBy]
  split_ifs
  · rfl
  · rfl

theorem filter_key_eq_singleton {key : α → K} {rows : List α} (hnodup : (rows.map key).Nodup)
    {row : α} (hrow : row ∈ rows) : rows.filter (key · = key row) = [row] := by
  induction rows with
  | nil => exact absurd hrow List.not_mem_nil
  | cons other rows ih =>
    obtain ⟨hother, hrows⟩ := List.nodup_cons.1 hnodup
    rcases List.mem_cons.1 hrow with heq | hmem
    · have hnone : rows.filter (fun other => decide (key other = key row)) = [] := by
        apply List.filter_eq_nil_iff.2
        intro later hlater hkey
        rw [← heq, ← of_decide_eq_true hkey] at hother
        exact hother (List.mem_map_of_mem hlater)
      rw [← heq, List.filter_cons_of_pos (by simp), hnone]
    · have hne : key other ≠ key row := by
        intro hkey
        rw [hkey] at hother
        exact hother (List.mem_map_of_mem hmem)
      rw [List.filter_cons_of_neg (by simp [hne]), ih hrows hmem]

variable {O : Type} [LinearOrder O]

/-- `row_number() OVER (PARTITION BY partition ORDER BY order)`. -/
def rowNumber (partition : α → K) (order : α → O) (rows : List α) : List (α × ℕ) :=
  (rows.map partition).dedup.flatMap fun k =>
    (sortByKey order (rows.filter (partition · = k))).zipIdx 1

def firstRow (partition : α → K) (order : α → O) (rows : List α) (k : K) : Option α :=
  (sortByKey order (rows.filter (partition · = k))).head?

variable {partition : α → K} {order : α → O} {rows : List α}

theorem firstRow_spec {k : K} {first : α} (h : firstRow partition order rows k = some first) :
    first ∈ rows ∧ partition first = k ∧
      ∀ row ∈ rows, partition row = k → order first ≤ order row := by
  have hperm := sortByKey_perm order (rows.filter (partition · = k))
  have hsorted := sortByKey_pairwise order (rows.filter (partition · = k))
  obtain ⟨tail, htail⟩ := List.head?_eq_some_iff.1 h
  rw [htail] at hperm hsorted
  have hfirst := hperm.mem_iff.1 List.mem_cons_self
  obtain ⟨hmem, hkey⟩ := List.mem_filter.1 hfirst
  refine ⟨hmem, of_decide_eq_true hkey, ?_⟩
  intro row hrow hpartition
  have hsame : row ∈ first :: tail :=
    hperm.mem_iff.2 (List.mem_filter.2 ⟨hrow, decide_eq_true hpartition⟩)
  rcases List.mem_cons.1 hsame with heq | hmem
  · rw [heq]
  · exact (List.pairwise_cons.1 hsorted).1 row hmem

theorem firstRow_eq_none {k : K} :
    firstRow partition order rows k = none ↔ ∀ row ∈ rows, partition row ≠ k := by
  have hperm := sortByKey_perm order (rows.filter (partition · = k))
  unfold firstRow
  rw [List.head?_eq_none_iff]
  constructor
  · intro hempty row hrow hkey
    rw [hempty] at hperm
    have hmem := hperm.mem_iff.2 (List.mem_filter.2 ⟨hrow, decide_eq_true hkey⟩)
    exact List.not_mem_nil hmem
  · intro hne
    have hfilter : rows.filter (partition · = k) = [] := by
      apply List.filter_eq_nil_iff.2
      intro row hrow hkey
      exact hne row hrow (of_decide_eq_true hkey)
    rw [hfilter] at hperm ⊢
    exact List.perm_nil.1 hperm

theorem filter_zipIdx_one (xs : List α) :
    (xs.zipIdx 1).filter (fun row => decide (row.2 = 1)) = xs.head?.toList.map (·, 1) := by
  cases xs with
  | nil => rfl
  | cons x xs =>
    have hlater : (xs.zipIdx 2).filter (fun row => decide (row.2 = 1)) = [] := by
      apply List.filter_eq_nil_iff.2
      intro row hrow
      have hle := List.le_snd_of_mem_zipIdx hrow
      simp only [decide_eq_true_eq]
      omega
    rw [List.zipIdx_cons, List.filter_cons_of_pos (by simp), hlater]
    rfl

theorem flatMap_ite_key {keys : List K} (hnodup : keys.Nodup) (k : K) (found : List β) :
    (keys.flatMap fun key => if key = k then found else []) = if k ∈ keys then found else [] := by
  induction keys with
  | nil => rfl
  | cons key keys ih =>
    obtain ⟨hkey, hkeys⟩ := List.nodup_cons.1 hnodup
    rw [List.flatMap_cons, ih hkeys]
    by_cases heq : key = k
    · subst heq
      simp [hkey]
    · simp [heq, Ne.symm heq]

theorem filter_rowNumber_one (k : K) :
    (rowNumber partition order rows).filter
        (fun row => decide (row.2 = 1) && decide (partition row.1 = k)) =
      (firstRow partition order rows k).toList.map (·, 1) := by
  have hblock : ∀ key, ((sortByKey order (rows.filter (partition · = key))).zipIdx 1).filter
      (fun row => decide (row.2 = 1) && decide (partition row.1 = k)) =
        if key = k then (firstRow partition order rows k).toList.map (·, 1) else [] := by
    intro key
    have hkey : ∀ row ∈ (sortByKey order (rows.filter (partition · = key))).zipIdx 1,
        partition row.1 = key := by
      intro row hrow
      have hmem := (sortByKey_perm order _).mem_iff.1 (List.fst_mem_of_mem_zipIdx hrow)
      exact of_decide_eq_true (List.mem_filter.1 hmem).2
    split_ifs with heq
    · subst heq
      have hsame : ((sortByKey order (rows.filter (partition · = key))).zipIdx 1).filter
          (fun row => decide (row.2 = 1) && decide (partition row.1 = key)) =
            ((sortByKey order (rows.filter (partition · = key))).zipIdx 1).filter
              (fun row => decide (row.2 = 1)) := by
        apply List.filter_congr
        intro row hrow
        rw [decide_eq_true (hkey row hrow), Bool.and_true]
      rw [hsame, filter_zipIdx_one]
      rfl
    · apply List.filter_eq_nil_iff.2
      intro row hrow
      rw [hkey row hrow, decide_eq_false heq, Bool.and_false]
      decide
  have hfun : (fun key => ((sortByKey order (rows.filter (partition · = key))).zipIdx 1).filter
      (fun row => decide (row.2 = 1) && decide (partition row.1 = k))) = fun key =>
        if key = k then (firstRow partition order rows k).toList.map (·, 1) else [] := by
    funext key
    exact hblock key
  rw [rowNumber, List.filter_flatMap, hfun, flatMap_ite_key (List.nodup_dedup _)]
  split_ifs with hmem
  · rfl
  · have hnone : firstRow partition order rows k = none := by
      apply firstRow_eq_none.2
      intro row hrow hrowKey
      exact hmem (List.mem_dedup.2 (List.mem_map.2 ⟨row, hrow, hrowKey⟩))
    rw [hnone]
    rfl

end Groups

section Recursion
variable [DecidableEq α]

/-- `UNION` recursion: what `step` finds from each queued row and was not found before is kept
and queued. -/
def recursiveUnion (step : α → List α) : ℕ → List α → List α → List α
  | 0, _, found => found
  | _ + 1, [], found => found
  | fuel + 1, row :: queue, found =>
    let fresh := ((step row).filter (· ∉ found)).dedup
    recursiveUnion step fuel (queue ++ fresh) (found ++ fresh)

/-- What is found in turn: everything of which the steps are found, or which waits. -/
structure Exploring (step : α → List α) (seeds : List α) (table : Finset α)
    (queue found : List α) : Prop where
  nodup : found.Nodup
  seeds_found : ∀ x ∈ seeds, x ∈ found
  reached : ∀ x ∈ found, ∃ seed ∈ seeds, Relation.ReflTransGen (fun a b => b ∈ step a) seed x
  inside : ∀ x ∈ found, x ∈ table
  queued : ∀ x ∈ queue, x ∈ found
  stepped : ∀ x ∈ found, x ∉ queue → ∀ y ∈ step x, y ∈ found

variable {step : α → List α} {seeds queue found : List α} {table : Finset α}

theorem Exploring.next {row : α}
    (hclosed : ∀ x ∈ table, ∀ y ∈ step x, y ∈ table)
    (h : Exploring step seeds table (row :: queue) found) :
    Exploring step seeds table (queue ++ ((step row).filter (· ∉ found)).dedup)
      (found ++ ((step row).filter (· ∉ found)).dedup) := by
  have hfresh : ∀ x, x ∈ ((step row).filter (· ∉ found)).dedup ↔ x ∈ step row ∧ x ∉ found := by
    intro x
    simp [List.mem_dedup, List.mem_filter]
  have hrow : row ∈ found := h.queued row List.mem_cons_self
  constructor
  · apply h.nodup.append (List.nodup_dedup _)
    intro x hx hx'
    exact ((hfresh x).1 hx').2 hx
  · intro x hx
    exact List.mem_append_left _ (h.seeds_found x hx)
  · intro x hx
    rcases List.mem_append.1 hx with hx | hx
    · exact h.reached x hx
    · obtain ⟨seed, hseed, hpath⟩ := h.reached row hrow
      exact ⟨seed, hseed, hpath.tail ((hfresh x).1 hx).1⟩
  · intro x hx
    rcases List.mem_append.1 hx with hx | hx
    · exact h.inside x hx
    · exact hclosed row (h.inside row hrow) x ((hfresh x).1 hx).1
  · intro x hx
    rcases List.mem_append.1 hx with hx | hx
    · exact List.mem_append_left _ (h.queued x (List.mem_cons_of_mem _ hx))
    · exact List.mem_append_right _ hx
  · intro x hx hqueue y hy
    by_cases hfound : y ∈ found
    · exact List.mem_append_left _ hfound
    · -- only the row that was taken can have led to a new one
      have heq : x = row := by
        by_contra hne
        rcases List.mem_append.1 hx with hx | hx
        · have hwait : x ∉ row :: queue := by
            intro hmem
            rcases List.mem_cons.1 hmem with heq | hmem
            · exact hne heq
            · exact hqueue (List.mem_append_left _ hmem)
          exact hfound (h.stepped x hx hwait y hy)
        · exact hqueue (List.mem_append_right _ hx)
      rw [heq] at hy
      exact List.mem_append_right _ ((hfresh y).2 ⟨hy, hfound⟩)

theorem Exploring.finish {fuel : ℕ} (hclosed : ∀ x ∈ table, ∀ y ∈ step x, y ∈ table)
    (h : Exploring step seeds table queue found)
    (hfuel : queue.length + table.card ≤ fuel + found.length) :
    Exploring step seeds table [] (recursiveUnion step fuel queue found) := by
  induction fuel generalizing queue found with
  | zero =>
    have hcard : found.length ≤ table.card := by
      rw [← List.toFinset_card_of_nodup h.nodup]
      apply Finset.card_le_card
      intro x hx
      exact h.inside x (List.mem_toFinset.1 hx)
    have hempty : queue = [] := List.eq_nil_of_length_eq_zero (by omega)
    rw [hempty] at h
    rw [recursiveUnion]
    exact h
  | succ fuel ih =>
    cases queue with
    | nil => exact h
    | cons row queue =>
      rw [recursiveUnion]
      apply ih (h.next hclosed)
      rw [List.length_append, List.length_append]
      rw [List.length_cons] at hfuel
      omega

/-- With fuel for every row there can be, the recursion finds what is reached, each row once. -/
theorem recursiveUnion_spec {fuel : ℕ} (hseeds : ∀ x ∈ seeds, x ∈ table)
    (hclosed : ∀ x ∈ table, ∀ y ∈ step x, y ∈ table) (hfuel : table.card ≤ fuel) :
    (recursiveUnion step fuel seeds.dedup seeds.dedup).Nodup ∧
      ∀ x, x ∈ recursiveUnion step fuel seeds.dedup seeds.dedup ↔
        ∃ seed ∈ seeds, Relation.ReflTransGen (fun a b => b ∈ step a) seed x := by
  have hstart : Exploring step seeds table seeds.dedup seeds.dedup := by
    constructor
    · exact List.nodup_dedup seeds
    · exact fun x hx => List.mem_dedup.2 hx
    · exact fun x hx => ⟨x, List.mem_dedup.1 hx, .refl⟩
    · exact fun x hx => hseeds x (List.mem_dedup.1 hx)
    · exact fun x hx => hx
    · exact fun x hx hqueue => absurd hx hqueue
  have hend := hstart.finish hclosed (Nat.add_comm _ _ ▸ Nat.add_le_add_right hfuel _)
  refine ⟨hend.nodup, ?_⟩
  intro x
  constructor
  · exact hend.reached x
  · intro h
    obtain ⟨seed, hseed, hpath⟩ := h
    induction hpath with
    | refl => exact hend.seeds_found seed hseed
    | tail _ hstep ih => exact hend.stepped _ ih List.not_mem_nil _ hstep

end Recursion

end Relational
