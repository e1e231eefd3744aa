import Mathlib.Data.List.Nodup
import Mathlib.Data.List.Perm.Basic

/-! Hash maps: one value for each key, iterated in an order that nothing is known about. -/

namespace Collections

/-- Keys with their values, in the order of first insertion. -/
structure HashMap (K V : Type) where
  entries : List (K × V)
  nodup : (entries.map Prod.fst).Nodup

/-- The orders in which the maps of a program are iterated, each map being a site of its own. -/
structure IterationOrder (Site : Type) where
  arrange : Site → {α : Type} → List α → List α
  perm : ∀ (site : Site) {α : Type} (xs : List α), (arrange site xs).Perm xs

def IterationOrder.inserted (Site : Type) : IterationOrder Site where
  arrange _ _ xs := xs
  perm _ _ xs := .refl xs

namespace HashMap
variable {K V Site : Type}

def empty : HashMap K V := ⟨[], .nil⟩

def keys (m : HashMap K V) : List K := m.entries.map Prod.fst

def values (m : HashMap K V) : List V := m.entries.map Prod.snd

def len (m : HashMap K V) : ℕ := m.entries.length

def iter (order : IterationOrder Site) (site : Site) (m : HashMap K V) : List (K × V) :=
  order.arrange site m.entries

theorem iter_perm (order : IterationOrder Site) (site : Site) (m : HashMap K V) :
    (m.iter order site).Perm m.entries := order.perm site m.entries

theorem nodup_keys (m : HashMap K V) : m.keys.Nodup := m.nodup

theorem len_eq (m : HashMap K V) : m.len = m.keys.length := (List.length_map Prod.fst).symm

variable [DecidableEq K]

def get? (m : HashMap K V) (k : K) : Option V := (m.entries.find? (·.1 = k)).map Prod.snd

def contains (m : HashMap K V) (k : K) : Bool := (m.get? k).isSome

theorem map_fst_replace (entries : List (K × V)) (k : K) (v : V) :
    (entries.map fun e => if e.1 = k then (k, v) else e).map Prod.fst = entries.map Prod.fst := by
  rw [List.map_map]
  apply List.map_congr_left
  intro e _
  by_cases he : e.1 = k
  · simp [he]
  · simp [he]

/-- The value of an existing key is replaced where it stands. -/
def insert (m : HashMap K V) (k : K) (v : V) : HashMap K V :=
  if h : k ∈ m.keys then
    ⟨m.entries.map fun e => if e.1 = k then (k, v) else e, by
      rw [map_fst_replace]
      exact m.nodup⟩
  else
    ⟨m.entries ++ [(k, v)], by
      rw [List.map_append, List.nodup_append]
      refine ⟨m.nodup, List.nodup_singleton k, ?_⟩
      intro a ha b hb hab
      have hb' : b = k := List.mem_singleton.1 hb
      have hk : k ∈ m.keys := by
        rw [← hb', ← hab]
        exact ha
      exact h hk⟩

/-- Later entries replace earlier ones of the same key. -/
def collect (xs : List (K × V)) : HashMap K V := xs.foldl (fun m e => m.insert e.1 e.2) empty

theorem get?_eq_some {m : HashMap K V} {k : K} {v : V} :
    m.get? k = some v ↔ (k, v) ∈ m.entries := by
  unfold get?
  rw [Option.map_eq_some_iff]
  constructor
  · rintro ⟨⟨k', v'⟩, hfound, rfl⟩
    have hkey : k' = k := by simpa using List.find?_some hfound
    subst hkey
    exact List.mem_of_find?_eq_some hfound
  · intro hmem
    have hsome : (m.entries.find? (·.1 = k)).isSome := by
      rw [List.find?_isSome]
      exact ⟨(k, v), hmem, by simp⟩
    obtain ⟨e, hfound⟩ := Option.isSome_iff_exists.1 hsome
    have hkey : e.1 = k := by simpa using List.find?_some hfound
    have heq : e = (k, v) :=
      List.inj_on_of_nodup_map m.nodup (List.mem_of_find?_eq_some hfound) hmem hkey
    exact ⟨e, hfound, by rw [heq]⟩

theorem get?_eq_none {m : HashMap K V} {k : K} : m.get? k = none ↔ k ∉ m.keys := by
  rw [Option.eq_none_iff_forall_ne_some]
  constructor
  · intro hnone hmem
    obtain ⟨⟨k', v⟩, he, rfl⟩ := List.mem_map.1 hmem
    exact hnone v (get?_eq_some.2 he)
  · intro hkey v hsome
    exact hkey (List.mem_map_of_mem (get?_eq_some.1 hsome))

theorem mem_keys {m : HashMap K V} {k : K} : k ∈ m.keys ↔ ∃ v, m.get? k = some v := by
  rw [← Option.isSome_iff_exists, ← not_iff_not, Option.not_isSome_iff_eq_none, get?_eq_none]

theorem contains_iff {m : HashMap K V} {k : K} : m.contains k = true ↔ k ∈ m.keys := by
  rw [mem_keys, contains, Option.isSome_iff_exists]

theorem keys_insert (m : HashMap K V) (k : K) (v : V) :
    (m.insert k v).keys = if k ∈ m.keys then m.keys else m.keys ++ [k] := by
  unfold insert
  split
  · exact map_fst_replace m.entries k v
  · exact List.map_append

theorem mem_keys_insert {m : HashMap K V} {k k' : K} {v : V} :
    k' ∈ (m.insert k v).keys ↔ k' = k ∨ k' ∈ m.keys := by
  rw [keys_insert]
  split
  · next h =>
    constructor
    · exact .inr
    · rintro (rfl | hmem)
      · exact h
      · exact hmem
  · rw [List.mem_append, List.mem_singleton, or_comm]

@[simp] theorem get?_insert (m : HashMap K V) (k k' : K) (v : V) :
    (m.insert k v).get? k' = if k' = k then some v else m.get? k' := by
  split
  · next h =>
    subst h
    rw [get?_eq_some]
    unfold insert
    split
    · next hmem =>
      obtain ⟨e, he, hkey⟩ := List.mem_map.1 hmem
      exact List.mem_map.2 ⟨e, he, if_pos hkey⟩
    · exact List.mem_append_right _ (List.mem_singleton_self _)
  · next h =>
    apply Option.ext
    intro v'
    rw [get?_eq_some, get?_eq_some]
    unfold insert
    split
    · rw [List.mem_map]
      constructor
      · rintro ⟨e, he, heq⟩
        split at heq
        · exact absurd (Prod.mk.inj heq).1.symm h
        · exact heq ▸ he
      · intro he
        exact ⟨(k', v'), he, if_neg h⟩
    · rw [List.mem_append, List.mem_singleton]
      constructor
      · rintro (he | heq)
        · exact he
        · exact absurd (Prod.mk.inj heq).1 h
      · exact .inl

@[simp] theorem get?_empty (k : K) : (empty : HashMap K V).get? k = none := rfl

theorem insert_entries_of_not_mem {m : HashMap K V} {k : K} {v : V} (h : k ∉ m.keys) :
    (m.insert k v).entries = m.entries ++ [(k, v)] := by
  unfold insert
  rw [dif_neg h]

theorem collect_entries {xs : List (K × V)} (hnodup : (xs.map Prod.fst).Nodup) :
    (collect xs).entries = xs := by
  have key : ∀ (m : HashMap K V) (xs : List (K × V)), (xs.map Prod.fst).Nodup →
      (∀ e ∈ xs, e.1 ∉ m.keys) →
      (xs.foldl (fun m e => m.insert e.1 e.2) m).entries = m.entries ++ xs := by
    intro m xs
    induction xs generalizing m with
    | nil => simp
    | cons e xs ih =>
      intro hnodup hnew
      rw [List.map_cons, List.nodup_cons] at hnodup
      have hhead : e.1 ∉ m.keys := hnew e (List.mem_cons_self ..)
      rw [List.foldl_cons, ih (m.insert e.1 e.2) hnodup.2 ?_, insert_entries_of_not_mem hhead]
      · simp
      · intro e' he' hmem
        rcases mem_keys_insert.1 hmem with heq | hmem
        · exact hnodup.1 (heq ▸ List.mem_map_of_mem he')
        · exact hnew e' (List.mem_cons_of_mem _ he') hmem
  exact (key empty xs hnodup (by simp [keys, empty])).trans (List.nil_append xs)

theorem get?_collect {xs : List (K × V)} (hnodup : (xs.map Prod.fst).Nodup) {k : K} {v : V} :
    (collect xs).get? k = some v ↔ (k, v) ∈ xs := by
  rw [get?_eq_some, collect_entries hnodup]

theorem keys_collect {xs : List (K × V)} (hnodup : (xs.map Prod.fst).Nodup) :
    (collect xs).keys = xs.map Prod.fst := by
  rw [keys, collect_entries hnodup]

section Collected
variable {α : Type} {xs : List α} {key : α → K} {value : α → V}

omit [DecidableEq K] in
theorem map_fst_map (xs : List α) (key : α → K) (value : α → V) :
    (xs.map fun x => (key x, value x)).map Prod.fst = xs.map key := by
  rw [List.map_map]
  rfl

theorem keys_collect_map (hnodup : (xs.map key).Nodup) :
    (collect (xs.map fun x => (key x, value x))).keys = xs.map key := by
  have hkeys := map_fst_map xs key value
  rw [keys_collect (hkeys.symm ▸ hnodup), hkeys]

theorem get?_collect_map (hnodup : (xs.map key).Nodup) {x : α} (hmem : x ∈ xs) :
    (collect (xs.map fun x => (key x, value x))).get? (key x) = some (value x) := by
  have hkeys := map_fst_map xs key value
  rw [get?_collect (hkeys.symm ▸ hnodup)]
  exact List.mem_map_of_mem hmem

theorem get?_collect_map_iff (value : α → V) (hnodup : (xs.map key).Nodup) {k : K} {v : V} :
    (collect (xs.map fun x => (key x, value x))).get? k = some v ↔
      ∃ x ∈ xs, key x = k ∧ value x = v := by
  have hkeys := map_fst_map xs key value
  rw [get?_collect (hkeys.symm ▸ hnodup), List.mem_map]
  constructor
  · intro h
    obtain ⟨x, hx, heq⟩ := h
    exact ⟨x, hx, Prod.mk.inj heq⟩
  · intro h
    obtain ⟨x, hx, rfl, rfl⟩ := h
    exact ⟨x, hx, rfl⟩

end Collected

theorem get?_collect_perm {xs ys : List (K × V)} (hperm : xs.Perm ys)
    (hnodup : (xs.map Prod.fst).Nodup) (k : K) : (collect xs).get? k = (collect ys).get? k := by
  apply Option.ext
  intro v
  rw [get?_collect hnodup, get?_collect ((hperm.map Prod.fst).nodup_iff.1 hnodup), hperm.mem_iff]

/-- A run that inserts only new keys lists what it was given. The keys of the result are distinct,
so those given were. -/
theorem entries_of_insert_new {ε α σ : Type} {f : σ → α → Except ε σ} {view : σ → HashMap K V}
    {key : α → K} {value : α → V} (hstep : ∀ s a s', f s a = .ok s' →
      key a ∉ (view s).keys ∧ view s' = (view s).insert (key a) (value a))
    {xs : List α} {s s' : σ} (h : xs.foldlM f s = .ok s') :
    (view s').entries = (view s).entries ++ xs.map fun a => (key a, value a) := by
  induction xs generalizing s with
  | nil =>
    obtain rfl : s = s' := Except.ok.inj h
    simp
  | cons x xs ih =>
    rw [List.foldlM_cons] at h
    rcases hx : f s x with e | t
    · rw [hx] at h
      cases h
    · rw [hx] at h
      obtain ⟨hnew, hinsert⟩ := hstep s x t hx
      rw [ih h, hinsert, insert_entries_of_not_mem hnew]
      simp

theorem perm_of_get?_eq {m m' : HashMap K V} (h : ∀ k, m.get? k = m'.get? k) :
    m.entries.Perm m'.entries := by
  refine (List.perm_ext_iff_of_nodup (List.Nodup.of_map _ m.nodup)
    (List.Nodup.of_map _ m'.nodup)).2 ?_
  rintro ⟨k, v⟩
  rw [← get?_eq_some, ← get?_eq_some, h k]

end HashMap
end Collections
