import DeltaFunnel.Graph.Traversal
import DeltaFunnel.Session.RegistryInvariant

/-! Transitive dependencies of a table: the session's traversal of its lineage, and the paths
in the dependency graph that it finds. -/

namespace DeltaFunnel
open Collections Graph

variable {Provider Schema : Type}

namespace Session

def lineageForDerivedTable (session : Session Provider Schema) (table : LazyTable) :
    Except DeltaFunnelError DerivedTableLineage :=
  if table.kind ≠ .derivedSql then .error (unknownLazyTableError table)
  else
    match session.registeredDerivedTableById table.id with
    | some derived => .ok derived.lineage
    | none =>
      match session.pendingDerivedTableById table.id with
      | some pending => .ok pending.lineage
      | none => .error (unknownLazyTableError table)

def unregisteredDependencyError (name : String) : DeltaFunnelError :=
  .mssqlWorkflowPlanning ("registered derived lineage dependency `" ++
    sanitizeTextForDisplay name ++ "` is not registered in this session")

/-- The recursion over lineage: sources are skipped, a derived table is recorded on its first
visit and its own dependencies follow. -/
def derivedDependencyTraversal (session : Session Provider Schema) :
    Traversal DerivedTableDependency ℕ (List DerivedTableDependency) DeltaFunnelError where
  key
    | .registeredSource _ _ => none
    | .registeredDerived tableId _ => some tableId
  leaf _ dependencies := dependencies
  enter dependency dependencies :=
    match dependency with
    | .registeredSource _ _ => .ok (dependencies, [])
    | .registeredDerived tableId name =>
      match session.registeredDerivedTableById tableId with
      | none => .error (unregisteredDependencyError name)
      | some derived =>
        .ok (BTreeSet.insert DerivedTableDependency.cmp dependency dependencies,
          derived.lineage.directDependencies)

def transitiveRegisteredDerivedDependencies (session : Session Provider Schema)
    (table : LazyTable) : Except DeltaFunnelError (List DerivedTableDependency) :=
  match session.lineageForDerivedTable table with
  | .error error => .error error
  | .ok lineage =>
    -- No more tables than are registered can be nested.
    match session.derivedDependencyTraversal.visit session.derivedTables.length
        lineage.directDependencies ([], []) with
    | some (.ok (_, dependencies)) => .ok dependencies
    | some (.error error) => .error error
    | none => .error (unknownLazyTableError table)

section Lookup
variable {session : Session Provider Schema}

theorem Consistent.derived_ids_nodup (h : session.Consistent) :
    (session.derivedTables.map (·.table.id)).Nodup := by
  have hids := h.ids_nodup
  rw [tableIds, List.append_assoc] at hids
  exact hids.of_append_right.of_append_left

theorem Consistent.derived_nodup (h : session.Consistent) : session.derivedTables.Nodup :=
  h.derived_ids_nodup.of_map

theorem Consistent.derived_eq_of_id (h : session.Consistent)
    {a b : RegisteredDerivedTable Schema} (ha : a ∈ session.derivedTables)
    (hb : b ∈ session.derivedTables) (hid : a.table.id = b.table.id) : a = b :=
  List.inj_on_of_nodup_map h.derived_ids_nodup ha hb hid

theorem Consistent.registeredDerivedTableById_eq (h : session.Consistent)
    {derived : RegisteredDerivedTable Schema} (hmem : derived ∈ session.derivedTables) :
    session.registeredDerivedTableById derived.table.id = some derived := by
  rcases hfound : session.registeredDerivedTableById derived.table.id with _ | found
  · have hnone := List.find?_eq_none.1 hfound derived hmem
    simp at hnone
  · have hfoundMem : found ∈ session.derivedTables := List.mem_of_find?_eq_some hfound
    have hid : found.table.id = derived.table.id := by simpa using List.find?_some hfound
    rw [h.derived_eq_of_id hfoundMem hmem hid]

theorem mem_of_registeredDerivedTableById {tableId : ℕ} {derived : RegisteredDerivedTable Schema}
    (h : session.registeredDerivedTableById tableId = some derived) :
    derived ∈ session.derivedTables ∧ derived.table.id = tableId :=
  ⟨List.mem_of_find?_eq_some h, by simpa using List.find?_some h⟩

theorem Consistent.derived_eq_of_key (h : session.Consistent)
    {a b : RegisteredDerivedTable Schema} (ha : a ∈ session.derivedTables)
    (hb : b ∈ session.derivedTables)
    (hkey : Catalog.tableKey a.name = Catalog.tableKey b.name) : a = b := by
  have hnames := h.names_nodup
  rw [aliasNames, List.map_append] at hnames
  have hkeys := hnames.of_append_right
  rw [List.map_map] at hkeys
  exact List.inj_on_of_nodup_map hkeys ha hb hkey

theorem Consistent.lineageForDerivedTable_registered (h : session.Consistent)
    {derived : RegisteredDerivedTable Schema} (hmem : derived ∈ session.derivedTables) :
    session.lineageForDerivedTable derived.table = .ok derived.lineage := by
  rw [lineageForDerivedTable, (h.derived_sql derived hmem).1, h.registeredDerivedTableById_eq hmem]
  rfl

end Lookup

/-- The registered table `a` reads the derived table `b` directly. -/
def DerivedEdge (session : Session Provider Schema) (a b : ℕ) : Prop :=
  ∃ derived ∈ session.derivedTables, derived.table.id = a ∧
    ∃ name, .registeredDerived b name ∈ derived.lineage.directDependencies

/-- A lineage path leads from the lineage to the derived table `id`. -/
def Reaches (session : Session Provider Schema) (lineage : DerivedTableLineage) (id : ℕ) : Prop :=
  ∃ first name, .registeredDerived first name ∈ lineage.directDependencies ∧
    Relation.ReflTransGen session.DerivedEdge first id

section Paths
variable {session : Session Provider Schema}

theorem Consistent.edge_lt (h : session.Consistent) {a b : ℕ} (hedge : session.DerivedEdge a b) :
    b < a := by
  obtain ⟨derived, hmem, rfl, name, hdependency⟩ := hedge
  exact (h.derived_resolves hmem _ hdependency).lt

theorem Consistent.path_lt (h : session.Consistent) {a b : ℕ}
    (hpath : Relation.TransGen session.DerivedEdge a b) : b < a := by
  induction hpath with
  | single hedge => exact h.edge_lt hedge
  | tail _ hedge ih => exact (h.edge_lt hedge).trans ih

theorem Consistent.reaches_iff (h : session.Consistent) {derived : RegisteredDerivedTable Schema}
    (hmem : derived ∈ session.derivedTables) {id : ℕ} :
    session.Reaches derived.lineage id ↔
      Relation.TransGen session.DerivedEdge derived.table.id id := by
  constructor
  · rintro ⟨first, name, hdependency, hpath⟩
    exact Relation.TransGen.head' ⟨derived, hmem, rfl, name, hdependency⟩ hpath
  · intro hpath
    obtain ⟨first, hedge, hrest⟩ := Relation.TransGen.head'_iff.1 hpath
    obtain ⟨found, hfound, hid, name, hdependency⟩ := hedge
    rw [h.derived_eq_of_id hfound hmem hid] at hdependency
    exact ⟨first, name, hdependency, hrest⟩

theorem Reaches.trans {lineage : DerivedTableLineage} {a b : ℕ} (h : session.Reaches lineage a)
    (hpath : Relation.ReflTransGen session.DerivedEdge a b) : session.Reaches lineage b := by
  obtain ⟨first, name, hdependency, hfirst⟩ := h
  exact ⟨first, name, hdependency, hfirst.trans hpath⟩

theorem Consistent.path_earlier (h : session.Consistent) {a b : ℕ}
    (hpath : Relation.TransGen session.DerivedEdge a b) {derived : RegisteredDerivedTable Schema}
    {before after : List (RegisteredDerivedTable Schema)} (hid : derived.table.id = a)
    (hsplit : session.derivedTables = before ++ derived :: after) :
    ∃ earlier ∈ before, earlier.table.id = b := by
  have hstep : ∀ {derived before after b}, session.derivedTables = before ++ derived :: after →
      session.DerivedEdge derived.table.id b → ∃ earlier ∈ before, earlier.table.id = b := by
    rintro derived before after b hsplit ⟨found, hfound, hid, name, hdependency⟩
    have hmem : derived ∈ session.derivedTables := by simp [hsplit]
    rw [h.derived_eq_of_id hfound hmem hid] at hdependency
    obtain ⟨-, earlier, hearlier, hid, -⟩ := h.ordered before derived after hsplit _ hdependency
    exact ⟨earlier, hearlier, hid⟩
  induction hpath with
  | single hedge =>
    rw [← hid] at hedge
    exact hstep hsplit hedge
  | tail _ hedge ih =>
    obtain ⟨middle, hmiddle, rfl⟩ := ih
    obtain ⟨first, rest, rfl⟩ := List.append_of_mem hmiddle
    rw [List.append_assoc, List.cons_append] at hsplit
    obtain ⟨earlier, hearlier, hid⟩ := hstep hsplit hedge
    exact ⟨earlier, List.mem_append_left _ hearlier, hid⟩

theorem Consistent.registration_order (h : session.Consistent) :
    session.derivedTables.Pairwise fun earlier later =>
      ¬Relation.TransGen session.DerivedEdge earlier.table.id later.table.id := by
  rw [List.pairwise_iff_getElem]
  intro i j hi hj hij hpath
  have hsplit : session.derivedTables = session.derivedTables.take i ++
      session.derivedTables[i] :: session.derivedTables.drop (i + 1) := by
    rw [← List.drop_eq_getElem_cons hi, List.take_append_drop]
  obtain ⟨found, hfound, hid⟩ := h.path_earlier hpath rfl hsplit
  have heq := h.derived_eq_of_id (List.mem_of_mem_take hfound) (List.getElem_mem hj) hid
  have hlater : found ∈ session.derivedTables.drop i := by
    rw [heq, List.mem_drop_iff_getElem]
    refine ⟨j - i, by omega, ?_⟩
    simp only [Nat.add_sub_cancel' hij.le]
  exact List.disjoint_take_drop h.derived_nodup le_rfl hfound hlater

/-- The dependencies to follow from a registered table. -/
def dependenciesOf (session : Session Provider Schema) (tableId : ℕ) :
    List DerivedTableDependency :=
  match session.registeredDerivedTableById tableId with
  | some derived => derived.lineage.directDependencies
  | none => []

/-- The recorded dependencies are those of the visited tables. -/
def Recorded (visited : List ℕ) (dependencies : List DerivedTableDependency) : Prop :=
  ∀ id, id ∈ visited ↔ ∃ name, .registeredDerived id name ∈ dependencies

theorem Consistent.edge_iff (h : session.Consistent) {a b : ℕ} :
    session.derivedDependencyTraversal.Edge session.dependenciesOf a b ↔
      session.DerivedEdge a b := by
  constructor
  · rintro ⟨dependency, hdependency, hkey⟩
    unfold dependenciesOf at hdependency
    split at hdependency
    · next derived hfound =>
      obtain ⟨hmem, hid⟩ := mem_of_registeredDerivedTableById hfound
      cases dependency with
      | registeredSource tableId name => cases hkey
      | registeredDerived tableId name =>
        cases hkey
        exact ⟨derived, hmem, hid, name, hdependency⟩
    · cases hdependency
  · rintro ⟨derived, hmem, rfl, name, hdependency⟩
    refine ⟨.registeredDerived b name, ?_, rfl⟩
    rw [dependenciesOf, h.registeredDerivedTableById_eq hmem]
    exact hdependency

def derivedIds (session : Session Provider Schema) : Finset ℕ :=
  (session.derivedTables.map fun derived => derived.table.id).toFinset

theorem mem_derivedIds {id : ℕ} :
    id ∈ session.derivedIds ↔ ∃ derived ∈ session.derivedTables, derived.table.id = id := by
  simp [derivedIds]

theorem Consistent.traversal_closed (h : session.Consistent) :
    session.derivedDependencyTraversal.Closed session.derivedIds session.dependenciesOf
      Recorded where
  enter := by
    intro dependency dependencies id hkey hid
    cases dependency with
    | registeredSource tableId name => cases hkey
    | registeredDerived tableId name =>
      cases hkey
      obtain ⟨derived, hmem, rfl⟩ := mem_derivedIds.1 hid
      refine ⟨BTreeSet.insert DerivedTableDependency.cmp
        (.registeredDerived derived.table.id name) dependencies, ?_, ?_⟩
      · simp only [derivedDependencyTraversal, dependenciesOf,
          h.registeredDerivedTableById_eq hmem]
      · intro visited hrecorded id
        rw [List.mem_cons, hrecorded id]
        simp only [BTreeSet.mem_insert DerivedTableDependency.eq_of_cmp_eq]
        constructor
        · rintro (rfl | ⟨other, hother⟩)
          · exact ⟨name, .inl rfl⟩
          · exact ⟨other, .inr hother⟩
        · rintro ⟨other, heq | hother⟩
          · cases heq
            exact .inl rfl
          · exact .inr ⟨other, hother⟩
  leaf := fun _ _ _ _ hrecorded => hrecorded
  children := by
    intro id hid dependency hdependency id' hkey
    obtain ⟨derived, hmem, rfl⟩ := mem_derivedIds.1 hid
    rw [dependenciesOf, h.registeredDerivedTableById_eq hmem] at hdependency
    cases dependency with
    | registeredSource tableId name => cases hkey
    | registeredDerived tableId name =>
      cases hkey
      obtain ⟨-, target, htarget, hid, -⟩ := h.derived_resolves hmem _ hdependency
      exact mem_derivedIds.2 ⟨target, htarget, hid⟩

theorem Consistent.lineage_resolves (h : session.Consistent) {table : LazyTable}
    {lineage : DerivedTableLineage} (hlineage : session.lineageForDerivedTable table = .ok lineage) :
    LineageResolves session.sources session.derivedTables table.id lineage := by
  unfold lineageForDerivedTable at hlineage
  split_ifs at hlineage
  split at hlineage
  · next derived hfound =>
    cases hlineage
    obtain ⟨hmem, hid⟩ := mem_of_registeredDerivedTableById hfound
    rw [← hid]
    exact h.derived_resolves hmem
  · split at hlineage
    · next pending hfound =>
      cases hlineage
      have hmem : pending ∈ session.pendingDerivedTables := List.mem_of_find?_eq_some hfound
      have hid : pending.table.id = table.id := by simpa using List.find?_some hfound
      rw [← hid]
      exact h.pending_resolves pending hmem
    · cases hlineage

/-- **The traversal of a consistent session** never fails and lists exactly the derived tables
that lineage paths lead to. -/
theorem Consistent.transitive_eq_ok (h : session.Consistent) {table : LazyTable}
    {lineage : DerivedTableLineage} (hlineage : session.lineageForDerivedTable table = .ok lineage) :
    ∃ dependencies, session.transitiveRegisteredDerivedDependencies table = .ok dependencies ∧
      ∀ id, (∃ name, .registeredDerived id name ∈ dependencies) ↔ session.Reaches lineage id := by
  have hfuel : (session.derivedIds \ ([] : List ℕ).toFinset).card ≤
      session.derivedTables.length := by
    rw [List.toFinset_nil, Finset.sdiff_empty]
    refine (List.toFinset_card_le _).trans ?_
    rw [List.length_map]
  have hknown : ∀ dependency ∈ lineage.directDependencies, ∀ id,
      session.derivedDependencyTraversal.key dependency = some id → id ∈ session.derivedIds := by
    intro dependency hdependency id hkey
    cases dependency with
    | registeredSource tableId name => cases hkey
    | registeredDerived tableId name =>
      cases hkey
      obtain ⟨-, target, htarget, hid, -⟩ := h.lineage_resolves hlineage _ hdependency
      exact mem_derivedIds.2 ⟨target, htarget, hid⟩
  have hnothing : Recorded [] [] := by
    intro id
    simp
  obtain ⟨visited, dependencies, hvisit, hfound, hrecorded⟩ :=
    Traversal.visit_found h.traversal_closed hfuel hknown hnothing
  refine ⟨dependencies, ?_, fun id => ?_⟩
  · simp only [transitiveRegisteredDerivedDependencies, hlineage, hvisit]
  · rw [← hrecorded id, hfound.mem_iff]
    have hedges : session.derivedDependencyTraversal.Edge session.dependenciesOf =
        session.DerivedEdge := by
      funext a b
      exact propext h.edge_iff
    rw [hedges]
    constructor
    · rintro ⟨dependency, hdependency, first, hkey, hpath⟩
      cases dependency with
      | registeredSource tableId name => cases hkey
      | registeredDerived tableId name =>
        cases hkey
        exact ⟨first, name, hdependency, hpath⟩
    · rintro ⟨first, name, hdependency, hpath⟩
      exact ⟨.registeredDerived first name, hdependency, first, rfl, hpath⟩

end Paths
end Session
end DeltaFunnel
