import DeltaFunnel.Session.Dependencies
import DeltaFunnel.WriteAll.CachedWorkflow

/-! Which Delta sources the outputs read: the recursion that collects them from lineage, the
usage that a report gives every source, and the graph that both follow. -/

namespace DeltaFunnel
open Collections Graph

variable {Provider Schema : Type}

namespace Session

/-- One lineage. A table whose own lineage is incomplete makes the usage unknown and is not
followed; one that was visited before is skipped. -/
def collectSourceDependencies (session : Session Provider Schema)
    (descend : List DerivedTableDependency → List ℕ × List ℕ →
      Option (Except DeltaFunnelError (Bool × List ℕ × List ℕ))) :
    Bool → List DerivedTableDependency → List ℕ × List ℕ →
      Option (Except DeltaFunnelError (Bool × List ℕ × List ℕ))
  | usageKnown, [], found => some (.ok (usageKnown, found))
  | usageKnown, .registeredSource tableId _ :: dependencies, (visited, sources) =>
    collectSourceDependencies session descend usageKnown dependencies
      (visited, BTreeSet.insert compare tableId sources)
  | usageKnown, .registeredDerived tableId name :: dependencies, (visited, sources) =>
    if tableId ∈ visited then
      collectSourceDependencies session descend usageKnown dependencies (visited, sources)
    else
      match session.registeredDerivedTableById tableId with
      | none => some (.error (unregisteredDependencyError name))
      | some derived =>
        if !derived.lineage.isComplete then
          collectSourceDependencies session descend false dependencies
            (tableId :: visited, sources)
        else
          match descend derived.lineage.directDependencies (tableId :: visited, sources) with
          | none => none
          | some (.error error) => some (.error error)
          | some (.ok (known, found)) =>
            collectSourceDependencies session descend (usageKnown && known) dependencies found

/-- `none` once more than `fuel` tables are nested. -/
def collectTransitiveSourceDependencies (session : Session Provider Schema) :
    ℕ → List DerivedTableDependency → List ℕ × List ℕ →
      Option (Except DeltaFunnelError (Bool × List ℕ × List ℕ))
  | 0 => session.collectSourceDependencies (fun _ _ => none) true
  | fuel + 1 =>
    session.collectSourceDependencies (session.collectTransitiveSourceDependencies fuel) true

/-- `none` inside the result stands for unknown usage. -/
def knownSourceDependenciesForTable (session : Session Provider Schema) (table : LazyTable) :
    Except DeltaFunnelError (Option (List ℕ)) := do
  let _ ← session.schemaForLazyTable table
  match table.kind with
  | .deltaSource => return some [table.id]
  | .derivedSql =>
    let lineage ← session.lineageForDerivedTable table
    if !lineage.isComplete then return none
    else
      -- No more tables than are registered can be nested.
      match session.collectTransitiveSourceDependencies session.derivedTables.length
          lineage.directDependencies ([], []) with
      | some (.ok (usageKnown, _, sources)) => return if usageKnown then some sources else none
      | some (.error error) => .error error
      | none => .error (unknownLazyTableError table)

inductive SourceUsageStatus where
  | used
  | notUsed
  | unknown
  deriving DecidableEq, Repr

structure DeltaSourceReport where
  sourceName : String
  usageStatus : SourceUsageStatus
  usedByOutputNames : List String
  deriving DecidableEq, Repr

/-- The outputs with known sources, and whether they are all of them. -/
def outputSources (session : Session Provider Schema) :
    List (String × LazyTable) → Except DeltaFunnelError (List (String × List ℕ) × Bool)
  | [] => .ok ([], true)
  | (outputName, table) :: outputs => do
    let known ← session.knownSourceDependenciesForTable table
    let (sources, allUsageKnown) ← session.outputSources outputs
    match known with
    | some sourceIds => return ((outputName, sourceIds) :: sources, allUsageKnown)
    | none => return (sources, false)

def sourceReport (outputs : List (String × List ℕ)) (allUsageKnown : Bool)
    (source : RegisteredSessionSource Schema) : DeltaSourceReport :=
  let usedByOutputNames :=
    (outputs.filter fun output => output.2.contains source.table.id).map (·.1)
  let usageStatus :=
    if usedByOutputNames.isEmpty then
      if allUsageKnown then .notUsed else .unknown
    else .used
  ⟨source.name, usageStatus, usedByOutputNames⟩

def sourceReportsForOutputTables (session : Session Provider Schema)
    (outputs : List (String × LazyTable)) : Except DeltaFunnelError (List DeltaSourceReport) := do
  let (outputSources, allUsageKnown) ← session.outputSources outputs
  return session.sources.map (sourceReport outputSources allUsageKnown)

/-- Every derived dependency of the lineage is registered. -/
def LineageRegistered (session : Session Provider Schema) (lineage : DerivedTableLineage) : Prop :=
  ∀ id name, .registeredDerived id name ∈ lineage.directDependencies →
    (session.registeredDerivedTableById id).isSome

structure DependenciesRegistered (session : Session Provider Schema) : Prop where
  registered : ∀ derived ∈ session.derivedTables, session.LineageRegistered derived.lineage
  pending : ∀ pending ∈ session.pendingDerivedTables, session.LineageRegistered pending.lineage

/-- The table `a` has complete lineage and reads the derived table `b` directly. -/
def CompleteEdge (session : Session Provider Schema) (a b : ℕ) : Prop :=
  ∃ derived, session.registeredDerivedTableById a = some derived ∧
    derived.lineage.isComplete ∧
    ∃ name, .registeredDerived b name ∈ derived.lineage.directDependencies

/-- A path through tables with complete lineage leads from the lineage to a derived table. -/
def ReachesDerived (session : Session Provider Schema) (lineage : DerivedTableLineage)
    (derived : RegisteredDerivedTable Schema) : Prop :=
  ∃ first name id, .registeredDerived first name ∈ lineage.directDependencies ∧
    Relation.ReflTransGen session.CompleteEdge first id ∧
    session.registeredDerivedTableById id = some derived

/-- The lineage, or that of a derived table it reaches, names the source. -/
def ReachesSource (session : Session Provider Schema) (lineage : DerivedTableLineage)
    (sourceId : ℕ) : Prop :=
  (∃ name, .registeredSource sourceId name ∈ lineage.directDependencies) ∨
    ∃ derived, session.ReachesDerived lineage derived ∧
      ∃ name, .registeredSource sourceId name ∈ derived.lineage.directDependencies

section Collecting
variable {session : Session Provider Schema}

theorem Consistent.dependenciesRegistered (h : session.Consistent) :
    session.DependenciesRegistered := by
  have hresolves : ∀ {tableId lineage},
      LineageResolves session.sources session.derivedTables tableId lineage →
      session.LineageRegistered lineage := by
    intro tableId lineage hlineage id name hdependency
    obtain ⟨-, target, htarget, hid, -⟩ := hlineage _ hdependency
    rw [← hid, h.registeredDerivedTableById_eq htarget]
    rfl
  refine ⟨fun derived hmem => ?_, fun pending hmem => ?_⟩
  · exact hresolves (h.derived_resolves hmem)
  · exact hresolves (h.pending_resolves pending hmem)

theorem isSome_registeredDerivedTableById {id : ℕ} :
    (session.registeredDerivedTableById id).isSome ↔ id ∈ session.derivedIds := by
  rw [mem_derivedIds, registeredDerivedTableById, List.find?_isSome]
  simp

/-- The same search with one flag for all branches. -/
def sourceTraversal (session : Session Provider Schema) :
    Traversal DerivedTableDependency ℕ (Bool × List ℕ) DeltaFunnelError where
  key
    | .registeredSource _ _ => none
    | .registeredDerived tableId _ => some tableId
  leaf dependency found := (found.1, BTreeSet.insert compare dependency.tableId found.2)
  enter dependency found :=
    match dependency with
    | .registeredSource _ _ => .ok (found, [])
    | .registeredDerived tableId name =>
      match session.registeredDerivedTableById tableId with
      | none => .error (unregisteredDependencyError name)
      | some derived =>
        .ok ((found.1 && derived.lineage.isComplete, found.2), derived.lineage.directDependencies)

theorem key_registeredDerived (tableId : ℕ) (name : String) :
    session.sourceTraversal.key (.registeredDerived tableId name) = some tableId := rfl

theorem enter_registered {tableId : ℕ} {derived : RegisteredDerivedTable Schema}
    (h : session.registeredDerivedTableById tableId = some derived) (name : String)
    (found : Bool × List ℕ) :
    session.sourceTraversal.enter (.registeredDerived tableId name) found =
      .ok ((found.1 && derived.lineage.isComplete, found.2),
        derived.lineage.directDependencies) := by
  simp only [sourceTraversal, h]

theorem enter_unregistered {tableId : ℕ} (h : session.registeredDerivedTableById tableId = none)
    (name : String) (found : Bool × List ℕ) :
    session.sourceTraversal.enter (.registeredDerived tableId name) found =
      .error (unregisteredDependencyError name) := by
  simp only [sourceTraversal, h]

/-- What the traversal finds, the recursion finds too: its flag starts anew in each branch and
is combined on the way back. -/
def Follows
    (descend : List DerivedTableDependency → List ℕ × List ℕ →
      Option (Except DeltaFunnelError (Bool × List ℕ × List ℕ)))
    (traverse : List DerivedTableDependency → List ℕ × Bool × List ℕ →
      Option (Except DeltaFunnelError (List ℕ × Bool × List ℕ))) : Prop :=
  ∀ dependencies visited known sources visited' known' sources',
    traverse dependencies (visited, known, sources) = some (.ok (visited', known', sources')) →
    (dependencies = [] → (visited', known', sources') = (visited, known, sources)) ∧
    ∃ branch, known' = (known && branch) ∧
      descend dependencies (visited, sources) = some (.ok (branch, visited', sources'))

theorem directDependencies_of_incomplete {lineage : DerivedTableLineage}
    (h : lineage.isComplete = false) : lineage.directDependencies = [] := by
  apply lineage.incomplete_empty
  rw [DerivedTableLineage.isComplete, Option.isNone_eq_false_iff] at h
  exact h

theorem collectSourceDependencies_of_visitAll
    {descend : List DerivedTableDependency → List ℕ × List ℕ →
      Option (Except DeltaFunnelError (Bool × List ℕ × List ℕ))}
    {traverse : List DerivedTableDependency → List ℕ × Bool × List ℕ →
      Option (Except DeltaFunnelError (List ℕ × Bool × List ℕ))}
    (hfollows : Follows descend traverse) {dependencies : List DerivedTableDependency}
    {visited visited' : List ℕ} {known known' : Bool} {sources sources' : List ℕ}
    (hrun : session.sourceTraversal.visitAll traverse dependencies (visited, known, sources) =
      some (.ok (visited', known', sources'))) :
    ∃ branch, known' = (known && branch) ∧ ∀ usageKnown,
      session.collectSourceDependencies descend usageKnown dependencies (visited, sources) =
        some (.ok (usageKnown && branch, visited', sources')) := by
  -- over the dependencies of one table; the hypothesis on the level below does the descent
  induction dependencies generalizing visited known sources with
  | nil =>
    obtain ⟨rfl, hfound⟩ := Prod.mk.inj (Except.ok.inj (Option.some.inj hrun))
    obtain ⟨rfl, rfl⟩ := Prod.mk.inj hfound
    refine ⟨true, by simp, fun usageKnown => ?_⟩
    rw [Bool.and_true]
    rfl
  | cons dependency dependencies ih =>
    cases dependency with
    | registeredSource tableId name => exact ih hrun
    | registeredDerived tableId name =>
      simp only [Traversal.visitAll, key_registeredDerived] at hrun
      simp only [collectSourceDependencies]
      by_cases hvisited : tableId ∈ visited
      · rw [if_pos hvisited] at hrun
        simp only [if_pos hvisited]
        exact ih hrun
      · rw [if_neg hvisited] at hrun
        simp only [if_neg hvisited]
        rcases hlookup : session.registeredDerivedTableById tableId with _ | derived
        · rw [enter_unregistered hlookup] at hrun
          cases hrun
        · rw [enter_registered hlookup] at hrun
          dsimp only at hrun ⊢
          split at hrun
          · cases hrun
          · cases hrun
          · next found hinner =>
            obtain ⟨inner, innerKnown, innerSources⟩ := found
            obtain ⟨hnil, branch, hbranch, hdescend⟩ := hfollows _ _ _ _ _ _ _ hinner
            obtain ⟨rest, hrest, hcollect⟩ := ih hrun
            rcases hcomplete : derived.lineage.isComplete with _ | _
            · -- Nothing follows an incomplete lineage, so that both go on from here.
              obtain ⟨rfl, hsame⟩ := Prod.mk.inj (hnil (directDependencies_of_incomplete hcomplete))
              obtain ⟨rfl, rfl⟩ := Prod.mk.inj hsame
              refine ⟨false, ?_, fun usageKnown => ?_⟩
              · rw [hrest, hcomplete, Bool.and_false, Bool.false_and]
              · rw [Bool.not_false, if_pos rfl, hcollect false, Bool.false_and, Bool.and_false]
            · refine ⟨branch && rest, ?_, fun usageKnown => ?_⟩
              · rw [hrest, hbranch, hcomplete, Bool.and_true, Bool.and_assoc]
              · simp only [Bool.not_true, Bool.false_eq_true, if_false, hdescend, hcollect,
                  Bool.and_assoc]

theorem collectTransitiveSourceDependencies_follows (fuel : ℕ) :
    Follows (session.collectTransitiveSourceDependencies fuel)
      (session.sourceTraversal.visit fuel) := by
  have hlevel : ∀ {descend traverse}, Follows descend traverse →
      Follows (session.collectSourceDependencies descend true)
        (session.sourceTraversal.visitAll traverse) := by
    intro descend traverse hfollows dependencies visited known sources visited' known' sources' hrun
    refine ⟨?_, ?_⟩
    · rintro rfl
      exact (Except.ok.inj (Option.some.inj hrun)).symm
    · obtain ⟨branch, hbranch, hcollect⟩ := collectSourceDependencies_of_visitAll hfollows hrun
      exact ⟨branch, hbranch, hcollect true⟩
  induction fuel with
  | zero => exact hlevel fun _ _ _ _ _ _ _ hrun => nomatch hrun
  | succ fuel ih => exact hlevel ih

/-- The flag says whether all visited tables have complete lineage. -/
def KnownFor (session : Session Provider Schema) (visited : List ℕ) (found : Bool × List ℕ) : Prop :=
  found.1 = true ↔ ∀ id ∈ visited, ∀ derived, session.registeredDerivedTableById id = some derived →
    derived.lineage.isComplete = true

theorem dependenciesOf_eq {id : ℕ} {derived : RegisteredDerivedTable Schema}
    (h : session.registeredDerivedTableById id = some derived) :
    session.dependenciesOf id = derived.lineage.directDependencies := by
  rw [dependenciesOf, h]

theorem KnownFor.enter {visited : List ℕ} {found : Bool × List ℕ} (h : session.KnownFor visited found)
    {id : ℕ} {derived : RegisteredDerivedTable Schema}
    (hlookup : session.registeredDerivedTableById id = some derived) :
    session.KnownFor (id :: visited) (found.1 && derived.lineage.isComplete, found.2) := by
  rw [KnownFor, Bool.and_eq_true, List.forall_mem_cons, and_comm]
  refine and_congr ⟨fun hcomplete other hother => ?_, fun hall => hall derived hlookup⟩ h
  rw [Option.some.inj (hother.symm.trans hlookup)]
  exact hcomplete

theorem DependenciesRegistered.traversal_closed (h : session.DependenciesRegistered) :
    session.sourceTraversal.Closed session.derivedIds session.dependenciesOf
      session.KnownFor where
  enter := by
    intro dependency found id hkey hid
    cases dependency with
    | registeredSource tableId name => cases hkey
    | registeredDerived tableId name =>
      cases hkey
      obtain ⟨derived, hlookup⟩ := Option.isSome_iff_exists.1
        (isSome_registeredDerivedTableById.2 hid)
      rw [dependenciesOf_eq hlookup]
      exact ⟨_, enter_registered hlookup name found, fun visited hknown => hknown.enter hlookup⟩
  leaf := fun _ _ _ _ hknown => hknown
  children := by
    intro id hid dependency hdependency id' hkey
    obtain ⟨derived, hlookup⟩ := Option.isSome_iff_exists.1 (isSome_registeredDerivedTableById.2 hid)
    rw [dependenciesOf_eq hlookup] at hdependency
    cases dependency with
    | registeredSource tableId name => cases hkey
    | registeredDerived tableId name =>
      cases hkey
      have hmem := (mem_of_registeredDerivedTableById hlookup).1
      exact isSome_registeredDerivedTableById.1 (h.registered derived hmem _ name hdependency)

theorem sourceTraversal_collects :
    session.sourceTraversal.Collects DerivedTableDependency.tableId
      fun found => {id | id ∈ found.2} where
  leaf := by
    intro dependency found _
    ext id
    exact BTreeSet.mem_insert fun a b => Nat.compare_eq_eq.1
  enter := by
    intro dependency found found' dependencies henter
    cases dependency with
    | registeredSource tableId name =>
      obtain ⟨rfl, -⟩ := Prod.mk.inj (Except.ok.inj henter)
      rfl
    | registeredDerived tableId name =>
      rcases hlookup : session.registeredDerivedTableById tableId with _ | derived
      · rw [enter_unregistered hlookup] at henter
        cases henter
      · rw [enter_registered hlookup] at henter
        obtain ⟨rfl, -⟩ := Prod.mk.inj (Except.ok.inj henter)
        rfl

theorem edge_iff_completeEdge {a b : ℕ} :
    session.sourceTraversal.Edge session.dependenciesOf a b ↔ session.CompleteEdge a b := by
  constructor
  · rintro ⟨dependency, hdependency, hkey⟩
    unfold dependenciesOf at hdependency
    split at hdependency
    · next derived hlookup =>
      cases dependency with
      | registeredSource tableId name => cases hkey
      | registeredDerived tableId name =>
        cases hkey
        refine ⟨derived, hlookup, ?_, name, hdependency⟩
        by_contra hincomplete
        rw [directDependencies_of_incomplete (Bool.eq_false_iff.2 hincomplete)] at hdependency
        cases hdependency
    · cases hdependency
  · rintro ⟨derived, hlookup, -, name, hdependency⟩
    refine ⟨.registeredDerived b name, ?_, rfl⟩
    rw [dependenciesOf_eq hlookup]
    exact hdependency

theorem mem_visited_iff {lineage : DerivedTableLineage} {visited : List ℕ}
    (hfound : session.sourceTraversal.Found session.dependenciesOf lineage.directDependencies []
      visited) {id : ℕ} :
    id ∈ visited ↔ ∃ first name, .registeredDerived first name ∈ lineage.directDependencies ∧
      Relation.ReflTransGen session.CompleteEdge first id := by
  have hedges : session.sourceTraversal.Edge session.dependenciesOf = session.CompleteEdge := by
    funext a b
    exact propext edge_iff_completeEdge
  rw [hfound.mem_iff, hedges]
  constructor
  · rintro ⟨dependency, hdependency, first, hkey, hpath⟩
    cases dependency with
    | registeredSource tableId name => cases hkey
    | registeredDerived tableId name =>
      cases hkey
      exact ⟨first, name, hdependency, hpath⟩
  · rintro ⟨first, name, hdependency, hpath⟩
    exact ⟨.registeredDerived first name, hdependency, first, rfl, hpath⟩

theorem mem_leaves_iff {lineage : DerivedTableLineage} {visited : List ℕ}
    (hfound : session.sourceTraversal.Found session.dependenciesOf lineage.directDependencies []
      visited) {sourceId : ℕ} :
    sourceId ∈ session.sourceTraversal.leaves DerivedTableDependency.tableId session.dependenciesOf
        lineage.directDependencies [] visited ↔ session.ReachesSource lineage sourceId := by
  constructor
  · rintro ⟨dependency, hkey, rfl, hdependency⟩
    cases dependency with
    | registeredDerived tableId name => cases hkey
    | registeredSource tableId name =>
      rcases hdependency with hdependency | ⟨id, hvisited, -, hdependency⟩
      · exact .inl ⟨name, hdependency⟩
      · obtain ⟨first, firstName, hfirst, hpath⟩ := (mem_visited_iff hfound).1 hvisited
        unfold dependenciesOf at hdependency
        split at hdependency
        · next derived hlookup =>
          exact .inr ⟨derived, ⟨first, firstName, id, hfirst, hpath, hlookup⟩, name, hdependency⟩
        · cases hdependency
  · rintro (⟨name, hdependency⟩ | ⟨derived, ⟨first, firstName, id, hfirst, hpath, hlookup⟩, name,
      hdependency⟩)
    · exact ⟨.registeredSource sourceId name, rfl, rfl, .inl hdependency⟩
    · have hvisited := (mem_visited_iff hfound).2 ⟨first, firstName, hfirst, hpath⟩
      refine ⟨.registeredSource sourceId name, rfl, rfl, .inr ⟨id, hvisited, List.not_mem_nil, ?_⟩⟩
      rw [dependenciesOf_eq hlookup]
      exact hdependency

/-- The recursion ends; it knows the usage unless it meets incomplete lineage, and has collected
the sources that the lineage reaches. -/
theorem DependenciesRegistered.collect_eq (h : session.DependenciesRegistered)
    {lineage : DerivedTableLineage} (hlineage : session.LineageRegistered lineage) :
    ∃ usageKnown visited sources,
      session.collectTransitiveSourceDependencies session.derivedTables.length
        lineage.directDependencies ([], []) = some (.ok (usageKnown, visited, sources)) ∧
      (usageKnown = true ↔
        ∀ derived, session.ReachesDerived lineage derived → derived.lineage.isComplete = true) ∧
      ∀ sourceId, sourceId ∈ sources ↔ session.ReachesSource lineage sourceId := by
  -- each level of the recursion visits a table more, so the number of tables is fuel enough
  have hfuel : (session.derivedIds \ ([] : List ℕ).toFinset).card ≤
      session.derivedTables.length := by
    rw [List.toFinset_nil, Finset.sdiff_empty]
    refine (List.toFinset_card_le _).trans ?_
    rw [List.length_map]
  have hknown : ∀ dependency ∈ lineage.directDependencies, ∀ id,
      session.sourceTraversal.key dependency = some id → id ∈ session.derivedIds := by
    intro dependency hdependency id hkey
    cases dependency with
    | registeredSource tableId name => cases hkey
    | registeredDerived tableId name =>
      cases hkey
      exact isSome_registeredDerivedTableById.1 (hlineage _ name hdependency)
  have hnothing : session.KnownFor [] (true, []) := by simp [KnownFor]
  obtain ⟨visited, ⟨known, sources⟩, hvisit, hfound, hflag⟩ :=
    Traversal.visit_found h.traversal_closed hfuel hknown hnothing
  obtain ⟨-, branch, hbranch, hcollect⟩ :=
    collectTransitiveSourceDependencies_follows _ _ _ _ _ _ _ _ hvisit
  rw [Bool.true_and] at hbranch
  subst hbranch
  refine ⟨known, visited, sources, hcollect, ?_, fun sourceId => ?_⟩
  · rw [show known = true ↔ _ from hflag]
    constructor
    · rintro hall derived ⟨first, name, id, hfirst, hpath, hlookup⟩
      exact hall id ((mem_visited_iff hfound).2 ⟨first, name, hfirst, hpath⟩) derived hlookup
    · intro hall id hvisited derived hlookup
      obtain ⟨first, name, hfirst, hpath⟩ := (mem_visited_iff hfound).1 hvisited
      exact hall derived ⟨first, name, id, hfirst, hpath, hlookup⟩
  · have hsources := (Traversal.visit_leaves h.traversal_closed sourceTraversal_collects hknown
      hvisit).2
    have hmem := Set.ext_iff.1 hsources sourceId
    rw [← mem_leaves_iff hfound]
    simpa using hmem

theorem DependenciesRegistered.lineage_registered (h : session.DependenciesRegistered)
    {table : LazyTable} {lineage : DerivedTableLineage}
    (hlineage : session.lineageForDerivedTable table = .ok lineage) :
    session.LineageRegistered lineage := by
  unfold lineageForDerivedTable at hlineage
  split_ifs at hlineage
  split at hlineage
  · next derived hlookup =>
    cases hlineage
    exact h.registered derived (mem_of_registeredDerivedTableById hlookup).1
  · split at hlineage
    · next pending hlookup =>
      cases hlineage
      exact h.pending pending (List.mem_of_find?_eq_some hlookup)
    · cases hlineage

theorem schemaForLazyTable_of_lineage {table : LazyTable} {lineage : DerivedTableLineage}
    (hlineage : session.lineageForDerivedTable table = .ok lineage) :
    table.kind = .derivedSql ∧ ∃ schema, session.schemaForLazyTable table = .ok schema := by
  unfold lineageForDerivedTable at hlineage
  by_cases hkind : table.kind = .derivedSql
  · refine ⟨hkind, ?_⟩
    rw [if_neg (not_not.2 hkind)] at hlineage
    unfold schemaForLazyTable
    rw [hkind]
    rcases hregistered : session.registeredDerivedTableById table.id with _ | derived
    · rw [hregistered] at hlineage
      rcases hpending : session.pendingDerivedTableById table.id with _ | pending
      · rw [hpending] at hlineage
        cases hlineage
      · exact ⟨pending.schema, rfl⟩
    · exact ⟨derived.schema, rfl⟩
  · rw [if_pos hkind] at hlineage
    cases hlineage

/-- The lineage, or one it reaches, could not be extracted. -/
def UsageUnknown (session : Session Provider Schema) (lineage : DerivedTableLineage) : Prop :=
  lineage.isComplete = false ∨
    ∃ derived, session.ReachesDerived lineage derived ∧ derived.lineage.isComplete = false

theorem DependenciesRegistered.known_eq (h : session.DependenciesRegistered) {table : LazyTable}
    {lineage : DerivedTableLineage} (hlineage : session.lineageForDerivedTable table = .ok lineage) :
    ∃ known, session.knownSourceDependenciesForTable table = .ok known ∧
      (known = none ↔ session.UsageUnknown lineage) ∧
      ∀ sources, known = some sources →
        ∀ sourceId, sourceId ∈ sources ↔ session.ReachesSource lineage sourceId := by
  obtain ⟨hkind, schema, hschema⟩ := schemaForLazyTable_of_lineage hlineage
  have hrun : session.knownSourceDependenciesForTable table =
      if !lineage.isComplete then .ok none
      else
        match session.collectTransitiveSourceDependencies session.derivedTables.length
            lineage.directDependencies ([], []) with
        | some (.ok (usageKnown, _, sources)) => .ok (if usageKnown then some sources else none)
        | some (.error error) => .error error
        | none => .error (unknownLazyTableError table) := by
    unfold knownSourceDependenciesForTable
    rw [hschema, hkind]
    simp only [hlineage, bind, Except.bind, pure, Except.pure]
  rcases hcomplete : lineage.isComplete with _ | _
  · refine ⟨none, ?_, iff_of_true rfl (.inl hcomplete), nofun⟩
    rw [hrun, hcomplete]
    rfl
  · obtain ⟨usageKnown, visited, sources, hcollect, hflag, hsources⟩ :=
      h.collect_eq (h.lineage_registered hlineage)
    rw [hcollect, hcomplete] at hrun
    refine ⟨_, hrun, ?_, ?_⟩
    · rw [UsageUnknown, hcomplete]
      cases usageKnown with
      | true =>
        refine iff_of_false nofun ?_
        rintro (hincomplete | ⟨derived, hreach, hincomplete⟩)
        · cases hincomplete
        · rw [hflag.1 rfl derived hreach] at hincomplete
          cases hincomplete
      | false =>
        refine iff_of_true rfl (.inr ?_)
        by_contra hall
        apply Bool.false_ne_true
        apply hflag.2
        intro derived hreach
        by_contra hincomplete
        exact hall ⟨derived, hreach, Bool.eq_false_iff.2 hincomplete⟩
    · intro known hknown
      cases usageKnown with
      | true =>
        rw [← Option.some.inj hknown]
        exact hsources
      | false => cases hknown

theorem DependenciesRegistered.known_ok_iff (h : session.DependenciesRegistered)
    {table : LazyTable} :
    (∃ known, session.knownSourceDependenciesForTable table = .ok known) ↔
      ∃ schema, session.schemaForLazyTable table = .ok schema := by
  constructor
  · rintro ⟨known, hknown⟩
    obtain ⟨schema, hschema, -⟩ := except_bind_eq_ok.1 hknown
    exact ⟨schema, hschema⟩
  · rintro ⟨schema, hschema⟩
    cases hkind : table.kind with
    | deltaSource =>
      refine ⟨some [table.id], ?_⟩
      unfold knownSourceDependenciesForTable
      rw [hschema, hkind]
      rfl
    | derivedSql =>
      have hlineage : ∃ lineage, session.lineageForDerivedTable table = .ok lineage := by
        unfold schemaForLazyTable at hschema
        unfold lineageForDerivedTable
        rw [hkind] at hschema ⊢
        rw [if_neg (not_not.2 rfl)]
        rcases hregistered : session.registeredDerivedTableById table.id with _ | derived
        · rw [hregistered] at hschema
          rcases hpending : session.pendingDerivedTableById table.id with _ | pending
          · rw [hpending] at hschema
            cases hschema
          · exact ⟨pending.lineage, rfl⟩
        · exact ⟨derived.lineage, rfl⟩
      obtain ⟨lineage, hlineage⟩ := hlineage
      obtain ⟨known, hknown, -⟩ := h.known_eq hlineage
      exact ⟨known, hknown⟩

def outputUsesSource (session : Session Provider Schema) (sourceId : ℕ)
    (output : String × LazyTable) : Bool :=
  match session.knownSourceDependenciesForTable output.2 with
  | .ok (some sourceIds) => sourceIds.contains sourceId
  | .ok none => false
  | .error _ => false

def outputUsageKnown (session : Session Provider Schema) (output : String × LazyTable) : Bool :=
  match session.knownSourceDependenciesForTable output.2 with
  | .ok (some _) => true
  | .ok none => false
  | .error _ => false

theorem outputSources_ok_iff {outputs : List (String × LazyTable)} :
    (∃ found, session.outputSources outputs = .ok found) ↔
      ∀ output ∈ outputs, ∃ known, session.knownSourceDependenciesForTable output.2 = .ok known := by
  induction outputs with
  | nil => exact iff_of_true ⟨_, rfl⟩ nofun
  | cons output outputs ih =>
    rw [List.forall_mem_cons, ← ih]
    constructor
    · rintro ⟨found, hfound⟩
      obtain ⟨known, hknown, hrest⟩ := except_bind_eq_ok.1 hfound
      obtain ⟨rest, hrest, -⟩ := except_bind_eq_ok.1 hrest
      exact ⟨⟨known, hknown⟩, rest, hrest⟩
    · rintro ⟨⟨known, hknown⟩, ⟨rest, restKnown⟩, hrest⟩
      rw [outputSources, hknown]
      cases known with
      | none => exact ⟨(rest, false), by rw [hrest]; rfl⟩
      | some sourceIds => exact ⟨((output.1, sourceIds) :: rest, restKnown), by rw [hrest]; rfl⟩

theorem outputSources_spec {outputs : List (String × LazyTable)} {found : List (String × List ℕ)}
    {allUsageKnown : Bool} (hrun : session.outputSources outputs = .ok (found, allUsageKnown)) :
    (allUsageKnown = true ↔ ∀ output ∈ outputs, session.outputUsageKnown output = true) ∧
      ∀ sourceId, (found.filter fun output => output.2.contains sourceId).map (·.1) =
        (outputs.filter (session.outputUsesSource sourceId)).map (·.1) := by
  induction outputs generalizing found allUsageKnown with
  | nil =>
    obtain ⟨rfl, rfl⟩ := Prod.mk.inj (Except.ok.inj hrun)
    exact ⟨iff_of_true rfl nofun, fun _ => rfl⟩
  | cons output outputs ih =>
    obtain ⟨known, hknown, hrest⟩ := except_bind_eq_ok.1 hrun
    obtain ⟨⟨rest, restKnown⟩, hrest, hreturn⟩ := except_bind_eq_ok.1 hrest
    obtain ⟨hall, hnames⟩ := ih hrest
    rw [List.forall_mem_cons, outputUsageKnown, hknown]
    cases known with
    | none =>
      obtain ⟨rfl, rfl⟩ := Prod.mk.inj (Except.ok.inj hreturn)
      refine ⟨iff_of_false nofun (fun h => nomatch h.1), fun sourceId => ?_⟩
      have hunused : session.outputUsesSource sourceId output = false := by
        rw [outputUsesSource, hknown]
      rw [List.filter_cons_of_neg (Bool.not_eq_true _ ▸ hunused), hnames]
    | some sourceIds =>
      obtain ⟨rfl, rfl⟩ := Prod.mk.inj (Except.ok.inj hreturn)
      refine ⟨by rw [hall]; simp, fun sourceId => ?_⟩
      have huses : session.outputUsesSource sourceId output = sourceIds.contains sourceId := by
        rw [outputUsesSource, hknown]
      rw [List.filter_cons, List.filter_cons, huses]
      split_ifs
      · rw [List.map_cons, List.map_cons, hnames]
      · exact hnames sourceId

/-- What a report says about a source, for outputs in the order of the request. -/
structure ReportsUsage (session : Session Provider Schema) (outputs : List (String × LazyTable))
    (source : RegisteredSessionSource Schema) (report : DeltaSourceReport) : Prop where
  name : report.sourceName = source.name
  used_by : report.usedByOutputNames =
    (outputs.filter (session.outputUsesSource source.table.id)).map (·.1)
  used : report.usageStatus = .used ↔
    ∃ output ∈ outputs, session.outputUsesSource source.table.id output = true
  not_used : report.usageStatus = .notUsed ↔
    (∀ output ∈ outputs, session.outputUsesSource source.table.id output = false) ∧
      ∀ output ∈ outputs, session.outputUsageKnown output = true
  unknown : report.usageStatus = .unknown ↔
    (∀ output ∈ outputs, session.outputUsesSource source.table.id output = false) ∧
      ∃ output ∈ outputs, session.outputUsageKnown output = false

theorem sourceReport_usage {outputs : List (String × LazyTable)} {found : List (String × List ℕ)}
    {allUsageKnown : Bool} (hrun : session.outputSources outputs = .ok (found, allUsageKnown))
    (source : RegisteredSessionSource Schema) :
    session.ReportsUsage outputs source (sourceReport found allUsageKnown source) := by
  obtain ⟨hall, hnames⟩ := outputSources_spec hrun
  -- the report names the outputs that use the source
  have hempty : ((found.filter fun output => output.2.contains source.table.id).map
      (·.1)).isEmpty = true ↔
      ∀ output ∈ outputs, session.outputUsesSource source.table.id output = false := by
    rw [hnames, List.isEmpty_iff, List.map_eq_nil_iff, List.filter_eq_nil_iff]
    simp only [Bool.not_eq_true]
  have hstatus : (sourceReport found allUsageKnown source).usageStatus =
      if ((found.filter fun output => output.2.contains source.table.id).map (·.1)).isEmpty then
        if allUsageKnown then .notUsed else .unknown
      else .used := rfl
  -- unused, then known or not; or used, whatever is known
  by_cases hunused : ∀ output ∈ outputs,
      session.outputUsesSource source.table.id output = false
  · have hnone : ¬∃ output ∈ outputs,
        session.outputUsesSource source.table.id output = true := by
      rintro ⟨output, hmem, huses⟩
      rw [hunused output hmem] at huses
      cases huses
    rw [if_pos (hempty.2 hunused)] at hstatus
    cases allUsageKnown with
    | true =>
      have hknown := hall.1 rfl
      refine ⟨rfl, hnames _, ?_, ?_, ?_⟩
      · rw [hstatus]
        exact iff_of_false nofun hnone
      · rw [hstatus]
        exact iff_of_true rfl ⟨hunused, hknown⟩
      · rw [hstatus]
        refine iff_of_false nofun ?_
        rintro ⟨-, output, hmem, hunknown⟩
        rw [hknown output hmem] at hunknown
        cases hunknown
    | false =>
      have hunknown : ¬∀ output ∈ outputs, session.outputUsageKnown output = true :=
        fun h => Bool.false_ne_true (hall.2 h)
      refine ⟨rfl, hnames _, ?_, ?_, ?_⟩
      · rw [hstatus]
        exact iff_of_false nofun hnone
      · rw [hstatus]
        exact iff_of_false nofun fun h => hunknown h.2
      · rw [hstatus]
        refine iff_of_true rfl ⟨hunused, ?_⟩
        push Not at hunknown
        obtain ⟨output, hmem, hflag⟩ := hunknown
        exact ⟨output, hmem, Bool.eq_false_iff.2 hflag⟩
  · rw [if_neg (mt hempty.1 hunused)] at hstatus
    refine ⟨rfl, hnames _, ?_, ?_, ?_⟩
    · rw [hstatus]
      refine iff_of_true rfl ?_
      push Not at hunused
      obtain ⟨output, hmem, hflag⟩ := hunused
      exact ⟨output, hmem, Bool.eq_true_of_not_eq_false hflag⟩
    · rw [hstatus]
      exact iff_of_false nofun fun h => hunused h.1
    · rw [hstatus]
      exact iff_of_false nofun fun h => hunused h.1

/-- **Source usage is reachability.** With the derived dependencies registered, whatever the
graph, the sources of a derived table are unknown exactly if incomplete lineage is reached, else
they are those reached; and every report follows from the sources of the outputs. -/
theorem sourceUsage_is_reachability (session : Session Provider Schema)
    (hregistered : session.DependenciesRegistered) :
    (∀ table lineage, session.lineageForDerivedTable table = .ok lineage →
      ∃ known, session.knownSourceDependenciesForTable table = .ok known ∧
        (known = none ↔ session.UsageUnknown lineage) ∧
        ∀ sources, known = some sources →
          ∀ sourceId, sourceId ∈ sources ↔ session.ReachesSource lineage sourceId) ∧
    ∀ outputs : List (String × LazyTable),
      ((∃ reports, session.sourceReportsForOutputTables outputs = .ok reports) ↔
        ∀ output ∈ outputs, ∃ schema, session.schemaForLazyTable output.2 = .ok schema) ∧
      ∀ reports, session.sourceReportsForOutputTables outputs = .ok reports →
        List.Forall₂ (session.ReportsUsage outputs) session.sources reports := by
  refine ⟨fun table lineage hlineage => hregistered.known_eq hlineage, fun outputs => ⟨?_, ?_⟩⟩
  · have hsources : (∃ found, session.outputSources outputs = .ok found) ↔ _ :=
      outputSources_ok_iff
    simp only [hregistered.known_ok_iff] at hsources
    rw [← hsources]
    constructor
    · rintro ⟨reports, hreports⟩
      obtain ⟨found, hfound, -⟩ := except_bind_eq_ok.1 hreports
      exact ⟨found, hfound⟩
    · rintro ⟨found, hfound⟩
      rw [sourceReportsForOutputTables, hfound]
      exact ⟨_, rfl⟩
  · intro reports hreports
    obtain ⟨⟨found, allUsageKnown⟩, hfound, hreturn⟩ := except_bind_eq_ok.1 hreports
    rw [← Except.ok.inj hreturn, List.forall₂_map_right_iff]
    exact List.forall₂_same.2 fun source _ => sourceReport_usage hfound source

/-- Two tables that read each other, one of them also a source, and a third with incomplete
lineage. -/
def cyclicLineage : Session Unit Unit where
  catalog := []
  nextTableId := 4
  sources := [⟨.deltaSource 0 "orders", ()⟩]
  derivedTables :=
    [⟨(LazyTable.derivedSql 1).withName "left", (), "",
        .complete [.registeredDerived 2 "right", .registeredSource 0 "orders"] [] []⟩,
      ⟨(LazyTable.derivedSql 2).withName "right", (), "",
        .complete [.registeredDerived 1 "left"] [] []⟩,
      ⟨(LazyTable.derivedSql 3).withName "summary", (), "", .incomplete "unsupported"⟩]
  pendingDerivedTables := []

theorem cyclicLineage_registered : cyclicLineage.DependenciesRegistered := by
  constructor
  · intro derived hmem id name hdependency
    simp only [cyclicLineage, List.mem_cons, List.not_mem_nil, or_false] at hmem
    rcases hmem with rfl | rfl | rfl
    · simp only [DerivedTableLineage.complete, List.mem_cons, DerivedTableDependency.registeredDerived.injEq,
        List.not_mem_nil, reduceCtorEq, or_false] at hdependency
      rw [hdependency.1]
      rfl
    · simp only [DerivedTableLineage.complete, List.mem_cons, DerivedTableDependency.registeredDerived.injEq,
        List.not_mem_nil, or_false] at hdependency
      rw [hdependency.1]
      rfl
    · cases hdependency
  · nofun

theorem cyclicLineage_usage :
    ((∃ known, cyclicLineage.knownSourceDependenciesForTable (.derivedSql 2) = .ok known ∧
        (known = none ↔ cyclicLineage.UsageUnknown (.complete [.registeredDerived 1 "left"] [] [])) ∧
        ∀ sources, known = some sources → ∀ sourceId, sourceId ∈ sources ↔
          cyclicLineage.ReachesSource (.complete [.registeredDerived 1 "left"] [] []) sourceId) ∧
      cyclicLineage.knownSourceDependenciesForTable (.derivedSql 2) = .ok (some [0])) ∧
    ∀ reports, cyclicLineage.sourceReportsForOutputTables
        [("a", .derivedSql 2), ("b", .derivedSql 3)] = .ok reports →
      List.Forall₂ (cyclicLineage.ReportsUsage [("a", .derivedSql 2), ("b", .derivedSql 3)])
        cyclicLineage.sources reports := by
  obtain ⟨htables, houtputs⟩ := sourceUsage_is_reachability cyclicLineage cyclicLineage_registered
  exact ⟨⟨htables _ _ rfl, by decide⟩, (houtputs _).2⟩

end Collecting
end Session
end DeltaFunnel
