import DeltaFunnel.WriteAll.CacheFrontier

/-! Replay closure: the check explicit selection makes on direct dependencies is a property of
whole lineage paths, and automatic selection does not always have it. -/

namespace DeltaFunnel
open Collections Relation

variable {Provider Schema : Type}

namespace Session

/-- A path of lineage dependencies to the derived table `target`; the list holds the aliases
strictly between its ends. -/
inductive LineagePath (session : Session Provider Schema) :
    DerivedTableLineage → List ℕ → ℕ → Prop
  | direct {lineage : DerivedTableLineage} {target : ℕ} {name : String}
      (hdependency : .registeredDerived target name ∈ lineage.directDependencies) :
      LineagePath session lineage [] target
  | through {lineage : DerivedTableLineage} {name : String}
      {next : RegisteredDerivedTable Schema} {between : List ℕ} {target : ℕ}
      (hdependency : .registeredDerived next.table.id name ∈ lineage.directDependencies)
      (hnext : next ∈ session.derivedTables)
      (hrest : LineagePath session next.lineage between target) :
      LineagePath session lineage (next.table.id :: between) target

/-- On every path to a selected alias, the aliases in between are selected. -/
def PathsSelected (session : Session Provider Schema) (ids : List ℕ)
    (lineage : DerivedTableLineage) : Prop :=
  ∀ between target, session.LineagePath lineage between target → target ∈ ids →
    ∀ id ∈ between, id ∈ ids

/-- No direct dependency that is not selected depends on a selected alias. -/
def DirectlyClosed (session : Session Provider Schema) (ids : List ℕ)
    (lineage : DerivedTableLineage) : Prop :=
  ∀ id name, .registeredDerived id name ∈ lineage.directDependencies → id ∉ ids →
    ∀ target ∈ ids, ¬TransGen session.DerivedEdge id target

section Paths
variable {session : Session Provider Schema} {ids : List ℕ} {lineage : DerivedTableLineage}

theorem LineagePath.reaches {between : List ℕ} {target : ℕ}
    (hpath : session.LineagePath lineage between target) : session.Reaches lineage target := by
  induction hpath with
  | direct hdependency => exact ⟨_, _, hdependency, .refl⟩
  | through hdependency hnext hrest ih =>
    obtain ⟨first, name, hfirst, hreach⟩ := ih
    exact ⟨_, _, hdependency, ReflTransGen.head ⟨_, hnext, rfl, name, hfirst⟩ hreach⟩

theorem Consistent.exists_path (h : session.Consistent) {a target : ℕ}
    (hpath : TransGen session.DerivedEdge a target) :
    ∀ derived ∈ session.derivedTables, derived.table.id = a →
      ∃ between, session.LineagePath derived.lineage between target := by
  induction hpath using TransGen.head_induction_on with
  | single hedge =>
    rintro derived hmem rfl
    obtain ⟨found, hfound, hid, name, hdependency⟩ := hedge
    rw [h.derived_eq_of_id hfound hmem hid] at hdependency
    exact ⟨[], .direct hdependency⟩
  | head hedge _ ih =>
    rintro derived hmem rfl
    obtain ⟨found, hfound, hid, name, hdependency⟩ := hedge
    rw [h.derived_eq_of_id hfound hmem hid] at hdependency
    obtain ⟨-, next, hnext, rfl, -⟩ := h.derived_resolves hmem _ hdependency
    obtain ⟨between, hrest⟩ := ih next hnext rfl
    exact ⟨_, .through hdependency hnext hrest⟩

theorem Consistent.directlyClosed_of_paths (h : session.Consistent) {id : ℕ}
    (hresolves : LineageResolves session.sources session.derivedTables id lineage)
    (hpaths : session.PathsSelected ids lineage) : session.DirectlyClosed ids lineage := by
  intro first name hdependency hfirst target htarget hpath
  obtain ⟨-, next, hnext, rfl, -⟩ := hresolves _ hdependency
  obtain ⟨between, hrest⟩ := h.exists_path hpath next hnext rfl
  exact hfirst (hpaths _ target (.through hdependency hnext hrest) htarget _
    (List.mem_cons_self ..))

/-- Where every selected alias is directly closed, a directly closed root has no hidden alias
on any path: each alias in between is selected, and is a root itself. -/
theorem Consistent.paths_of_directlyClosed (h : session.Consistent)
    (hselected : ∀ derived ∈ session.derivedTables, derived.table.id ∈ ids →
      session.DirectlyClosed ids derived.lineage)
    (hclosed : session.DirectlyClosed ids lineage) : session.PathsSelected ids lineage := by
  intro between target hpath htarget
  induction hpath with
  | direct => exact fun id hid => absurd hid List.not_mem_nil
  | @through lineage name next between target hdependency hnext hrest ih =>
    have hreach : TransGen session.DerivedEdge next.table.id target :=
      (h.reaches_iff hnext).1 hrest.reaches
    have hnextSelected : next.table.id ∈ ids := by
      by_contra hnot
      exact hclosed _ _ hdependency hnot target htarget hreach
    intro id hid
    rcases List.mem_cons.1 hid with rfl | hid
    · exact hnextSelected
    · exact ih (hselected next hnext hnextSelected) htarget id hid

end Paths

/-- The session keeps the table and its lineage is directly closed. -/
def RootOk (session : Session Provider Schema) (ids : List ℕ) (table : LazyTable) : Prop :=
  ∃ lineage, session.lineageForDerivedTable table = .ok lineage ∧
    session.DirectlyClosed ids lineage

section Check
variable {session : Session Provider Schema} {ids : List ℕ}

theorem findSelectedDependency_eq_none {dependencies : List DerivedTableDependency} :
    findSelectedDependency ids dependencies = none ↔
      ∀ id, (∃ name, .registeredDerived id name ∈ dependencies) → id ∉ ids := by
  rw [findSelectedDependency, List.findSome?_eq_none_iff]
  constructor
  · rintro hnone id ⟨name, hmem⟩ hid
    have hfound := hnone _ hmem
    simp [hid] at hfound
  · intro hnot dependency hmem
    cases dependency with
    | registeredSource tableId name => rfl
    | registeredDerived tableId name => exact if_neg (hnot tableId ⟨name, hmem⟩)

theorem Consistent.validateExplicitCacheReplayDependency_iff (h : session.Consistent) {id : ℕ}
    {dependency : DerivedTableDependency}
    (hresolves : Resolves session.sources session.derivedTables id dependency)
    {consumerKind consumerName : String} :
    session.validateExplicitCacheReplayDependency consumerKind consumerName ids dependency =
        .ok () ↔
      ∀ tableId name, dependency = .registeredDerived tableId name → tableId ∉ ids →
        ∀ target ∈ ids, ¬TransGen session.DerivedEdge tableId target := by
  cases dependency with
  | registeredSource tableId name =>
    simp [validateExplicitCacheReplayDependency]
  | registeredDerived tableId name =>
    obtain ⟨-, derived, hmem, rfl, -⟩ := hresolves
    have hlineage : session.lineageForDerivedTable derived.table = .ok derived.lineage :=
      h.lineageForDerivedTable_registered hmem
    obtain ⟨dependencies, htransitive, hreaches⟩ := h.transitive_eq_ok hlineage
    have hselected : findSelectedDependency ids dependencies = none ↔
        ∀ target ∈ ids, ¬TransGen session.DerivedEdge derived.table.id target := by
      rw [findSelectedDependency_eq_none]
      simp only [hreaches, h.reaches_iff hmem]
      exact forall_congr' fun target => imp_not_comm
    unfold validateExplicitCacheReplayDependency
    by_cases hid : derived.table.id ∈ ids
    · simp only [if_pos hid]
      refine ⟨fun _ tableId name heq hnot => ?_, fun _ => trivial⟩
      cases heq
      exact absurd hid hnot
    · simp only [if_neg hid, h.registeredDerivedTableById_eq hmem, htransitive]
      rcases hfound : findSelectedDependency ids dependencies with _ | selectedAlias
      · refine ⟨fun _ tableId name heq _ => ?_, fun _ => rfl⟩
        cases heq
        exact hselected.1 hfound
      · refine ⟨nofun, fun hnone => ?_⟩
        rw [hselected.2 (hnone _ _ rfl hid)] at hfound
        cases hfound

theorem Consistent.validateExplicitCacheReplayRoot_iff (h : session.Consistent)
    {table : LazyTable} {consumerKind consumerName : String} :
    session.validateExplicitCacheReplayRoot table consumerKind consumerName ids = .ok () ↔
      session.RootOk ids table := by
  unfold validateExplicitCacheReplayRoot RootOk
  rcases hlineage : session.lineageForDerivedTable table with error | lineage
  · simp
  · have hresolves := h.lineage_resolves hlineage
    simp only [except_forM_eq_ok, Except.ok.injEq, exists_eq_left']
    constructor
    · intro hall id name hdependency
      exact (h.validateExplicitCacheReplayDependency_iff (hresolves _ hdependency)).1
        (hall _ hdependency) id name rfl
    · intro hclosed dependency hdependency
      refine (h.validateExplicitCacheReplayDependency_iff (hresolves _ hdependency)).2 ?_
      rintro id name rfl
      exact hclosed id name hdependency

/-- **The closure check** passes exactly when every selected alias and every other derived
request is a root without hidden aliases. -/
theorem Consistent.validateExplicitCacheReplayClosure_iff (h : session.Consistent)
    {requests : List OutputWritePlan} :
    session.validateExplicitCacheReplayClosure requests ids = .ok () ↔
      (∀ derived ∈ session.derivedTables, derived.table.id ∈ ids →
        session.DirectlyClosed ids derived.lineage) ∧
      ∀ request ∈ requests, request.table.kind = .derivedSql → request.table.id ∉ ids →
        session.RootOk ids request.table := by
  have hregistered : ∀ derived ∈ session.derivedTables,
      (session.RootOk ids derived.table ↔ session.DirectlyClosed ids derived.lineage) := by
    intro derived hmem
    simp [RootOk, h.lineageForDerivedTable_registered hmem]
  have hroots : (session.derivedTables.filter fun derived => derived.table.id ∈ ids).forM
      (fun derived => session.validateExplicitCacheReplayRoot derived.table "cache alias"
        derived.name ids) = .ok () ↔
      ∀ derived ∈ session.derivedTables, derived.table.id ∈ ids →
        session.DirectlyClosed ids derived.lineage := by
    simp only [except_forM_eq_ok, h.validateExplicitCacheReplayRoot_iff, List.mem_filter,
      decide_eq_true_eq, and_imp]
    exact forall₂_congr fun derived hmem => by rw [hregistered derived hmem]
  have houtputs : (requests.filter fun request =>
      request.table.kind = .derivedSql ∧ request.table.id ∉ ids).forM (fun request =>
        session.validateExplicitCacheReplayRoot request.table "output" request.target.outputName
          ids) = .ok () ↔
      ∀ request ∈ requests, request.table.kind = .derivedSql → request.table.id ∉ ids →
        session.RootOk ids request.table := by
    simp only [except_forM_eq_ok, h.validateExplicitCacheReplayRoot_iff, List.mem_filter,
      decide_eq_true_eq, and_imp]
  unfold validateExplicitCacheReplayClosure
  rw [except_bind_eq_ok]
  constructor
  · rintro ⟨⟨⟩, hselected, hrequests⟩
    exact ⟨hroots.1 hselected, houtputs.1 hrequests⟩
  · rintro ⟨hselected, hrequests⟩
    exact ⟨(), hroots.2 hselected, houtputs.2 hrequests⟩

end Check

/-- The aliases that automatic selection caches pass the check explicit selection makes. -/
def AutomaticallyClosed (session : Session Provider Schema) (requests : List OutputWritePlan) :
    Prop :=
  ∀ aliases, (session.planMssqlOutputCache requests).decision = .cacheAliases aliases →
    session.validateExplicitCacheReplayClosure requests
      (BTreeSet.ofList compare (aliases.map (·.tableId))) = .ok ()

/-- Unless nothing is eligible, the session keeps every derived request that is not itself on
the frontier, and no alias used by a single request stands between the request and the
frontier. -/
def NoPrivateDetour (session : Session Provider Schema) (requests : List OutputWritePlan) : Prop :=
  (∃ derived ∈ session.derivedTables, session.Eligible requests derived) →
  ∀ request ∈ requests, request.table.kind = .derivedSql →
    (∀ top ∈ session.derivedTables, session.Frontier requests top →
      top.table.id ≠ request.table.id) →
    ∃ lineage, session.lineageForDerivedTable request.table = .ok lineage ∧
      ∀ id name, .registeredDerived id name ∈ lineage.directDependencies →
        (∃ top ∈ session.derivedTables, session.Frontier requests top ∧
          TransGen session.DerivedEdge id top.table.id) →
        session.UsedTwice requests id

section Automatic
variable {session : Session Provider Schema} {requests : List OutputWritePlan}

theorem UsedTwice.two_le_length {id : ℕ} (h : session.UsedTwice requests id) :
    2 ≤ requests.length := by
  obtain ⟨i, j, hne, ⟨_, hi, -⟩, ⟨_, hj, -⟩⟩ := h
  have hi := (List.getElem?_eq_some_iff.1 hi).1
  have hj := (List.getElem?_eq_some_iff.1 hj).1
  omega

theorem Consistent.cacheAliases_iff (h : session.Consistent) (hlength : 2 ≤ requests.length) :
    (∃ aliases, (session.planMssqlOutputCache requests).decision = .cacheAliases aliases) ↔
      ∃ derived ∈ session.derivedTables, session.Eligible requests derived := by
  rw [h.planMssqlOutputCache_eq hlength]
  dsimp only
  split_ifs with hnil
  · refine ⟨nofun, ?_⟩
    rintro ⟨derived, hmem, heligible⟩
    have hcandidate := h.mem_candidates.2 ⟨derived, hmem, heligible, rfl⟩
    rw [hnil] at hcandidate
    cases hcandidate
  · obtain ⟨plan, hplan⟩ := List.exists_mem_of_ne_nil _ hnil
    obtain ⟨derived, hmem, heligible, -⟩ := h.mem_candidates.1 hplan
    exact ⟨fun _ => ⟨derived, hmem, heligible⟩, fun _ => ⟨_, rfl⟩⟩

theorem Consistent.mem_frontierIds (h : session.Consistent)
    {aliases : List MssqlDerivedCacheAliasPlan} (hlength : 2 ≤ requests.length)
    (hdecision : (session.planMssqlOutputCache requests).decision = .cacheAliases aliases)
    {id : ℕ} :
    id ∈ BTreeSet.ofList compare (aliases.map (·.tableId)) ↔
      ∃ top ∈ session.derivedTables, session.Frontier requests top ∧ top.table.id = id := by
  have hcached := fun plan => @Consistent.mem_cached _ _ session requests h hlength plan
  rw [hdecision] at hcached
  rw [BTreeSet.mem_ofList fun a b => Nat.compare_eq_eq.1, List.mem_map]
  constructor
  · rintro ⟨plan, hplan, rfl⟩
    obtain ⟨top, htop, hfrontier, rfl⟩ := (hcached plan).1 hplan
    exact ⟨top, htop, hfrontier, rfl⟩
  · rintro ⟨top, htop, hfrontier, rfl⟩
    exact ⟨_, (hcached _).2 ⟨top, htop, hfrontier, rfl⟩, rfl⟩

theorem Consistent.eligible_of_path (h : session.Consistent)
    {derived : RegisteredDerivedTable Schema} (hmem : derived ∈ session.derivedTables) {id : ℕ}
    (hpath : TransGen session.DerivedEdge derived.table.id id)
    (hshared : session.UsedTwice requests derived.table.id) :
    session.Eligible requests derived := by
  refine ⟨(h.derived_sql derived hmem).2, ?_, hshared⟩
  obtain ⟨first, name, hdependency, -⟩ := (h.reaches_iff hmem).2 hpath
  rw [DerivedTableLineage.isComplete, Option.isNone_iff_eq_none]
  by_contra hincomplete
  rw [derived.lineage.incomplete_empty (Option.isSome_iff_ne_none.2 hincomplete)] at hdependency
  cases hdependency

/-- Frontier aliases do not depend on each other, not even through an alias that is not cached. -/
theorem frontier_directlyClosed {ids : List ℕ}
    (hids : ∀ id, id ∈ ids ↔
      ∃ top ∈ session.derivedTables, session.Frontier requests top ∧ top.table.id = id)
    {derived : RegisteredDerivedTable Schema} (hmem : derived ∈ session.derivedTables)
    (hselected : derived.table.id ∈ ids) : session.DirectlyClosed ids derived.lineage := by
  intro id name hdependency _ target htarget hpath
  obtain ⟨found, hfound, hfrontier, hid⟩ := (hids _).1 hselected
  obtain ⟨top, htop, htopFrontier, rfl⟩ := (hids _).1 htarget
  refine htopFrontier.uncovered found hfound hfrontier.eligible ?_
  rw [hid]
  exact TransGen.head ⟨derived, hmem, rfl, name, hdependency⟩ hpath

theorem Consistent.directlyClosed_frontier_iff (h : session.Consistent) {ids : List ℕ}
    (hids : ∀ id, id ∈ ids ↔
      ∃ top ∈ session.derivedTables, session.Frontier requests top ∧ top.table.id = id)
    {table : ℕ} {lineage : DerivedTableLineage}
    (hresolves : LineageResolves session.sources session.derivedTables table lineage) :
    session.DirectlyClosed ids lineage ↔
      ∀ id name, .registeredDerived id name ∈ lineage.directDependencies →
        (∃ top ∈ session.derivedTables, session.Frontier requests top ∧
          TransGen session.DerivedEdge id top.table.id) →
        session.UsedTwice requests id := by
  constructor
  · rintro hclosed id name hdependency ⟨top, htop, hfrontier, hpath⟩
    by_cases hid : id ∈ ids
    · obtain ⟨found, -, hfound, rfl⟩ := (hids id).1 hid
      exact hfound.eligible.shared
    · exact absurd hpath
        (hclosed id name hdependency hid _ ((hids _).2 ⟨top, htop, hfrontier, rfl⟩))
  · intro hshared id name hdependency _ target htarget hpath
    obtain ⟨top, htop, hfrontier, rfl⟩ := (hids target).1 htarget
    have htwice := hshared id name hdependency ⟨top, htop, hfrontier, hpath⟩
    obtain ⟨-, derived, hmem, rfl, -⟩ := hresolves _ hdependency
    exact hfrontier.uncovered derived hmem (h.eligible_of_path hmem hpath htwice) hpath

end Automatic

/-- **Replay closure of automatic selection.** For any session history and any requests, the
cached aliases are replay-closed if and only if no alias private to one request stands between
it and the frontier. -/
theorem automatic_selection_closed_iff (calls : List (SessionCall Provider Schema))
    (hbound : (fresh.run calls).tableCount < u64Max) (requests : List OutputWritePlan) :
    (fresh.run calls).AutomaticallyClosed requests ↔
      (fresh.run calls).NoPrivateDetour requests := by
  have h := run_consistent calls hbound
  generalize fresh.run calls = session at h
  by_cases hlength : 2 ≤ requests.length
  · rw [NoPrivateDetour, ← h.cacheAliases_iff hlength, forall_exists_index]
    refine forall₂_congr fun aliases hdecision => ?_
    -- the cached ids are those of the frontier, so a path to it must not meet a private alias first
    have hids := fun id => @Consistent.mem_frontierIds _ _ session requests h aliases hlength
      hdecision id
    rw [h.validateExplicitCacheReplayClosure_iff]
    constructor
    · rintro ⟨-, hrequests⟩ request hrequest hkind hother
      have hnot : request.table.id ∉ BTreeSet.ofList compare (aliases.map (·.tableId)) := by
        intro hid
        obtain ⟨top, htop, hfrontier, heq⟩ := (hids _).1 hid
        exact hother top htop hfrontier heq
      obtain ⟨lineage, hlineage, hclosed⟩ := hrequests request hrequest hkind hnot
      have hresolves := h.lineage_resolves hlineage
      exact ⟨lineage, hlineage, (h.directlyClosed_frontier_iff hids hresolves).1 hclosed⟩
    · intro hdetour
      refine ⟨fun derived hmem => frontier_directlyClosed hids hmem, ?_⟩
      intro request hrequest hkind hnot
      have hother : ∀ top ∈ session.derivedTables, session.Frontier requests top →
          top.table.id ≠ request.table.id :=
        fun top htop hfrontier heq => hnot ((hids _).2 ⟨top, htop, hfrontier, heq⟩)
      obtain ⟨lineage, hlineage, hshared⟩ := hdetour request hrequest hkind hother
      have hresolves := h.lineage_resolves hlineage
      exact ⟨lineage, hlineage, (h.directlyClosed_frontier_iff hids hresolves).2 hshared⟩
  -- fewer than two requests share nothing, and nothing is cached
  · refine ⟨fun _ heligible => ?_, fun _ aliases hdecision => ?_⟩
    · obtain ⟨derived, -, heligible⟩ := heligible
      exact absurd heligible.shared.two_le_length hlength
    · rw [planMssqlOutputCache, if_pos (by omega)] at hdecision
      cases hdecision

end Session

/-- Both outputs use `shared`, the second one through `middle`, which nobody else uses. -/
def detourCalls : List (SessionCall String Unit) :=
  [sampleSource "orders", sampleQuery ["orders"], sampleAlias 1 "shared", sampleQuery ["shared"],
    sampleAlias 2 "middle", sampleQuery ["shared"], sampleQuery ["middle"]]

theorem detour_hides_shared :
    ¬(Session.fresh.run detourCalls).AutomaticallyClosed
      [sampleOutput 3 "a", sampleOutput 4 "b"] := by
  intro hclosed
  have hdecision : ((Session.fresh.run detourCalls).planMssqlOutputCache
      [sampleOutput 3 "a", sampleOutput 4 "b"]).decision =
      .cacheAliases [⟨1, "shared", [0, 1]⟩] := by decide
  have hrefused : (Session.fresh.run detourCalls).validateExplicitCacheReplayClosure
      [sampleOutput 3 "a", sampleOutput 4 "b"] [1] ≠ .ok () := by decide
  exact hrefused (hclosed _ hdecision)

theorem chain_has_no_detour :
    (Session.fresh.run chainCalls).tableCount < u64Max ∧
      (Session.fresh.run chainCalls).NoPrivateDetour
        [sampleOutput 3 "a", sampleOutput 4 "b"] := by
  have hbound : (Session.fresh.run chainCalls).tableCount < u64Max := by decide
  refine ⟨hbound, (Session.automatic_selection_closed_iff chainCalls hbound _).1 ?_⟩
  intro aliases hdecision
  have hdeep : ((Session.fresh.run chainCalls).planMssqlOutputCache
      [sampleOutput 3 "a", sampleOutput 4 "b"]).decision = .cacheAliases [⟨2, "deep", [0, 1]⟩] := by
    decide
  rw [hdeep] at hdecision
  cases hdecision
  decide

end DeltaFunnel
