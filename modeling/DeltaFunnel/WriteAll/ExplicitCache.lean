import DeltaFunnel.WriteAll.ReplayClosure

/-! Explicit cache selection: when the requested aliases are accepted, and the plan they give. -/

namespace DeltaFunnel
open Collections Relation

variable {Provider Schema : Type}

namespace Session

def selectedIds (session : Session Provider Schema) (aliases : List String) : List ℕ :=
  (session.derivedTables.filter fun derived =>
    aliases.any fun aliasName => eqIgnoreAsciiCase derived.name aliasName).map (·.table.id)

/-- The names are distinct, each names an eligible alias, and on every lineage path from a
selected alias or another derived request to a selected alias, all aliases are selected. -/
structure ExplicitlySound (session : Session Provider Schema) (requests : List OutputWritePlan)
    (aliases : List String) : Prop where
  distinct : (aliases.map toAsciiLowercase).Nodup
  eligible : ∀ aliasName ∈ aliases, ∃ derived ∈ session.derivedTables,
    eqIgnoreAsciiCase derived.name aliasName = true ∧ session.Eligible requests derived
  aliases_closed : ∀ derived ∈ session.derivedTables,
    derived.table.id ∈ session.selectedIds aliases →
    session.PathsSelected (session.selectedIds aliases) derived.lineage
  requests_closed : ∀ request ∈ requests, request.table.kind = .derivedSql →
    request.table.id ∉ session.selectedIds aliases →
    ∀ lineage, session.lineageForDerivedTable request.table = .ok lineage →
      session.PathsSelected (session.selectedIds aliases) lineage

/-- The table is registered in the session or waits in it for an alias. -/
def Owns (session : Session Provider Schema) (table : LazyTable) : Prop :=
  (∃ derived ∈ session.derivedTables, derived.table.id = table.id) ∨
    ∃ pending ∈ session.pendingDerivedTables, pending.table.id = table.id

section Names
variable {session : Session Provider Schema} {requests : List OutputWritePlan}

theorem mem_selectedIds {aliases : List String} {id : ℕ} :
    id ∈ session.selectedIds aliases ↔ ∃ derived ∈ session.derivedTables,
      (∃ aliasName ∈ aliases, eqIgnoreAsciiCase derived.name aliasName = true) ∧
        derived.table.id = id := by
  simp only [selectedIds, List.mem_map, List.mem_filter, List.any_eq_true]
  constructor
  · rintro ⟨derived, ⟨hmem, hnamed⟩, hid⟩
    exact ⟨derived, hmem, hnamed, hid⟩
  · rintro ⟨derived, hmem, hnamed, hid⟩
    exact ⟨derived, ⟨hmem, hnamed⟩, hid⟩

theorem Consistent.mem_selectedIds_iff (h : session.Consistent) {aliases : List String}
    {derived : RegisteredDerivedTable Schema} (hmem : derived ∈ session.derivedTables) :
    derived.table.id ∈ session.selectedIds aliases ↔
      ∃ aliasName ∈ aliases, eqIgnoreAsciiCase derived.name aliasName = true := by
  rw [mem_selectedIds]
  constructor
  · rintro ⟨found, hfound, hnamed, hid⟩
    rwa [← h.derived_eq_of_id hfound hmem hid]
  · intro hnamed
    exact ⟨derived, hmem, hnamed, rfl⟩

theorem selectedIds_cons {aliasName : String} {aliases : List String} {id : ℕ} :
    id ∈ session.selectedIds (aliasName :: aliases) ↔
      id ∈ session.selectedIds [aliasName] ∨ id ∈ session.selectedIds aliases := by
  simp only [mem_selectedIds, List.mem_cons, List.not_mem_nil, or_false, exists_eq_left,
    or_and_right, and_or_left, exists_or]

theorem Consistent.registeredDerivedTable_eq (h : session.Consistent)
    {derived : RegisteredDerivedTable Schema} (hmem : derived ∈ session.derivedTables)
    {aliasName : String} (hname : eqIgnoreAsciiCase derived.name aliasName = true) :
    session.registeredDerivedTable aliasName = some derived := by
  have hnames : (session.derivedTables.map fun derived =>
      toAsciiLowercase derived.name).Nodup := by
    have hall := h.names_nodup
    rw [aliasNames, List.map_append, List.map_map, List.map_map] at hall
    exact hall.of_append_right
  rcases hfound : session.registeredDerivedTable aliasName with _ | found
  · exact absurd hname (by simpa using List.find?_eq_none.1 hfound derived hmem)
  · have hfoundMem : found ∈ session.derivedTables := List.mem_of_find?_eq_some hfound
    have hfoundName := List.find?_some hfound
    rw [eqIgnoreAsciiCase_iff] at hname hfoundName
    rw [List.inj_on_of_nodup_map hnames hfoundMem hmem (hfoundName.trans hname.symm)]

theorem mem_of_registeredDerivedTable {aliasName : String}
    {derived : RegisteredDerivedTable Schema}
    (hfound : session.registeredDerivedTable aliasName = some derived) :
    derived ∈ session.derivedTables ∧ eqIgnoreAsciiCase derived.name aliasName = true := by
  have hname := List.find?_some hfound
  exact ⟨List.mem_of_find?_eq_some hfound, hname⟩

theorem Consistent.selectedIds_singleton (h : session.Consistent) {aliasName : String}
    {derived : RegisteredDerivedTable Schema}
    (hfound : session.registeredDerivedTable aliasName = some derived) {id : ℕ} :
    id ∈ session.selectedIds [aliasName] ↔ id = derived.table.id := by
  simp only [mem_selectedIds, List.mem_singleton, exists_eq_left]
  constructor
  · rintro ⟨other, hother, hname, rfl⟩
    have hsame := h.registeredDerivedTable_eq hother hname
    rw [hfound] at hsame
    rw [Option.some.inj hsame]
  · rintro rfl
    obtain ⟨hmem, hname⟩ := mem_of_registeredDerivedTable hfound
    exact ⟨derived, hmem, hname, rfl⟩

theorem Consistent.lineage_ok_iff (h : session.Consistent) {table : LazyTable}
    (hkind : table.kind = .derivedSql) :
    (∃ lineage, session.lineageForDerivedTable table = .ok lineage) ↔ session.Owns table := by
  unfold lineageForDerivedTable Owns
  rw [if_neg (by simp [hkind])]
  rcases hderived : session.registeredDerivedTableById table.id with _ | derived
  · have hnotDerived : ¬∃ derived ∈ session.derivedTables, derived.table.id = table.id := by
      rintro ⟨derived, hmem, hid⟩
      rw [← hid, h.registeredDerivedTableById_eq hmem] at hderived
      cases hderived
    rcases hpending : session.pendingDerivedTableById table.id with _ | pending
    · have hnotPending : ¬∃ pending ∈ session.pendingDerivedTables,
          pending.table.id = table.id := by
        rintro ⟨pending, hmem, hid⟩
        have hnone := List.find?_eq_none.1 hpending pending hmem
        exact hnone (decide_eq_true hid)
      simp [hnotDerived, hnotPending]
    · refine ⟨fun _ => .inr ?_, fun _ => ⟨_, rfl⟩⟩
      exact ⟨pending, List.mem_of_find?_eq_some hpending, by simpa using List.find?_some hpending⟩
  · obtain ⟨hmem, hid⟩ := mem_of_registeredDerivedTableById hderived
    exact ⟨fun _ => .inl ⟨derived, hmem, hid⟩, fun _ => ⟨_, rfl⟩⟩

end Names

section Resolve
variable {session : Session Provider Schema} {requests : List OutputWritePlan}

theorem Consistent.candidate_any_iff (h : session.Consistent)
    {derived : RegisteredDerivedTable Schema} (hmem : derived ∈ session.derivedTables) :
    ((session.sharedMssqlOutputCacheCandidates requests).1.any fun candidate =>
      candidate.tableId = derived.table.id) = true ↔ session.Eligible requests derived := by
  simp only [List.any_eq_true, h.mem_candidates, decide_eq_true_eq]
  constructor
  · rintro ⟨_, ⟨other, hother, heligible, rfl⟩, hid⟩
    rwa [h.derived_eq_of_id hmem hother hid.symm]
  · intro heligible
    exact ⟨_, ⟨derived, hmem, heligible, rfl⟩, rfl⟩

theorem Consistent.resolveRequestedAliases_ids (h : session.Consistent)
    {candidates : List MssqlDerivedCacheAliasPlan} {names : List String} {ids found : List ℕ}
    {aliases : List String}
    (hresolved : session.resolveRequestedAliases candidates names ids aliases = .ok found)
    {id : ℕ} : id ∈ found ↔ id ∈ ids ∨ id ∈ session.selectedIds aliases := by
  induction aliases generalizing names ids with
  | nil =>
    cases hresolved
    simp [selectedIds]
  | cons aliasName aliases ih =>
    unfold resolveRequestedAliases at hresolved
    split_ifs at hresolved
    split at hresolved
    · cases hresolved
    · next derived hfound =>
      split_ifs at hresolved
      rw [ih hresolved, BTreeSet.mem_insert fun a b => Nat.compare_eq_eq.1, selectedIds_cons,
        h.selectedIds_singleton hfound]
      tauto

theorem Consistent.mem_resolved_iff (h : session.Consistent)
    {candidates : List MssqlDerivedCacheAliasPlan} {ids : List ℕ} {aliases : List String}
    (hresolved : session.resolveRequestedAliases candidates [] [] aliases = .ok ids) (id : ℕ) :
    id ∈ ids ↔ id ∈ session.selectedIds aliases := by
  rw [h.resolveRequestedAliases_ids hresolved]
  simp

theorem Consistent.resolveRequestedAliases_iff (h : session.Consistent) {names : List String}
    {ids : List ℕ} {aliases : List String} :
    (∃ found, session.resolveRequestedAliases
      (session.sharedMssqlOutputCacheCandidates requests).1 names ids aliases = .ok found) ↔
      (aliases.map toAsciiLowercase).Nodup ∧
      (∀ aliasName ∈ aliases, toAsciiLowercase aliasName ∉ names) ∧
      ∀ aliasName ∈ aliases, ∃ derived ∈ session.derivedTables,
        eqIgnoreAsciiCase derived.name aliasName = true ∧ session.Eligible requests derived := by
  -- over the aliases that are left, with the names already taken
  induction aliases generalizing names ids with
  | nil => simp [resolveRequestedAliases]
  | cons aliasName aliases ih =>
    have hinsert : ∀ {name : String}, name ∈ BTreeSet.insert compare
        (toAsciiLowercase aliasName) names ↔ name = toAsciiLowercase aliasName ∨ name ∈ names :=
      BTreeSet.mem_insert fun a b => Std.LawfulEqCmp.eq_of_compare
    unfold resolveRequestedAliases
    by_cases hnew : toAsciiLowercase aliasName ∈ names
    · simp only [if_pos hnew]
      refine ⟨nofun, ?_⟩
      rintro ⟨-, hnames, -⟩
      exact absurd hnew (hnames aliasName (List.mem_cons_self ..))
    · simp only [if_neg hnew]
      rcases hfound : session.registeredDerivedTable aliasName with _ | derived
      · refine ⟨nofun, ?_⟩
        rintro ⟨-, -, hall⟩
        obtain ⟨derived, hmem, hname, -⟩ := hall aliasName (List.mem_cons_self ..)
        rw [h.registeredDerivedTable_eq hmem hname] at hfound
        cases hfound
      · obtain ⟨hmem, hname⟩ := mem_of_registeredDerivedTable hfound
        -- names are unique without regard to case, so this is the only table meant
        have hnamed : (∃ found ∈ session.derivedTables,
            eqIgnoreAsciiCase found.name aliasName = true ∧ session.Eligible requests found) ↔
            session.Eligible requests derived := by
          constructor
          · rintro ⟨found, hfoundMem, hfoundName, heligible⟩
            have hsame := h.registeredDerivedTable_eq hfoundMem hfoundName
            rw [hfound] at hsame
            rwa [Option.some.inj hsame]
          · intro heligible
            exact ⟨derived, hmem, hname, heligible⟩
        by_cases heligible : session.Eligible requests derived
        · simp only [if_pos ((h.candidate_any_iff hmem).2 heligible), ih]
          constructor
          · rintro ⟨hdistinct, hnames, hall⟩
            refine ⟨?_, ?_, List.forall_mem_cons.2 ⟨hnamed.2 heligible, hall⟩⟩
            · rw [List.map_cons, List.nodup_cons]
              refine ⟨fun hmem => ?_, hdistinct⟩
              obtain ⟨other, hother, heq⟩ := List.mem_map.1 hmem
              exact hnames other hother (hinsert.2 (.inl heq))
            · refine List.forall_mem_cons.2 ⟨hnew, fun other hother hold => ?_⟩
              exact hnames other hother (hinsert.2 (.inr hold))
          · rintro ⟨hdistinct, hnames, hall⟩
            rw [List.map_cons, List.nodup_cons] at hdistinct
            refine ⟨hdistinct.2, fun other hother hmem => ?_, (List.forall_mem_cons.1 hall).2⟩
            rcases hinsert.1 hmem with heq | hold
            · exact hdistinct.1 (List.mem_map.2 ⟨other, hother, heq⟩)
            · exact hnames other (List.mem_cons_of_mem _ hother) hold
        · have hrefused := mt (h.candidate_any_iff hmem).1 heligible
          simp only [if_neg hrefused]
          refine ⟨nofun, ?_⟩
          rintro ⟨-, -, hall⟩
          exact absurd (hnamed.1 (hall aliasName (List.mem_cons_self ..))) heligible

end Resolve

section Plan
variable {session : Session Provider Schema} {requests : List OutputWritePlan}
  {aliases : List String}

theorem planMssqlOutputCacheExplicit_eq_ok (hne : aliases ≠ []) {plan : MssqlOutputCachePlan} :
    session.planMssqlOutputCacheExplicit requests aliases = .ok plan ↔
      ∃ ids, session.resolveRequestedAliases
          (session.sharedMssqlOutputCacheCandidates requests).1 [] [] aliases = .ok ids ∧
        session.validateExplicitCacheReplayClosure requests ids = .ok () ∧
        plan = ⟨.cacheAliases ((session.sharedMssqlOutputCacheCandidates requests).1.filter
            fun candidate => candidate.tableId ∈ ids),
          (session.sharedMssqlOutputCacheCandidates requests).2 ++ session.skipsFor
            (((session.sharedMssqlOutputCacheCandidates requests).1.filter
              fun candidate => candidate.tableId ∉ ids).map fun candidate =>
                (candidate.tableId, .notExplicitlySelected))⟩ := by
  have hnonempty : aliases.isEmpty = false := by simpa using hne
  unfold planMssqlOutputCacheExplicit
  simp only [hnonempty, Bool.false_eq_true, if_false]
  rw [except_bind_eq_ok]
  refine exists_congr fun ids => and_congr_right fun _ => ?_
  rw [except_bind_eq_ok]
  constructor
  · rintro ⟨⟨⟩, hclosed, hplan⟩
    exact ⟨hclosed, (Except.ok.inj hplan).symm⟩
  · rintro ⟨hclosed, hplan⟩
    exact ⟨(), hclosed, congrArg Except.ok hplan.symm⟩

theorem Consistent.candidates_order (h : session.Consistent) :
    (session.sharedMssqlOutputCacheCandidates requests).1.Pairwise fun earlier later =>
      ¬TransGen session.DerivedEdge earlier.tableId later.tableId := by
  have hid : ∀ derived plan, (session.classifyCacheCandidate requests derived).getLeft? =
      some plan → plan.tableId = derived.table.id := by
    intro derived plan hplan
    rcases h.classifyCacheCandidate_cases requests derived with ⟨-, heq⟩ | ⟨-, reason, heq⟩
    · rw [heq] at hplan
      rw [← Option.some.inj hplan]
      rfl
    · rw [heq] at hplan
      cases hplan
  unfold sharedMssqlOutputCacheCandidates
  dsimp only
  rw [List.filterMap_map, List.pairwise_filterMap]
  refine h.registration_order.imp fun hnot plan hplan plan' hplan' => ?_
  rw [hid _ _ hplan, hid _ _ hplan']
  exact hnot

theorem Consistent.candidate_keys_nodup (h : session.Consistent)
    (requests : List OutputWritePlan) :
    ((session.sharedMssqlOutputCacheCandidates requests).1.map (·.key)).Nodup :=
  ((h.candidates_perm requests).nodup_iff.2 h.keys_nodup).of_append_left

theorem Consistent.closure_iff_paths (h : session.Consistent) {ids : List ℕ} :
    session.validateExplicitCacheReplayClosure requests ids = .ok () ↔
      (∀ derived ∈ session.derivedTables, derived.table.id ∈ ids →
        session.PathsSelected ids derived.lineage) ∧
      ∀ request ∈ requests, request.table.kind = .derivedSql → request.table.id ∉ ids →
        session.Owns request.table ∧
        ∀ lineage, session.lineageForDerivedTable request.table = .ok lineage →
          session.PathsSelected ids lineage := by
  rw [h.validateExplicitCacheReplayClosure_iff]
  constructor
  · rintro ⟨haliases, hrequests⟩
    refine ⟨fun derived hmem hid => h.paths_of_directlyClosed haliases (haliases derived hmem hid),
      ?_⟩
    intro request hrequest hkind hid
    obtain ⟨lineage, hlineage, hclosed⟩ := hrequests request hrequest hkind hid
    refine ⟨(h.lineage_ok_iff hkind).1 ⟨lineage, hlineage⟩, fun lineage' hlineage' => ?_⟩
    rw [hlineage] at hlineage'
    cases hlineage'
    exact h.paths_of_directlyClosed haliases hclosed
  · rintro ⟨haliases, hrequests⟩
    refine ⟨fun derived hmem hid =>
      h.directlyClosed_of_paths (h.derived_resolves hmem) (haliases derived hmem hid), ?_⟩
    intro request hrequest hkind hid
    obtain ⟨howned, hpaths⟩ := hrequests request hrequest hkind hid
    obtain ⟨lineage, hlineage⟩ := (h.lineage_ok_iff hkind).2 howned
    exact ⟨lineage, hlineage,
      h.directlyClosed_of_paths (h.lineage_resolves hlineage) (hpaths lineage hlineage)⟩

theorem Consistent.explicit_ok_iff (h : session.Consistent) (hne : aliases ≠ []) :
    (∃ plan, session.planMssqlOutputCacheExplicit requests aliases = .ok plan) ↔
      session.ExplicitlySound requests aliases ∧
      ∀ request ∈ requests, request.table.kind = .derivedSql →
        request.table.id ∉ session.selectedIds aliases → session.Owns request.table := by
  have hnames : (∃ ids, session.resolveRequestedAliases
      (session.sharedMssqlOutputCacheCandidates requests).1 [] [] aliases = .ok ids) ↔ _ :=
    h.resolveRequestedAliases_iff
  simp only [planMssqlOutputCacheExplicit_eq_ok hne]
  constructor
  · rintro ⟨plan, ids, hresolved, hclosed, -⟩
    obtain ⟨hdistinct, -, heligible⟩ := hnames.1 ⟨ids, hresolved⟩
    obtain ⟨haliases, hrequests⟩ := h.closure_iff_paths.1 hclosed
    simp only [PathsSelected, h.mem_resolved_iff hresolved] at haliases hrequests
    exact ⟨⟨hdistinct, heligible, haliases,
      fun request hrequest hkind hid => (hrequests request hrequest hkind hid).2⟩,
      fun request hrequest hkind hid => (hrequests request hrequest hkind hid).1⟩
  · rintro ⟨hsound, howned⟩
    obtain ⟨ids, hresolved⟩ :=
      hnames.2 ⟨hsound.distinct, fun _ _ => List.not_mem_nil, hsound.eligible⟩
    have hids := h.mem_resolved_iff hresolved
    refine ⟨_, ids, hresolved, h.closure_iff_paths.2 ⟨?_, ?_⟩, rfl⟩
    · intro derived hmem hid between target
      simp only [hids] at hid ⊢
      exact hsound.aliases_closed derived hmem hid between target
    · intro request hrequest hkind hid
      rw [hids] at hid
      refine ⟨howned request hrequest hkind hid, fun lineage hlineage between target => ?_⟩
      simp only [hids]
      exact hsound.requests_closed request hrequest hkind hid lineage hlineage between target

structure ExplicitPlan (session : Session Provider Schema) (requests : List OutputWritePlan)
    (aliases : List String) (plan : MssqlOutputCachePlan)
    (cached : List MssqlDerivedCacheAliasPlan) : Prop where
  decision : plan.decision = .cacheAliases cached
  keys_nodup : (cached.map (·.key)).Nodup
  selected : ∀ key, key ∈ cached.map (·.key) ↔ ∃ derived ∈ session.derivedTables,
    derived.table.id ∈ session.selectedIds aliases ∧ derived.key = key
  dependency_order : cached.Pairwise fun earlier later =>
    ¬TransGen session.DerivedEdge earlier.tableId later.tableId
  skipped : ∀ derived ∈ session.derivedTables, session.Eligible requests derived →
    derived.table.id ∉ session.selectedIds aliases →
    ⟨derived.table.id, derived.name, .notExplicitlySelected⟩ ∈ plan.skippedCandidates

theorem Consistent.explicitPlan (h : session.Consistent) (hne : aliases ≠ [])
    {plan : MssqlOutputCachePlan}
    (hplan : session.planMssqlOutputCacheExplicit requests aliases = .ok plan) :
    ∃ cached, session.ExplicitPlan requests aliases plan cached := by
  obtain ⟨ids, hresolved, -, rfl⟩ := (planMssqlOutputCacheExplicit_eq_ok hne).1 hplan
  obtain ⟨-, -, heligible⟩ := h.resolveRequestedAliases_iff.1 ⟨ids, hresolved⟩
  have hids := h.mem_resolved_iff hresolved
  refine ⟨_, ⟨rfl, ?_, fun key => ?_, h.candidates_order.sublist List.filter_sublist, ?_⟩⟩
  · exact (h.candidate_keys_nodup requests).sublist (List.filter_sublist.map _)
  · simp only [List.mem_map, List.mem_filter, h.mem_candidates, decide_eq_true_eq, hids]
    constructor
    · rintro ⟨_, ⟨⟨derived, hmem, -, rfl⟩, hid⟩, hkey⟩
      exact ⟨derived, hmem, hid, hkey⟩
    · rintro ⟨derived, hmem, hid, hkey⟩
      obtain ⟨aliasName, haliasName, hname⟩ := (h.mem_selectedIds_iff hmem).1 hid
      obtain ⟨found, hfound, hfoundName, hfoundEligible⟩ := heligible aliasName haliasName
      have hsame := h.registeredDerivedTable_eq hfound hfoundName
      rw [h.registeredDerivedTable_eq hmem hname] at hsame
      rw [← Option.some.inj hsame] at hfoundEligible
      exact ⟨_, ⟨⟨derived, hmem, hfoundEligible, rfl⟩, hid⟩, hkey⟩
  · intro derived hmem hderived hid
    have hcandidate : session.candidateFor requests derived ∈
        (session.sharedMssqlOutputCacheCandidates requests).1.filter
          fun candidate => candidate.tableId ∉ ids := by
      refine List.mem_filter.2 ⟨h.mem_candidates.2 ⟨derived, hmem, hderived, rfl⟩, ?_⟩
      exact decide_eq_true fun hselected => hid ((hids _).1 hselected)
    have hregistered : ∀ candidate ∈ (session.sharedMssqlOutputCacheCandidates requests).1.filter
        (fun candidate => candidate.tableId ∉ ids), ∃ derived ∈ session.derivedTables,
          candidate.key = derived.key := by
      intro candidate hcandidate
      obtain ⟨other, hother, -, rfl⟩ := h.mem_candidates.1 (List.mem_filter.1 hcandidate).1
      exact ⟨other, hother, rfl⟩
    refine List.mem_append_right _ ?_
    rw [@Consistent.skipsFor_map _ _ session h _ _ (fun candidate => candidate)
      (fun _ => .notExplicitlySelected) hregistered]
    exact List.mem_map.2 ⟨_, hcandidate, rfl⟩

end Plan

/-- **Explicit cache selection.** For any session history, requests and non-empty list of
names, the selection is accepted if and only if it is sound and the session owns every derived
request that is not selected. The accepted plan lists every selected alias once, after those it
depends on, and skips every other eligible alias as not selected. -/
theorem explicit_selection_is_sound (calls : List (SessionCall Provider Schema))
    (hbound : (fresh.run calls).tableCount < u64Max) (requests : List OutputWritePlan)
    (aliases : List String) (hne : aliases ≠ []) :
    let session := fresh.run calls
    ((∃ plan, session.planMssqlOutputCacheExplicit requests aliases = .ok plan) ↔
      session.ExplicitlySound requests aliases ∧
      ∀ request ∈ requests, request.table.kind = .derivedSql →
        request.table.id ∉ session.selectedIds aliases → session.Owns request.table) ∧
    ∀ plan, session.planMssqlOutputCacheExplicit requests aliases = .ok plan →
      ∃ cached, session.ExplicitPlan requests aliases plan cached := by
  have h := run_consistent calls hbound
  exact ⟨h.explicit_ok_iff hne, fun plan hplan => h.explicitPlan hne hplan⟩

end Session

def bigCalls : List (SessionCall String Unit) :=
  [sampleSource "orders", sampleQuery ["orders"], sampleAlias 1 "big"]

/-- Two outputs of `big`, and one of a table that another session made. -/
def foreignRequests : List OutputWritePlan :=
  [sampleOutput 1 "a", sampleOutput 1 "b", sampleOutput 9 "c"]

theorem bigCalls_consistent : (Session.fresh.run bigCalls).Consistent :=
  Session.run_consistent bigCalls (by decide)

theorem bigCalls_no_path {derived : RegisteredDerivedTable Unit}
    (hmem : derived ∈ (Session.fresh.run bigCalls).derivedTables) {between : List ℕ}
    {target : ℕ} :
    ¬(Session.fresh.run bigCalls).LineagePath derived.lineage between target := by
  have hnone : ∀ derived ∈ (Session.fresh.run bigCalls).derivedTables,
      derived.lineage.directDependencies = [.registeredSource 0 "orders"] := by decide
  intro hpath
  obtain ⟨first, name, hdependency, -⟩ := hpath.reaches
  rw [hnone derived hmem] at hdependency
  simp at hdependency

theorem foreign_request_is_refused :
    ¬((∃ plan, (Session.fresh.run bigCalls).planMssqlOutputCacheExplicit foreignRequests
      ["big"] = .ok plan) ↔
        (Session.fresh.run bigCalls).ExplicitlySound foreignRequests ["big"]) := by
  have hrefused : ((Session.fresh.run bigCalls).planMssqlOutputCacheExplicit foreignRequests
      ["big"]).toOption = none := by decide
  have hresolved : (Session.fresh.run bigCalls).resolveRequestedAliases
      ((Session.fresh.run bigCalls).sharedMssqlOutputCacheCandidates foreignRequests).1 [] []
      ["big"] = .ok [1] := by decide
  have hforeign : ∀ request ∈ foreignRequests,
      request.table.id ∈ (Session.fresh.run bigCalls).selectedIds ["big"] ∨
        ((Session.fresh.run bigCalls).lineageForDerivedTable request.table).toOption = none := by
    decide
  obtain ⟨hdistinct, -, heligible⟩ :=
    bigCalls_consistent.resolveRequestedAliases_iff.1 ⟨_, hresolved⟩
  have hsound : (Session.fresh.run bigCalls).ExplicitlySound foreignRequests ["big"] := by
    refine ⟨hdistinct, heligible, ?_, ?_⟩
    · intro derived hmem _ between target hpath
      exact absurd hpath (bigCalls_no_path hmem)
    · intro request hrequest _ hid lineage hlineage
      rcases hforeign request hrequest with hselected | hunknown
      · exact absurd hselected hid
      · rw [hlineage] at hunknown
        cases hunknown
  intro hiff
  obtain ⟨plan, hplan⟩ := hiff.2 hsound
  rw [hplan] at hrefused
  cases hrefused

theorem deep_selection_is_sound :
    (Session.fresh.run chainCalls).planMssqlOutputCacheExplicit
      [sampleOutput 3 "a", sampleOutput 4 "b"] ["Deep"] =
        .ok ⟨.cacheAliases [⟨2, "deep", [0, 1]⟩], [⟨1, "shared", .notExplicitlySelected⟩]⟩ ∧
      (Session.fresh.run chainCalls).ExplicitlySound
        [sampleOutput 3 "a", sampleOutput 4 "b"] ["Deep"] := by
  have haccepted : (Session.fresh.run chainCalls).planMssqlOutputCacheExplicit
      [sampleOutput 3 "a", sampleOutput 4 "b"] ["Deep"] =
        .ok ⟨.cacheAliases [⟨2, "deep", [0, 1]⟩], [⟨1, "shared", .notExplicitlySelected⟩]⟩ := by
    decide
  exact ⟨haccepted, ((Session.explicit_selection_is_sound chainCalls (by decide)
    [sampleOutput 3 "a", sampleOutput 4 "b"] ["Deep"] (by simp)).1.1 ⟨_, haccepted⟩).1⟩

end DeltaFunnel
