import DeltaFunnel.Session.RegistryInvariant

/-! What the lineage of a statement records of the tables it reads. -/

namespace DeltaFunnel
open Collections
variable {Provider Schema : Type}

namespace DerivedTableDependency

def rank : DerivedTableDependency → ℕ
  | .registeredSource _ _ => 0
  | .registeredDerived _ _ => 1

def tableName : DerivedTableDependency → String
  | .registeredSource _ name => name
  | .registeredDerived _ name => name

theorem cmp_eq_lex :
    cmp = compareLex (compareOn rank) (compareLex (compareOn tableId) (compareOn tableName)) := by
  funext a b
  cases a with
  | registeredSource id name =>
    cases b with
    | registeredSource id' name' => rfl
    | registeredDerived id' name' => rfl
  | registeredDerived id name =>
    cases b with
    | registeredSource id' name' => rfl
    | registeredDerived id' name' => rfl

instance : Std.TransCmp cmp := by
  rw [cmp_eq_lex]
  infer_instance

end DerivedTableDependency

namespace Session
variable {session : Session Provider Schema}

theorem names_nodup_run (calls : List (SessionCall Provider Schema)) :
    ((fresh.run calls).aliasNames.map toAsciiLowercase).Nodup := by
  induction calls using List.reverseRecOn with
  | nil => exact List.nodup_nil
  | append_singleton calls call ih =>
    rw [run_snoc]
    rcases (call_effect (fresh.run calls) call).aliasNames_perm with hsame |
      ⟨name, -, hfresh, hperm⟩
    · rw [hsame]
      exact ih
    · rw [(hperm.map toAsciiLowercase).nodup_iff, List.map_cons, List.nodup_cons]
      exact ⟨lowercase_not_mem_of_fresh hfresh, ih⟩

/-- The registered table that a bare name stands for, in whatever case it is written. -/
def NamedBy (session : Session Provider Schema) (name : String)
    (dependency : DerivedTableDependency) : Prop :=
  (∃ derived ∈ session.derivedTables, eqIgnoreAsciiCase derived.name name = true ∧
      dependency = .registeredDerived derived.table.id derived.name) ∨
    ∃ source ∈ session.sources, eqIgnoreAsciiCase source.name name = true ∧
      dependency = .registeredSource source.table.id source.name

theorem pairwise_of_names_nodup (h : (session.aliasNames.map toAsciiLowercase).Nodup) :
    (session.sources.map fun source => toAsciiLowercase source.name).Nodup ∧
      (session.derivedTables.map fun derived => toAsciiLowercase derived.name).Nodup ∧
      ∀ source ∈ session.sources, ∀ derived ∈ session.derivedTables,
        toAsciiLowercase source.name ≠ toAsciiLowercase derived.name := by
  rw [aliasNames, List.map_append, List.map_map, List.map_map] at h
  obtain ⟨hsources, hderived, hdisjoint⟩ := List.nodup_append.1 h
  refine ⟨hsources, hderived, fun source hsource derived hmem => ?_⟩
  exact hdisjoint _ (List.mem_map_of_mem hsource) _ (List.mem_map_of_mem hmem)

theorem find?_eq_some_iff_of_nodup {α : Type} {key : α → String} {xs : List α}
    (h : (xs.map key).Nodup) {k : String} {x : α} :
    xs.find? (fun y => decide (key y = k)) = some x ↔ x ∈ xs ∧ key x = k := by
  constructor
  · intro hfind
    have hkey := List.find?_some hfind
    exact ⟨List.mem_of_find?_eq_some hfind, of_decide_eq_true hkey⟩
  · rintro ⟨hmem, rfl⟩
    cases hfind : xs.find? fun y => decide (key y = key x) with
    | none => exact absurd (decide_eq_true rfl) (List.find?_eq_none.1 hfind x hmem)
    | some y =>
      have hkey := List.find?_some hfind
      rw [List.inj_on_of_nodup_map h (List.mem_of_find?_eq_some hfind) hmem
        (of_decide_eq_true hkey)]

theorem lineageDependency_iff (h : (session.aliasNames.map toAsciiLowercase).Nodup)
    {name : String} {dependency : DerivedTableDependency} :
    session.lineageDependency name = some dependency ↔ session.NamedBy name dependency := by
  obtain ⟨hsources, hderived, hapart⟩ := pairwise_of_names_nodup h
  have hderivedIff : ∀ derived, session.registeredDerivedTable name = some derived ↔
      derived ∈ session.derivedTables ∧ toAsciiLowercase derived.name = toAsciiLowercase name :=
    fun derived => find?_eq_some_iff_of_nodup hderived
  have hsourceIff : ∀ source, session.registeredSource name = some source ↔
      source ∈ session.sources ∧ toAsciiLowercase source.name = toAsciiLowercase name :=
    fun source => find?_eq_some_iff_of_nodup hsources
  simp only [NamedBy, eqIgnoreAsciiCase_iff, ← and_assoc, ← hderivedIff, ← hsourceIff]
  unfold lineageDependency
  cases hfound : session.registeredDerivedTable name with
  | some derived =>
    have hnone : ∀ source, session.registeredSource name ≠ some source := by
      intro source hsource
      obtain ⟨hmem, hname⟩ := (hderivedIff derived).1 hfound
      obtain ⟨hmem', hname'⟩ := (hsourceIff source).1 hsource
      exact hapart source hmem' derived hmem (hname'.trans hname.symm)
    simp only [hnone, false_and, exists_false, or_false, Option.some.injEq]
    constructor
    · rintro rfl
      exact ⟨derived, rfl, rfl⟩
    · rintro ⟨other, rfl, rfl⟩
      rfl
  | none =>
    simp only [reduceCtorEq, false_and, exists_false, false_or, Option.map_eq_some_iff]
    constructor
    · rintro ⟨source, hsource, rfl⟩
      exact ⟨source, hsource, rfl⟩
    · rintro ⟨source, hsource, rfl⟩
      exact ⟨source, hsource, rfl⟩

/-- What the classifier makes of the relations: those it skips, those it resolves and the rest. -/
structure Classified (session : Session Provider Schema) (localReferences : List String)
    (relations : List TableReference) (found : List DerivedTableDependency × List String) :
    Prop where
  dependencies : ∀ dependency, dependency ∈ found.1 ↔
    ∃ name, .bare name ∈ relations ∧ name ∉ localReferences ∧
      session.lineageDependency name = some dependency
  increasing : found.1.Pairwise fun a b => DerivedTableDependency.cmp a b = .lt
  unknown : ∀ text, text ∈ found.2 ↔ ∃ relation ∈ relations, relation.display = text ∧
    ∀ name, relation = .bare name →
      name ∉ localReferences ∧ session.lineageDependency name = none

theorem compare_string_eq {a b : String} (h : compare a b = .eq) : a = b :=
  Std.LawfulEqOrd.eq_of_compare h

theorem Classified.unresolved {localReferences : List String} {relations : List TableReference}
    {found : List DerivedTableDependency × List String}
    (h : Classified session localReferences relations found) {relation : TableReference}
    (hnew : ∀ name, relation = .bare name → session.lineageDependency name = none ∧
      name ∉ localReferences) :
    Classified session localReferences (relations ++ [relation])
      (found.1, BTreeSet.insert compare relation.display found.2) := by
  refine ⟨fun dependency => ?_, h.increasing, fun text => ?_⟩
  · rw [h.dependencies]
    constructor
    · rintro ⟨name, hmem, hrest⟩
      exact ⟨name, List.mem_append_left _ hmem, hrest⟩
    · rintro ⟨name, hmem, hlocal, hname⟩
      rcases List.mem_append.1 hmem with hmem | hmem
      · exact ⟨name, hmem, hlocal, hname⟩
      · rw [(hnew name (List.mem_singleton.1 hmem).symm).1] at hname
        cases hname
  · rw [BTreeSet.mem_insert fun _ _ => compare_string_eq, h.unknown]
    constructor
    · rintro (rfl | ⟨other, hmem, hrest⟩)
      · exact ⟨relation, List.mem_append_right _ (List.mem_singleton_self _), rfl,
          fun name hname => ⟨(hnew name hname).2, (hnew name hname).1⟩⟩
      · exact ⟨other, List.mem_append_left _ hmem, hrest⟩
    · rintro ⟨other, hmem, htext, hother⟩
      rcases List.mem_append.1 hmem with hmem | hmem
      · exact .inr ⟨other, hmem, htext, hother⟩
      · rw [List.mem_singleton.1 hmem] at htext
        exact .inl htext.symm

theorem Classified.skipped {localReferences : List String} {relations : List TableReference}
    {found : List DerivedTableDependency × List String}
    (h : Classified session localReferences relations found) {name : String}
    (hlocal : name ∈ localReferences) :
    Classified session localReferences (relations ++ [.bare name]) found := by
  refine ⟨fun dependency => ?_, h.increasing, fun text => ?_⟩
  · rw [h.dependencies]
    constructor
    · rintro ⟨other, hmem, hrest⟩
      exact ⟨other, List.mem_append_left _ hmem, hrest⟩
    · rintro ⟨other, hmem, hother, hdependency⟩
      rcases List.mem_append.1 hmem with hmem | hmem
      · exact ⟨other, hmem, hother, hdependency⟩
      · cases List.mem_singleton.1 hmem
        exact absurd hlocal hother
  · rw [h.unknown]
    constructor
    · rintro ⟨other, hmem, hrest⟩
      exact ⟨other, List.mem_append_left _ hmem, hrest⟩
    · rintro ⟨other, hmem, htext, hother⟩
      rcases List.mem_append.1 hmem with hmem | hmem
      · exact ⟨other, hmem, htext, hother⟩
      · exact absurd hlocal (hother name (List.mem_singleton.1 hmem)).1

theorem Classified.resolved {localReferences : List String} {relations : List TableReference}
    {found : List DerivedTableDependency × List String}
    (h : Classified session localReferences relations found) {name : String}
    {dependency : DerivedTableDependency} (hlocal : name ∉ localReferences)
    (hdependency : session.lineageDependency name = some dependency) :
    Classified session localReferences (relations ++ [.bare name])
      (BTreeSet.insert DerivedTableDependency.cmp dependency found.1, found.2) := by
  refine ⟨fun other => ?_, BTreeSet.insert_increasing _ h.increasing, fun text => ?_⟩
  · rw [BTreeSet.mem_insert DerivedTableDependency.eq_of_cmp_eq, h.dependencies]
    constructor
    · rintro (rfl | ⟨given, hmem, hrest⟩)
      · exact ⟨name, List.mem_append_right _ (List.mem_singleton_self _), hlocal, hdependency⟩
      · exact ⟨given, List.mem_append_left _ hmem, hrest⟩
    · rintro ⟨given, hmem, hgiven, hother⟩
      rcases List.mem_append.1 hmem with hmem | hmem
      · exact .inr ⟨given, hmem, hgiven, hother⟩
      · cases List.mem_singleton.1 hmem
        rw [hdependency] at hother
        exact .inl (Option.some.inj hother).symm
  · rw [h.unknown]
    constructor
    · rintro ⟨relation, hmem, hrest⟩
      exact ⟨relation, List.mem_append_left _ hmem, hrest⟩
    · rintro ⟨relation, hmem, htext, hrelation⟩
      rcases List.mem_append.1 hmem with hmem | hmem
      · exact ⟨relation, hmem, htext, hrelation⟩
      · rw [(hrelation name (List.mem_singleton.1 hmem)).2] at hdependency
        cases hdependency

theorem Classified.step {localReferences : List String} {relations : List TableReference}
    {found : List DerivedTableDependency × List String}
    (h : Classified session localReferences relations found) (relation : TableReference) :
    Classified session localReferences (relations ++ [relation])
      (session.classifyLineageReference localReferences found relation) := by
  cases relation with
  | bare name =>
    have hbare : bareTableReferenceName (.bare name) = some name := rfl
    unfold Session.classifyLineageReference
    rw [hbare]
    dsimp only
    split
    · next hlocal => exact h.skipped hlocal
    · next hlocal =>
      cases hdependency : session.lineageDependency name with
      | some dependency => exact h.resolved hlocal hdependency
      | none =>
        refine h.unresolved fun other hother => ?_
        cases hother
        exact ⟨hdependency, hlocal⟩
  | partialReference schema table =>
    refine h.unresolved fun name hname => ?_
    cases hname
  | full catalog schema table =>
    refine h.unresolved fun name hname => ?_
    cases hname

theorem classified_classifyLineageReferences (localReferences : List String)
    (relations : List TableReference) :
    Classified session localReferences relations
      (relations.foldl (session.classifyLineageReference localReferences) ([], [])) := by
  induction relations using List.reverseRecOn with
  | nil =>
    refine ⟨fun dependency => ?_, .nil, fun text => ?_⟩
    · simp
    · simp
  | append_singleton relations relation ih =>
    rw [List.foldl_append]
    exact ih.step relation

/-- The lineage records, once and in order, every registered table that a bare relation names and
nothing else, and every other relation as unknown. -/
structure CapturesDependencies (session : Session Provider Schema)
    (relations : List TableReference) (lineage : DerivedTableLineage) : Prop where
  exact : ∀ dependency, dependency ∈ lineage.directDependencies ↔
    ∃ name, .bare name ∈ relations ∧ session.NamedBy name dependency
  increasing : lineage.directDependencies.Pairwise fun a b =>
    DerivedTableDependency.cmp a b = .lt
  unknown : ∀ relation ∈ relations,
    (∀ name dependency, relation = .bare name → ¬session.NamedBy name dependency) →
      relation.display ∈ lineage.unknownReferences

/-- A bare relation with the name of a CTE is recorded through another relation: its table through
a name that is not local, or where there is no such table, its text through a qualified one. -/
def RecordedElsewhere (session : Session Provider Schema) (relations ctes : List TableReference)
    (name : String) : Prop :=
  (∀ dependency, session.NamedBy name dependency → ∃ other, .bare other ∈ relations ∧
      other ∉ ctes.map TableReference.display ∧ session.NamedBy other dependency) ∧
    ((∀ dependency, ¬session.NamedBy name dependency) →
      ∃ relation ∈ relations, bareTableReferenceName relation = none ∧ relation.display = name)

theorem mem_sortedReferenceStrings {references : List TableReference} {text : String} :
    text ∈ sortedReferenceStrings references ↔ text ∈ references.map TableReference.display :=
  BTreeSet.mem_ofList fun _ _ => compare_string_eq

theorem bareTableReferenceName_eq_none {relation : TableReference} :
    bareTableReferenceName relation = none ↔ ∀ name, relation ≠ .bare name := by
  cases relation with
  | bare name => exact iff_of_false (fun h => by cases h) (fun h => h name rfl)
  | partialReference schema table => exact iff_of_true rfl fun _ h => by cases h
  | full catalog schema table => exact iff_of_true rfl fun _ h => by cases h

/-- Lineage capture loses nothing exactly when every relation that a CTE shadows by its name is
recorded elsewhere. -/
theorem classifyLineageReferences_captures_iff (calls : List (SessionCall Provider Schema))
    (relations ctes : List TableReference) :
    CapturesDependencies (fresh.run calls) relations
        ((fresh.run calls).classifyLineageReferences relations ctes) ↔
      ∀ name, .bare name ∈ relations → name ∈ ctes.map TableReference.display →
        RecordedElsewhere (fresh.run calls) relations ctes name := by
  have hnames := names_nodup_run calls
  generalize fresh.run calls = session at hnames
  have hnamed : ∀ {name dependency}, session.lineageDependency name = some dependency ↔
      session.NamedBy name dependency := lineageDependency_iff hnames
  have hnone : ∀ {name}, session.lineageDependency name = none ↔
      ∀ dependency, ¬session.NamedBy name dependency := by
    intro name
    simp only [← hnamed, Option.eq_none_iff_forall_ne_some, ne_eq]
  have hclassified : Classified session (sortedReferenceStrings ctes) relations
      (relations.foldl (session.classifyLineageReference (sortedReferenceStrings ctes)) ([], [])) :=
    classified_classifyLineageReferences _ _
  constructor
  · intro hcaptures name hmem hlocal
    have hlocal' := mem_sortedReferenceStrings.2 hlocal
    constructor
    · intro dependency hdependency
      have hrecorded := (hcaptures.exact dependency).2 ⟨name, hmem, hdependency⟩
      obtain ⟨other, hother, hfree, hfound⟩ := (hclassified.dependencies dependency).1 hrecorded
      exact ⟨other, hother, fun h => hfree (mem_sortedReferenceStrings.2 h), hnamed.1 hfound⟩
    · intro hunnamed
      have hrecorded := hcaptures.unknown (.bare name) hmem fun other dependency hother => by
        cases hother
        exact hunnamed dependency
      obtain ⟨relation, hrelation, htext, hfree⟩ := (hclassified.unknown _).1 hrecorded
      refine ⟨relation, hrelation, bareTableReferenceName_eq_none.2 fun other hother => ?_, htext⟩
      -- A bare relation of that text is the local name again.
      subst hother
      have hsame : other = name := htext
      exact (hfree other rfl).1 (hsame ▸ hlocal')
  · intro helsewhere
    refine ⟨fun dependency => ?_, hclassified.increasing, fun relation hmem hunnamed => ?_⟩
    · rw [show dependency ∈ (session.classifyLineageReferences relations ctes).directDependencies ↔ _
        from hclassified.dependencies dependency]
      constructor
      · rintro ⟨name, hmem, -, hfound⟩
        exact ⟨name, hmem, hnamed.1 hfound⟩
      · rintro ⟨name, hmem, hfound⟩
        -- a relation that is skipped as local must be recorded through another one
        by_cases hlocal : name ∈ ctes.map TableReference.display
        · obtain ⟨other, hother, hfree, hfound⟩ :=
            (helsewhere name hmem hlocal).1 dependency hfound
          exact ⟨other, hother, fun h => hfree (mem_sortedReferenceStrings.1 h), hnamed.2 hfound⟩
        · exact ⟨name, hmem, fun h => hlocal (mem_sortedReferenceStrings.1 h), hnamed.2 hfound⟩
    · refine (hclassified.unknown relation.display).2 ?_
      by_cases hbare : ∃ name, relation = .bare name ∧ name ∈ ctes.map TableReference.display
      · obtain ⟨name, rfl, hlocal⟩ := hbare
        obtain ⟨other, hother, hqualified, htext⟩ := (helsewhere name hmem hlocal).2
          fun dependency => hunnamed name dependency rfl
        refine ⟨other, hother, htext, fun given hgiven => ?_⟩
        exact absurd hgiven (bareTableReferenceName_eq_none.1 hqualified given)
      · refine ⟨relation, hmem, rfl, fun name hname => ⟨fun h => ?_, ?_⟩⟩
        · exact hbare ⟨name, hname, mem_sortedReferenceStrings.1 h⟩
        · exact hnone.2 fun dependency => hunnamed name dependency hname

end Session

def shadowCalls : List (SessionCall String Unit) :=
  [sampleSource "orders", sampleQuery ["orders"], sampleAlias 1 "big"]

theorem shadowed_alias_is_lost :
    ¬(Session.fresh.run shadowCalls).CapturesDependencies [.bare "big"]
      ((Session.fresh.run shadowCalls).classifyLineageReferences [.bare "big"] [.bare "big"]) := by
  intro hcaptures
  have hnone : ((Session.fresh.run shadowCalls).classifyLineageReferences [.bare "big"]
      [.bare "big"]).directDependencies = [] := by decide
  have hdependency : (Session.fresh.run shadowCalls).lineageDependency "big" =
      some (.registeredDerived 1 "big") := by decide
  have hnamed := (Session.lineageDependency_iff (Session.names_nodup_run shadowCalls)).1 hdependency
  have hmem := (hcaptures.exact _).2 ⟨"big", List.mem_singleton_self _, hnamed⟩
  rw [hnone] at hmem
  exact absurd hmem List.not_mem_nil

end DeltaFunnel
