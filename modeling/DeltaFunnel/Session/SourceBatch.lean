import DeltaFunnel.Session.Catalog
import Mathlib.Data.List.Forall2
import Mathlib.Data.List.Induction
import Mathlib.Data.List.Nodup

/-! Registering several Delta sources at once: all of them are in the catalog afterwards, or the
catalog is as it was. -/

namespace DeltaFunnel

/-- How the query engine normalizes the name of a table reference. -/
structure TableNaming where
  normalize : String → String
  same_name : ∀ name, eqIgnoreAsciiCase (normalize name) name = true

theorem toAsciiLowercase_idem (text : String) :
    toAsciiLowercase (toAsciiLowercase text) = toAsciiLowercase text := by
  have hchar : ∀ c, toAsciiLowercaseChar (toAsciiLowercaseChar c) = toAsciiLowercaseChar c := by
    intro c
    unfold toAsciiLowercaseChar
    by_cases hupper : 'A'.toNat ≤ c.toNat ∧ c.toNat ≤ 'Z'.toNat
    · rw [if_pos hupper]
      obtain ⟨hfirst, hlast⟩ := hupper
      have hfirst : 65 ≤ c.toNat := hfirst
      have hlast : c.toNat ≤ 90 := hlast
      have hvalid : (c.toNat + 32).isValidChar := .inl (by omega)
      have hlower : (Char.ofNat (c.toNat + 32)).toNat = c.toNat + 32 := by
        rw [Char.ofNat, dif_pos hvalid]
        rfl
      rw [if_neg]
      intro hagain
      have hsmall : c.toNat + 32 ≤ 90 := hlower ▸ hagain.2
      omega
    · rw [if_neg hupper, if_neg hupper]
  unfold toAsciiLowercase
  rw [String.toList_ofList, List.map_map]
  congr 1
  exact List.map_congr_left fun c _ => hchar c

/-- The naming of unquoted references, which are lowercased. -/
def TableNaming.unquoted : TableNaming where
  normalize := toAsciiLowercase
  same_name name := eqIgnoreAsciiCase_iff.2 (toAsciiLowercase_idem name)

namespace Catalog
variable {Provider : Type} (naming : TableNaming)

/-- `register_table`; a provider that could not be built or is refused changes nothing. -/
def registerNamed (catalog : Catalog Provider) (name : String)
    (provider : Except String Provider) : Except String (Catalog Provider) := do
  let provider ← provider
  match catalog.view (naming.normalize name) with
  | some _ => .error ("Execution error: The table " ++ naming.normalize name ++ " already exists")
  | none => .ok (catalog ++ [(naming.normalize name, provider)])

/-- `deregister_table`. -/
def deregisterNamed (catalog : Catalog Provider) (name : String) : Catalog Provider :=
  catalog.filter fun entry => entry.1 ≠ naming.normalize name

end Catalog

structure DeltaProtocol where
  minReaderVersion : ℤ
  minWriterVersion : ℤ
  readerFeatures : List String
  writerFeatures : List String
  firstUnsupportedReaderFeature : Option String
  deriving DecidableEq, Repr

structure DeltaProtocolReport where
  sourceName : String
  tableUri : String
  snapshotVersion : ℕ
  minReaderVersion : ℤ
  minWriterVersion : ℤ
  readerFeatures : List String
  writerFeatures : List String
  deriving DecidableEq, Repr

/-- A table as the reader has loaded it; `protocolSupported` is its own check of the protocol. -/
structure LoadedDeltaTable (Schema : Type) where
  tableUrl : String
  version : ℕ
  schema : Schema
  protocol : DeltaProtocol
  protocolSupported : Bool

structure ScanOptions (ExecutionOptions : Type) where
  executionOptions : ExecutionOptions
  targetPartitions : Option ℕ

structure RegisteredDeltaSource (Schema : Type) where
  name : String
  tableUri : String
  snapshotVersion : ℕ
  schema : Schema
  protocol : DeltaProtocolReport

structure DeltaSourceRequest (Schema : Type) where
  name : String
  table : LoadedDeltaTable Schema
  targetPartitions : Option ℕ

variable {Provider Schema ExecutionOptions : Type}

def protocolReport (sourceName : String) (table : LoadedDeltaTable Schema) : DeltaProtocolReport :=
  { sourceName
    tableUri := sanitizeUriForDisplay table.tableUrl
    snapshotVersion := table.version
    minReaderVersion := table.protocol.minReaderVersion
    minWriterVersion := table.protocol.minWriterVersion
    readerFeatures := table.protocol.readerFeatures
    writerFeatures := table.protocol.writerFeatures }

/-- The display text of a protocol compatibility error. -/
def protocolCompatibilityText (report : DeltaProtocolReport) (reason : String) : String :=
  "Delta protocol compatibility error for source `" ++ sanitizeTextForDisplay report.sourceName ++
    "` at snapshot version " ++ toString report.snapshotVersion ++ " (" ++
    sanitizeUriForDisplay report.tableUri ++ "): " ++ reason

def validateDeltaTableProtocol (sourceName : String) (table : LoadedDeltaTable Schema) :
    Except DeltaFunnelError Unit :=
  if table.protocolSupported then .ok ()
  else
    let version := table.protocol.minReaderVersion
    let reason :=
      if ¬(1 ≤ version ∧ version ≤ 3) then
        "unsupported Delta minReaderVersion " ++ toString version
      else
        "unsupported Delta reader feature `" ++ sanitizeTextForDisplay
          (table.protocol.firstUnsupportedReaderFeature.getD "") ++ "`"
    .error (.other (protocolCompatibilityText (protocolReport sourceName table) reason))

def RegisteredDeltaSource.ofTable (sourceName : String) (table : LoadedDeltaTable Schema) :
    RegisteredDeltaSource Schema :=
  { name := sourceName
    tableUri := sanitizeUriForDisplay table.tableUrl
    snapshotVersion := table.version
    schema := table.schema
    protocol := protocolReport sourceName table }

section Registration
variable (naming : TableNaming)
  (buildProvider : String → LoadedDeltaTable Schema → ScanOptions ExecutionOptions →
    Except String Provider)

def registerTableWithTracing (catalog : Catalog Provider) (sourceName : String)
    (table : LoadedDeltaTable Schema) (options : ScanOptions ExecutionOptions) :
    Except DeltaFunnelError (RegisteredDeltaSource Schema × Catalog Provider) :=
  match catalog.registerNamed naming sourceName (buildProvider sourceName table options) with
  | .ok catalog => .ok (.ofTable sourceName table, catalog)
  | .error reason =>
    .error (.dataFusionRegistration sourceName (sanitizeUriForDisplay table.tableUrl) reason)

def rollbackRegisteredDeltaSources (catalog : Catalog Provider) (names : List String) :
    Catalog Provider :=
  names.reverse.foldl (fun catalog name => catalog.deregisterNamed naming name) catalog

/-- The checks that come before the first registration. -/
def checkDeltaSources (catalog : Catalog Provider) (sources : List (DeltaSourceRequest Schema)) :
    Except DeltaFunnelError Unit := do
  validateTableSourceNames (sources.map (·.name))
  sources.forM fun source => validateDeltaTableProtocol source.name source.table
  sources.forM fun source =>
    rejectExistingDeltaRegistrationName catalog source.name source.table.tableUrl

/-- The registration loop, with the sources registered so far. -/
def registerDeltaSourcesFrom (executionOptions : ExecutionOptions)
    (registered : List (RegisteredDeltaSource Schema)) :
    List (DeltaSourceRequest Schema) → Catalog Provider →
      Except DeltaFunnelError (List (RegisteredDeltaSource Schema)) × Catalog Provider
  | [], catalog => (.ok registered, catalog)
  | source :: sources, catalog =>
    match registerTableWithTracing naming buildProvider catalog source.name source.table
        ⟨executionOptions, source.targetPartitions⟩ with
    | .ok (found, catalog) =>
      registerDeltaSourcesFrom executionOptions (registered ++ [found]) sources catalog
    | .error error =>
      (.error error, rollbackRegisteredDeltaSources naming catalog (registered.map (·.name)))

def registerDeltaSourcesWithOptions (catalog : Catalog Provider)
    (sources : List (DeltaSourceRequest Schema)) (executionOptions : ExecutionOptions) :
    Except DeltaFunnelError (List (RegisteredDeltaSource Schema)) × Catalog Provider :=
  match checkDeltaSources catalog sources with
  | .error error => (.error error, catalog)
  | .ok () => registerDeltaSourcesFrom naming buildProvider executionOptions [] sources catalog

theorem validateTableSourceNamesFrom_ok {seen names : List String}
    (h : validateTableSourceNamesFrom seen names = .ok ()) :
    (names.map toAsciiLowercase).Nodup ∧ ∀ name ∈ names, toAsciiLowercase name ∉ seen := by
  induction names generalizing seen with
  | nil => exact ⟨List.nodup_nil, fun name hname => absurd hname List.not_mem_nil⟩
  | cons name names ih =>
    obtain ⟨⟨⟩, -, h⟩ := except_bind_eq_ok.1 h
    split at h
    · cases h
    · next hnew =>
      obtain ⟨hnodup, hrest⟩ := ih h
      refine ⟨List.nodup_cons.2 ⟨fun hmem => ?_, hnodup⟩, List.forall_mem_cons.2 ⟨hnew, ?_⟩⟩
      · obtain ⟨other, hother, heq⟩ := List.mem_map.1 hmem
        exact hrest other hother (by rw [heq]; exact List.mem_cons_self ..)
      · exact fun other hother hmem => hrest other hother (List.mem_cons_of_mem _ hmem)

theorem rejectExistingDeltaRegistrationName_ok {catalog : Catalog Provider} {name uri : String}
    (h : rejectExistingDeltaRegistrationName catalog name uri = .ok ()) :
    ∀ entry ∈ catalog, toAsciiLowercase entry.1 ≠ toAsciiLowercase name := by
  unfold rejectExistingDeltaRegistrationName at h
  split at h
  · cases h
  · next hnone =>
    intro entry hentry heq
    have hmem : entry.1 ∈ catalog.tableNames := List.mem_map_of_mem hentry
    have hmiss := List.find?_eq_none.1 hnone entry.1 hmem
    exact hmiss (eqIgnoreAsciiCase_iff.2 heq)

theorem normalize_lower (naming : TableNaming) (name : String) :
    toAsciiLowercase (naming.normalize name) = toAsciiLowercase name :=
  eqIgnoreAsciiCase_iff.1 (naming.same_name name)

/-- No key of the catalog is the key of one of the names. -/
def Untouched (catalog : Catalog Provider) (names : List String) : Prop :=
  ∀ name ∈ names, ∀ entry ∈ catalog, entry.1 ≠ naming.normalize name

theorem checkDeltaSources_ok {catalog : Catalog Provider}
    {sources : List (DeltaSourceRequest Schema)} (h : checkDeltaSources catalog sources = .ok ()) :
    Untouched naming catalog (sources.map (·.name)) ∧
      (sources.map fun source => naming.normalize source.name).Nodup := by
  obtain ⟨⟨⟩, hnames, h⟩ := except_bind_eq_ok.1 h
  obtain ⟨⟨⟩, -, hconflicts⟩ := except_bind_eq_ok.1 h
  constructor
  · intro name hname entry hentry heq
    obtain ⟨source, hsource, rfl⟩ := List.mem_map.1 hname
    have hfree := rejectExistingDeltaRegistrationName_ok
      (except_forM_eq_ok.1 hconflicts source hsource) entry hentry
    rw [heq, normalize_lower] at hfree
    exact hfree rfl
  · have hnodup := (validateTableSourceNamesFrom_ok hnames).1
    have hlower : (sources.map fun source => naming.normalize source.name).map toAsciiLowercase =
        (sources.map (·.name)).map toAsciiLowercase := by
      rw [List.map_map, List.map_map]
      exact List.map_congr_left fun source _ => normalize_lower naming source.name
    rw [← hlower] at hnodup
    exact List.Nodup.of_map _ hnodup

theorem rollbackRegisteredDeltaSources_eq (catalog : Catalog Provider) (names : List String) :
    rollbackRegisteredDeltaSources naming catalog names =
      catalog.filter fun entry => ∀ name ∈ names, entry.1 ≠ naming.normalize name := by
  unfold rollbackRegisteredDeltaSources
  induction names using List.reverseRecOn generalizing catalog with
  | nil => simp
  | append_singleton names name ih =>
    rw [List.reverse_append, List.reverse_singleton, List.singleton_append, List.foldl_cons, ih,
      Catalog.deregisterNamed, List.filter_filter]
    apply List.filter_congr
    intro entry _
    rw [← Bool.decide_and, decide_eq_decide, List.forall_mem_append, List.forall_mem_singleton]

/-- The entries that the call has added for the sources it is through with. -/
def AddedFor (executionOptions : ExecutionOptions) (sources : List (DeltaSourceRequest Schema))
    (added : Catalog Provider) : Prop :=
  List.Forall₂ (fun source entry => entry.1 = naming.normalize source.name ∧
    buildProvider source.name source.table ⟨executionOptions, source.targetPartitions⟩ =
      .ok entry.2) sources added

def AllOrNothing (executionOptions : ExecutionOptions) (before : Catalog Provider)
    (sources : List (DeltaSourceRequest Schema)) :
    Except DeltaFunnelError (List (RegisteredDeltaSource Schema)) × Catalog Provider → Prop
  | (.error _, after) => after = before
  | (.ok registered, after) =>
    registered = sources.map (fun source => .ofTable source.name source.table) ∧
      ∃ added, after = before ++ added ∧
        AddedFor naming buildProvider executionOptions sources added

variable {naming buildProvider}

theorem AddedFor.keys {executionOptions : ExecutionOptions}
    {sources : List (DeltaSourceRequest Schema)} {added : Catalog Provider}
    (h : AddedFor naming buildProvider executionOptions sources added) :
    added.map Prod.fst = (sources.map (·.name)).map naming.normalize := by
  induction h with
  | nil => rfl
  | cons hentry _ ih => rw [List.map_cons, List.map_cons, List.map_cons, hentry.1, ih]

theorem rollback_added {names : List String} {catalog added : Catalog Provider}
    (hkeys : added.map Prod.fst = names.map naming.normalize)
    (huntouched : Untouched naming catalog names) :
    rollbackRegisteredDeltaSources naming (catalog ++ added) names = catalog := by
  rw [rollbackRegisteredDeltaSources_eq, List.filter_append]
  have hkept : catalog.filter (fun entry => ∀ name ∈ names, entry.1 ≠ naming.normalize name) =
      catalog := by
    refine List.filter_eq_self.2 fun entry hentry => decide_eq_true fun name hname => ?_
    exact huntouched name hname entry hentry
  have hremoved : added.filter (fun entry =>
      ∀ name ∈ names, entry.1 ≠ naming.normalize name) = [] := by
    refine List.filter_eq_nil_iff.2 fun entry hentry hall => ?_
    have hkey : entry.1 ∈ added.map Prod.fst := List.mem_map_of_mem hentry
    rw [hkeys] at hkey
    obtain ⟨name, hname, heq⟩ := List.mem_map.1 hkey
    exact of_decide_eq_true hall name hname heq.symm
  rw [hkept, hremoved, List.append_nil]

theorem view_eq_none_of_forall {catalog : Catalog Provider} {key : String}
    (h : ∀ entry ∈ catalog, entry.1 ≠ key) : catalog.view key = none := by
  unfold Catalog.view
  rw [List.lookup_eq_none_iff]
  intro entry hentry
  exact bne_iff_ne.2 (h entry hentry).symm

theorem registerTableWithTracing_eq_ok {catalog after : Catalog Provider} {name : String}
    {table : LoadedDeltaTable Schema} {options : ScanOptions ExecutionOptions}
    {found : RegisteredDeltaSource Schema}
    (h : registerTableWithTracing naming buildProvider catalog name table options =
      .ok (found, after)) :
    found = .ofTable name table ∧ ∃ provider, buildProvider name table options = .ok provider ∧
      after = catalog ++ [(naming.normalize name, provider)] := by
  unfold registerTableWithTracing at h
  split at h
  · next catalog' hregister =>
    obtain ⟨rfl, rfl⟩ := Prod.mk.inj (Except.ok.inj h)
    obtain ⟨provider, hprovider, hregister⟩ := except_bind_eq_ok.1 hregister
    split at hregister
    · cases hregister
    · exact ⟨rfl, provider, hprovider, (Except.ok.inj hregister).symm⟩
  · cases h

theorem registerDeltaSourcesFrom_allOrNothing {executionOptions : ExecutionOptions}
    {before : Catalog Provider} {sources : List (DeltaSourceRequest Schema)}
    {done : List (DeltaSourceRequest Schema)} {added : Catalog Provider}
    (huntouched : Untouched naming before ((done ++ sources).map (·.name)))
    (hadded : AddedFor naming buildProvider executionOptions done added) :
    AllOrNothing naming buildProvider executionOptions before (done ++ sources)
      (registerDeltaSourcesFrom naming buildProvider executionOptions
        (done.map fun source => .ofTable source.name source.table) sources (before ++ added)) := by
  induction sources generalizing done added with
  | nil =>
    rw [List.append_nil]
    exact ⟨rfl, added, rfl, hadded⟩
  | cons source sources ih =>
    rw [registerDeltaSourcesFrom]
    split
    · next found after hregister =>
      obtain ⟨rfl, provider, hprovider, rfl⟩ := registerTableWithTracing_eq_ok hregister
      have hmore : AddedFor naming buildProvider executionOptions (done ++ [source])
          (added ++ [(naming.normalize source.name, provider)]) :=
        List.rel_append hadded (.cons ⟨rfl, hprovider⟩ .nil)
      have hall : done ++ source :: sources = (done ++ [source]) ++ sources := by
        rw [List.append_assoc, List.singleton_append]
      have hnext := ih (hall ▸ huntouched) hmore
      rw [List.map_append, List.map_singleton, ← List.append_assoc] at hnext
      rw [hall]
      exact hnext
    · next error hregister =>
      -- Everything that was registered so far goes away again.
      have hdone : Untouched naming before (done.map (·.name)) := by
        intro name hname
        refine huntouched name ?_
        rw [List.map_append]
        exact List.mem_append_left _ hname
      have hnames : (done.map fun source => RegisteredDeltaSource.ofTable source.name
          source.table).map (·.name) = done.map (·.name) := by
        rw [List.map_map]
        rfl
      show rollbackRegisteredDeltaSources naming (before ++ added) _ = before
      rw [hnames]
      exact rollback_added hadded.keys hdone

theorem registerTableWithTracing_of_free {catalog : Catalog Provider} {name : String}
    {table : LoadedDeltaTable Schema} {options : ScanOptions ExecutionOptions} {provider : Provider}
    (hbuilt : buildProvider name table options = .ok provider)
    (hfree : ∀ entry ∈ catalog, entry.1 ≠ naming.normalize name) :
    registerTableWithTracing naming buildProvider catalog name table options =
      .ok (.ofTable name table, catalog ++ [(naming.normalize name, provider)]) := by
  unfold registerTableWithTracing Catalog.registerNamed
  rw [hbuilt]
  simp only [bind, Except.bind, view_eq_none_of_forall hfree]

theorem registerDeltaSourcesFrom_ok_iff {executionOptions : ExecutionOptions}
    {before : Catalog Provider} {sources : List (DeltaSourceRequest Schema)}
    {done : List (DeltaSourceRequest Schema)} {added : Catalog Provider}
    (huntouched : Untouched naming before ((done ++ sources).map (·.name)))
    (hnodup : ((done ++ sources).map fun source => naming.normalize source.name).Nodup)
    (hadded : AddedFor naming buildProvider executionOptions done added)
    (registered : List (RegisteredDeltaSource Schema)) :
    (∃ reported, (registerDeltaSourcesFrom naming buildProvider executionOptions registered sources
        (before ++ added)).1 = .ok reported) ↔
      ∀ source ∈ sources, ∃ provider, buildProvider source.name source.table
        ⟨executionOptions, source.targetPartitions⟩ = .ok provider := by
  -- over the sources that are left, with those added so far
  induction sources generalizing done added registered with
  | nil => exact ⟨fun _ source hsource => absurd hsource List.not_mem_nil, fun _ => ⟨_, rfl⟩⟩
  | cons source sources ih =>
    have hall : done ++ source :: sources = (done ++ [source]) ++ sources := by
      rw [List.append_assoc, List.singleton_append]
    rw [registerDeltaSourcesFrom, List.forall_mem_cons]
    cases hbuilt : buildProvider source.name source.table
        ⟨executionOptions, source.targetPartitions⟩ with
    | error reason =>
      have hrefused : ∃ error, registerTableWithTracing naming buildProvider (before ++ added)
          source.name source.table ⟨executionOptions, source.targetPartitions⟩ = .error error := by
        unfold registerTableWithTracing Catalog.registerNamed
        rw [hbuilt]
        exact ⟨_, rfl⟩
      obtain ⟨error, hrefused⟩ := hrefused
      rw [hrefused]
      exact ⟨nofun, nofun⟩
    | ok provider =>
      -- the key was free before the batch, and the names of the batch are distinct
      have hfree : ∀ entry ∈ before ++ added, entry.1 ≠ naming.normalize source.name := by
        intro entry hentry
        rcases List.mem_append.1 hentry with hbefore | hnew
        · refine huntouched source.name ?_ entry hbefore
          rw [List.map_append]
          exact List.mem_append_right _ (List.mem_cons_self ..)
        · intro heq
          have hkey : entry.1 ∈ added.map Prod.fst := List.mem_map_of_mem hnew
          rw [hadded.keys, List.map_map] at hkey
          rw [List.map_append] at hnodup
          exact (List.nodup_append.1 hnodup).2.2 _ hkey _ (List.mem_cons_self ..) heq
      have hmore : AddedFor naming buildProvider executionOptions (done ++ [source])
          (added ++ [(naming.normalize source.name, provider)]) :=
        List.rel_append hadded (.cons ⟨rfl, hbuilt⟩ .nil)
      have hlater := ih (hall ▸ huntouched) (hall ▸ hnodup) hmore
        (registered ++ [.ofTable source.name source.table])
      rw [registerTableWithTracing_of_free hbuilt hfree]
      simp only [List.append_assoc]
      rw [hlater]
      exact ⟨fun h => ⟨⟨provider, rfl⟩, h⟩, fun h => h.2⟩

end Registration

/-- Either every listed source was added, in list order and under keys of its own that were free,
or the catalog is exactly the one before; a call that registers or rolls back at all does so under
keys that no table had before it. It is all that is added where the checks pass and every provider
can be registered. -/
theorem registerDeltaSources_all_or_nothing (naming : TableNaming)
    (buildProvider : String → LoadedDeltaTable Schema → ScanOptions ExecutionOptions →
      Except String Provider)
    (catalog : Catalog Provider) (sources : List (DeltaSourceRequest Schema))
    (executionOptions : ExecutionOptions) :
    AllOrNothing naming buildProvider executionOptions catalog sources
        (registerDeltaSourcesWithOptions naming buildProvider catalog sources executionOptions) ∧
      (checkDeltaSources catalog sources = .ok () →
        Untouched naming catalog (sources.map (·.name)) ∧
          (sources.map fun source => naming.normalize source.name).Nodup) ∧
      ((∃ registered, (registerDeltaSourcesWithOptions naming buildProvider catalog sources
          executionOptions).1 = .ok registered) ↔
        checkDeltaSources catalog sources = .ok () ∧
          ∀ source ∈ sources, ∃ provider, buildProvider source.name source.table
            ⟨executionOptions, source.targetPartitions⟩ = .ok provider) := by
  refine ⟨?_, checkDeltaSources_ok naming, ?_⟩
  · unfold registerDeltaSourcesWithOptions
    split
    · rfl
    · next hchecks =>
      have hloop := registerDeltaSourcesFrom_allOrNothing (checkDeltaSources_ok naming hchecks).1
        (List.Forall₂.nil : AddedFor naming buildProvider executionOptions [] [])
      rw [List.append_nil] at hloop
      exact hloop
  · unfold registerDeltaSourcesWithOptions
    cases hchecks : checkDeltaSources catalog sources with
    | error error => exact ⟨nofun, nofun⟩
    | ok done =>
      obtain ⟨huntouched, hnodup⟩ := checkDeltaSources_ok naming hchecks
      have hloop := registerDeltaSourcesFrom_ok_iff huntouched hnodup
        (List.Forall₂.nil : AddedFor naming buildProvider executionOptions [] []) []
      rw [List.append_nil] at hloop
      exact hloop.trans ⟨fun h => ⟨rfl, h⟩, fun h => h.2⟩

def readableTable (tableUrl : String) : LoadedDeltaTable String where
  tableUrl := tableUrl
  version := 0
  schema := "id"
  protocol := ⟨1, 2, [], [], none⟩
  protocolSupported := true

/-- Two requests, the names of which are not in lower case. -/
def twoSources : List (DeltaSourceRequest String) :=
  [⟨"Orders", readableTable "file:///orders", none⟩,
    ⟨"Customers", readableTable "file:///customers", some 4⟩]

def providersBut (refused : String) (name : String) (table : LoadedDeltaTable String)
    (_ : ScanOptions Unit) : Except String String :=
  if name = refused then .error "injected" else .ok table.tableUrl

/-- Both tables are added to the one that is there. Where the second cannot be registered, the first
was in the catalog and goes away again, and the one that was there stays. -/
theorem two_sources_all_or_nothing :
    (∃ registered, registerDeltaSourcesWithOptions .unquoted (providersBut "")
        [("regions", "view")] twoSources () = (.ok registered,
          [("regions", "view"), ("orders", "file:///orders"), ("customers", "file:///customers")])) ∧
      registerTableWithTracing .unquoted (providersBut "Customers") [("regions", "view")] "Orders"
        (readableTable "file:///orders") ⟨(), none⟩ = .ok (.ofTable "Orders"
          (readableTable "file:///orders"), [("regions", "view"), ("orders", "file:///orders")]) ∧
      ∃ error, registerDeltaSourcesWithOptions .unquoted (providersBut "Customers")
        [("regions", "view")] twoSources () = (.error error, [("regions", "view")]) := by
  have hchecks : checkDeltaSources [("regions", "view")] twoSources = .ok () := by decide
  refine ⟨?_, rfl, ?_⟩
  · obtain ⟨-, -, hregistered⟩ := registerDeltaSources_all_or_nothing .unquoted (providersBut "")
      [("regions", "view")] twoSources ()
    have hbuilt : ∀ source ∈ twoSources, ∃ provider, providersBut "" source.name source.table
        ⟨(), source.targetPartitions⟩ = .ok provider := by
      intro source hsource
      rcases List.mem_pair.1 hsource with rfl | rfl
      · exact ⟨"file:///orders", rfl⟩
      · exact ⟨"file:///customers", rfl⟩
    obtain ⟨registered, hok⟩ := hregistered.2 ⟨hchecks, hbuilt⟩
    exact ⟨registered, Prod.ext hok rfl⟩
  · obtain ⟨hall, -, hregistered⟩ := registerDeltaSources_all_or_nothing .unquoted
      (providersBut "Customers") [("regions", "view")] twoSources ()
    cases hresult : registerDeltaSourcesWithOptions .unquoted (providersBut "Customers")
        [("regions", "view")] twoSources () with
    | mk reply after =>
      rw [hresult] at hall hregistered
      cases reply with
      | error error => exact ⟨error, Prod.ext rfl hall⟩
      | ok registered =>
        obtain ⟨-, hbuilt⟩ := hregistered.1 ⟨registered, rfl⟩
        obtain ⟨provider, hprovider⟩ := hbuilt
          ⟨"Customers", readableTable "file:///customers", some 4⟩ (List.mem_pair.2 (.inr rfl))
        cases hprovider

end DeltaFunnel
