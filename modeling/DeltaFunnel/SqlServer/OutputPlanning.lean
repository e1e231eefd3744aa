import DeltaFunnel.Collections.HashMap
import DeltaFunnel.WriteAll.CachedWorkflow

/-! Planning of one requested output, from its target configuration to the plan of its table. -/

namespace DeltaFunnel
open Collections

def missingMssqlConnection (outputName : String) : DeltaFunnelError :=
  .other ("MSSQL target for output `" ++ sanitizeTextForDisplay outputName ++
    "` has no effective connection")

namespace MssqlTargetConfig

/-- The connection of the target itself goes first. -/
def effectiveConnection (config : MssqlTargetConfig)
    (defaultConnection : Option MssqlConnectionConfig) :
    Option (MssqlConnectionConfig × MssqlConnectionSource) :=
  match config.connection with
  | some connection => some (connection, .targetOverride)
  | none => defaultConnection.map fun connection => (connection, .contextDefault)

def resolve (config : MssqlTargetConfig) (outputName : String)
    (defaultConnection : Option MssqlConnectionConfig) :
    Except DeltaFunnelError ResolvedMssqlTarget :=
  match config.effectiveConnection defaultConnection with
  | none => .error (missingMssqlConnection outputName)
  | some (connection, source) =>
    .ok ⟨outputName, config.table, config.loadMode, connection, source⟩

end MssqlTargetConfig

inductive SchemaPlanningFailure where
  | planning (diagnostics : List MssqlWriteDiagnostic)
  | other (source : ArrowError)
  deriving DecidableEq, Repr

/-- An Arrow schema's field names, and the driver's mapping of it. -/
structure SchemaPlanner (Schema : Type) where
  fieldNames : Schema → List String
  planArrowSchemaToMssqlSchema : Schema → Except SchemaPlanningFailure (List SchemaMapping)

def schemaPlanningError (outputName reason : String) : DeltaFunnelError :=
  .other ("MSSQL schema planning error for output `" ++ sanitizeTextForDisplay outputName ++
    "`: " ++ reason)

def validateOutputIdentity (outputName : String) : Except DeltaFunnelError Unit :=
  if trimText outputName = "" ∨ outputName = "<unnamed>" then
    .error (schemaPlanningError outputName "selected output name must be provided")
  else .ok ()

def duplicateMssqlOutputField (outputName fieldName : String)
    (firstIndex duplicateIndex : ℕ) : DeltaFunnelError :=
  schemaPlanningError outputName ("duplicate field name `" ++ sanitizeTextForDisplay fieldName ++
    "` at indexes " ++ toString firstIndex ++ " and " ++ toString duplicateIndex)

/-- The loop over the fields from `index` on, with the first index of every name before. -/
def uniqueFieldNamesFrom (outputName : String) :
    HashMap String ℕ → ℕ → List String → Except DeltaFunnelError Unit
  | _, _, [] => .ok ()
  | firstIndexes, index, fieldName :: fieldNames =>
    match firstIndexes.get? fieldName with
    | some firstIndex =>
      .error (duplicateMssqlOutputField outputName fieldName firstIndex index)
    | none =>
      uniqueFieldNamesFrom outputName (firstIndexes.insert fieldName index) (index + 1) fieldNames

def validateUniqueOutputFieldNames (outputName : String) (fieldNames : List String) :
    Except DeltaFunnelError Unit :=
  uniqueFieldNamesFrom outputName .empty 0 fieldNames

def SchemaPlanningFailure.error (outputName : String) : SchemaPlanningFailure → DeltaFunnelError
  | .planning diagnostics =>
    schemaPlanningError outputName ("arrow-sql-server returned " ++
      toString diagnostics.length ++ " diagnostic(s)")
  | .other source => schemaPlanningError outputName (sanitizeTextForDisplay source.display)

variable {Provider Schema : Type} (planner : SchemaPlanner Schema)

def planMssqlOutputSchema (schema : Schema) (target : ResolvedMssqlTarget) :
    Except DeltaFunnelError MssqlSchemaPlan := do
  validateOutputIdentity target.outputName
  validateUniqueOutputFieldNames target.outputName (planner.fieldNames schema)
  match planner.planArrowSchemaToMssqlSchema schema with
  | .error failure => .error (failure.error target.outputName)
  | .ok mappings => .ok ⟨target.summary, mappings⟩

section Output
variable [ArrowSqlServer]

def planMssqlTargetForResolvedOutput (schema : Schema) (target : ResolvedMssqlTarget) :
    Except DeltaFunnelError MssqlTargetOutputPlan := do
  let schemaPlan ← planMssqlOutputSchema planner schema target
  planMssqlTargetOutput schemaPlan

def outputSchemaPlanningPhase : String := "output_schema_planning"
def sqlTargetPlanningPhase : String := "sql_target_planning"

namespace Session
variable (session : Session Provider Schema)

/-- `timings` are those recorded when a derived table was planned. -/
def phaseTimingsForLazyTable (timings : ℕ → List PhaseTimingReport) (table : LazyTable) :
    Except DeltaFunnelError (List PhaseTimingReport) :=
  if table.kind = .deltaSource then .ok []
  else if (session.registeredDerivedTableById table.id).isSome ∨
      (session.pendingDerivedTableById table.id).isSome then .ok (timings table.id)
  else .error (unknownLazyTableError table)

/-- The planned output, with the connection it will be written over. -/
def planMssqlOutput (timings : ℕ → List PhaseTimingReport)
    (defaultConnection : Option MssqlConnectionConfig) (request : OutputWritePlan) :
    Except DeltaFunnelError PlannedMssqlOutput := do
  let phaseTimings ← session.phaseTimingsForLazyTable timings request.table
  let schema ← session.schemaForLazyTable request.table
  let resolvedTarget ← request.target.target.resolve request.target.outputName defaultConnection
  let outputPlan ← planMssqlTargetForResolvedOutput planner schema resolvedTarget
  return ⟨request, resolvedTarget, outputPlan, phaseTimings ++
    [.completed outputSchemaPlanningPhase, .completed sqlTargetPlanningPhase]⟩

end Session
end Output

section FieldNames
variable {outputName : String}

/-- The map of the loop knows the names before, each with its first index. -/
def KnowsFirstIndexes (firstIndexes : HashMap String ℕ) (done : List String) : Prop :=
  ∀ fieldName, firstIndexes.get? fieldName =
    if fieldName ∈ done then some (done.idxOf fieldName) else none

theorem KnowsFirstIndexes.insert {firstIndexes : HashMap String ℕ} {done : List String}
    (h : KnowsFirstIndexes firstIndexes done) {fieldName : String} (hnew : fieldName ∉ done) :
    KnowsFirstIndexes (firstIndexes.insert fieldName done.length) (done ++ [fieldName]) := by
  intro other
  rw [HashMap.get?_insert, List.idxOf_append]
  by_cases hsame : other = fieldName
  · subst hsame
    have hmem : other ∈ done ++ [other] := List.mem_append_right _ (List.mem_singleton_self _)
    rw [if_pos rfl, if_pos hmem, if_neg hnew, List.idxOf_cons_self, Nat.zero_add]
  · rw [if_neg hsame, h other]
    by_cases hdone : other ∈ done
    · rw [if_pos hdone, if_pos (List.mem_append_left _ hdone), if_pos hdone]
    · have hmem : other ∉ done ++ [fieldName] := by
        rw [List.mem_append, List.mem_singleton]
        exact not_or.2 ⟨hdone, hsame⟩
      rw [if_neg hdone, if_neg hmem]

/-- A name that occurs a second time, where all the names before are different. -/
structure FirstDuplicate (fieldNames : List String) (fieldName : String)
    (firstIndex duplicateIndex : ℕ) : Prop where
  lt : firstIndex < duplicateIndex
  first : fieldNames[firstIndex]? = some fieldName
  again : fieldNames[duplicateIndex]? = some fieldName
  before : (fieldNames.take duplicateIndex).Nodup

theorem uniqueFieldNamesFrom_cases {firstIndexes : HashMap String ℕ} {done rest : List String}
    (hknows : KnowsFirstIndexes firstIndexes done) (hdone : done.Nodup) :
    (uniqueFieldNamesFrom outputName firstIndexes done.length rest = .ok () ∧
      (done ++ rest).Nodup) ∨
    ∃ fieldName firstIndex duplicateIndex,
      FirstDuplicate (done ++ rest) fieldName firstIndex duplicateIndex ∧
      uniqueFieldNamesFrom outputName firstIndexes done.length rest =
        .error (duplicateMssqlOutputField outputName fieldName firstIndex duplicateIndex) := by
  induction rest generalizing firstIndexes done with
  | nil =>
    rw [List.append_nil]
    exact .inl ⟨rfl, hdone⟩
  | cons fieldName rest ih =>
    unfold uniqueFieldNamesFrom
    rw [hknows fieldName]
    by_cases hmem : fieldName ∈ done
    · rw [if_pos hmem]
      have hlt : done.idxOf fieldName < done.length := List.idxOf_lt_length_of_mem hmem
      refine .inr ⟨fieldName, done.idxOf fieldName, done.length, ⟨hlt, ?_, ?_, ?_⟩, rfl⟩
      · rw [List.getElem?_append_left hlt]
        exact List.getElem?_idxOf hmem
      · rw [List.getElem?_append_right (Nat.le_refl _), Nat.sub_self]
        rfl
      · rw [List.take_left]
        exact hdone
    · rw [if_neg hmem, List.append_cons]
      have hdone' : (done ++ [fieldName]).Nodup := by
        rw [List.nodup_append]
        refine ⟨hdone, List.nodup_singleton fieldName, ?_⟩
        intro a ha b hb hab
        rw [List.mem_singleton.1 hb] at hab
        exact hmem (hab ▸ ha)
      have hnext := ih (hknows.insert hmem) hdone'
      rw [List.length_append, List.length_singleton] at hnext
      exact hnext

variable (outputName) in
theorem validateUniqueOutputFieldNames_cases (fieldNames : List String) :
    (validateUniqueOutputFieldNames outputName fieldNames = .ok () ∧ fieldNames.Nodup) ∨
    ∃ fieldName firstIndex duplicateIndex,
      FirstDuplicate fieldNames fieldName firstIndex duplicateIndex ∧
      validateUniqueOutputFieldNames outputName fieldNames =
        .error (duplicateMssqlOutputField outputName fieldName firstIndex duplicateIndex) := by
  have hknows : KnowsFirstIndexes .empty [] := by
    intro fieldName
    rw [if_neg List.not_mem_nil]
    rfl
  exact uniqueFieldNamesFrom_cases hknows .nil

theorem FirstDuplicate.not_nodup {fieldNames : List String} {fieldName : String}
    {firstIndex duplicateIndex : ℕ}
    (h : FirstDuplicate fieldNames fieldName firstIndex duplicateIndex) : ¬fieldNames.Nodup := by
  intro hnodup
  obtain ⟨hlength, hagain⟩ := List.getElem?_eq_some_iff.1 h.again
  obtain ⟨hlength', hfirst⟩ := List.getElem?_eq_some_iff.1 h.first
  have hsame := (List.Nodup.getElem_inj_iff hnodup).1 (hfirst.trans hagain.symm)
  exact Nat.ne_of_lt h.lt hsame

end FieldNames

section Planned
variable [ArrowSqlServer]

def lifecycleOf (target : MssqlTargetSummary) : MssqlLifecyclePlan :=
  match target.loadMode with
  | .appendExisting =>
    ⟨target, .exists, false, false, true, .allowedAfterPlanning, appendExistingExecutionGuardrails⟩
  | .createAndLoad =>
    ⟨target, .absent, true, true, true, .allowedAfterPlanning, createAndLoadExecutionGuardrails⟩
  | .replace =>
    ⟨target, .existsOrAbsent, true, true, true, .allowedAfterPlanning, replaceExecutionGuardrails⟩

/-- A table that planning has to create needs columns and a valid name. -/
def Creatable (schemaPlan : MssqlSchemaPlan) : Prop :=
  schemaPlan.target.loadMode ≠ .appendExisting → schemaPlan.mappings ≠ [] ∧
    ∃ table, TableName.ofParts schemaPlan.target.table.schema schemaPlan.target.table.table =
      .ok table

/-- The statement that creates a table, where it is known when planning. -/
def ddlOf (schemaPlan : MssqlSchemaPlan) : MssqlDdlPlan :=
  let target := schemaPlan.target
  match target.loadMode with
  | .appendExisting => ⟨target, false, none⟩
  | .createAndLoad =>
    ⟨target, true, some (.createTable ⟨target.table.schema, target.table.table⟩
      schemaPlan.mappings)⟩
  | .replace => ⟨target, true, none⟩

def IsDdlError (error : DeltaFunnelError) : Prop :=
  (∃ outputName source, error = .mssqlDdlTargetIdentifier outputName source) ∨
    ∃ outputName message, error = .mssqlDdlPlanning outputName message

/-- A table to be created has no columns, a name that is taken as it is configured, or one that the
driver refuses. -/
theorem creation_cases {schemaPlan : MssqlSchemaPlan}
    (hcreated : schemaPlan.target.loadMode ≠ .appendExisting) :
    (schemaPlan.mappings = [] ∧ ¬Creatable schemaPlan) ∨
    schemaPlan.mappings ≠ [] ∧
      ((Creatable schemaPlan ∧
        tableNameFromTarget schemaPlan.target.outputName schemaPlan.target.table =
          .ok ⟨schemaPlan.target.table.schema, schemaPlan.target.table.table⟩) ∨
      (¬Creatable schemaPlan ∧ ∃ source,
        tableNameFromTarget schemaPlan.target.outputName schemaPlan.target.table =
          .error (.mssqlDdlTargetIdentifier schemaPlan.target.outputName source))) := by
  by_cases hmappings : schemaPlan.mappings = []
  · exact .inl ⟨hmappings, fun hcreatable => (hcreatable hcreated).1 hmappings⟩
  · refine .inr ⟨hmappings, ?_⟩
    unfold tableNameFromTarget
    cases hname : TableName.ofParts schemaPlan.target.table.schema
        schemaPlan.target.table.table with
    | ok name =>
      refine .inl ⟨fun _ => ⟨hmappings, name, hname⟩, ?_⟩
      rw [TableName.ofParts_eq_ok hname]
    | error source =>
      refine .inr ⟨fun hcreatable => ?_, source, rfl⟩
      obtain ⟨name, hok⟩ := (hcreatable hcreated).2
      rw [hname] at hok
      cases hok

theorem planMssqlCreateTableDdl_cases (schemaPlan : MssqlSchemaPlan) :
    (Creatable schemaPlan ∧ planMssqlCreateTableDdl schemaPlan = .ok (ddlOf schemaPlan)) ∨
    ¬Creatable schemaPlan ∧ ∃ error, planMssqlCreateTableDdl schemaPlan = .error error ∧
      IsDdlError error := by
  unfold planMssqlCreateTableDdl ddlOf
  cases hmode : schemaPlan.target.loadMode with
  | appendExisting =>
    refine .inl ⟨fun hother => absurd hmode hother, ?_⟩
    dsimp only
    rw [hmode]
  | createAndLoad =>
    have hcreated : schemaPlan.target.loadMode ≠ .appendExisting := by
      rw [hmode]
      exact LoadMode.noConfusion
    dsimp only
    rw [hmode]
    dsimp only
    obtain ⟨hempty, hrefused⟩ | ⟨hmappings, ⟨hcreatable, hname⟩ | ⟨hrefused, source, hname⟩⟩ :=
      creation_cases hcreated
    · rw [hempty]
      exact .inr ⟨hrefused, _, rfl, .inr ⟨_, _, rfl⟩⟩
    · rw [if_neg (mt List.isEmpty_iff.1 hmappings), hname]
      exact .inl ⟨hcreatable, rfl⟩
    · rw [if_neg (mt List.isEmpty_iff.1 hmappings), hname]
      exact .inr ⟨hrefused, _, rfl, .inl ⟨_, _, rfl⟩⟩
  | replace =>
    have hcreated : schemaPlan.target.loadMode ≠ .appendExisting := by
      rw [hmode]
      exact LoadMode.noConfusion
    dsimp only
    rw [hmode]
    dsimp only
    obtain ⟨hempty, hrefused⟩ | ⟨hmappings, ⟨hcreatable, hname⟩ | ⟨hrefused, source, hname⟩⟩ :=
      creation_cases hcreated
    · rw [hempty]
      exact .inr ⟨hrefused, _, rfl, .inr ⟨_, _, rfl⟩⟩
    · rw [if_neg (mt List.isEmpty_iff.1 hmappings), hname]
      exact .inl ⟨hcreatable, rfl⟩
    · rw [if_neg (mt List.isEmpty_iff.1 hmappings), hname]
      exact .inr ⟨hrefused, _, rfl, .inl ⟨_, _, rfl⟩⟩

omit [ArrowSqlServer] in
theorem planMssqlLifecycle_ddlOf (schemaPlan : MssqlSchemaPlan) :
    planMssqlLifecycle schemaPlan (some (ddlOf schemaPlan)) =
      .ok (lifecycleOf schemaPlan.target) := by
  obtain ⟨⟨outputName, table, loadMode, source, connection⟩, mappings⟩ := schemaPlan
  have hmatching : ∀ target : MssqlTargetSummary, ensureMatchingTarget target target = .ok () := by
    intro target
    unfold ensureMatchingTarget
    simp
  unfold planMssqlLifecycle
  cases loadMode with
  | appendExisting =>
    dsimp only [ddlOf]
    rw [hmatching]
    rfl
  | createAndLoad =>
    dsimp only [ddlOf]
    rw [hmatching]
    rfl
  | replace =>
    dsimp only [ddlOf]
    rw [hmatching]
    rfl

theorem planMssqlTargetOutput_cases (schemaPlan : MssqlSchemaPlan) :
    (Creatable schemaPlan ∧ ∃ plan, planMssqlTargetOutput schemaPlan = .ok plan ∧
      plan.schemaPlan = schemaPlan ∧ plan.ddlPlan = ddlOf schemaPlan ∧
      plan.lifecyclePlan = lifecycleOf schemaPlan.target) ∨
    ¬Creatable schemaPlan ∧ ∃ error, planMssqlTargetOutput schemaPlan = .error error ∧
      IsDdlError error := by
  unfold planMssqlTargetOutput
  obtain ⟨hcreatable, hddl⟩ | ⟨hrefused, error, hddl, hkind⟩ :=
    planMssqlCreateTableDdl_cases schemaPlan
  · refine .inl ⟨hcreatable, ?_⟩
    have hlifecycle := planMssqlLifecycle_ddlOf schemaPlan
    split
    · next error herror =>
      rw [hddl] at herror
      cases herror
    · next ddlPlan hplanned =>
      rw [hddl] at hplanned
      obtain rfl := Except.ok.inj hplanned
      split
      · next error herror =>
        rw [hlifecycle] at herror
        cases herror
      · next lifecyclePlan hlifecycle' =>
        rw [hlifecycle] at hlifecycle'
        obtain rfl := Except.ok.inj hlifecycle'
        exact ⟨_, rfl, rfl, rfl, rfl⟩
  · refine .inr ⟨hrefused, error, ?_, hkind⟩
    split
    · next error' herror =>
      rw [hddl] at herror
      rw [Except.error.inj herror]
    · next ddlPlan hplanned =>
      rw [hddl] at hplanned
      cases hplanned

theorem outputPlan_ext {first second : MssqlTargetOutputPlan}
    (h : first.schemaPlan = second.schemaPlan) : first = second := by
  obtain ⟨schemaPlan, ddlPlan, lifecyclePlan, hddl, hlifecycle⟩ := first
  obtain ⟨schemaPlan', ddlPlan', lifecyclePlan', hddl', hlifecycle'⟩ := second
  obtain rfl : schemaPlan = schemaPlan' := h
  obtain rfl : ddlPlan = ddlPlan' := Except.ok.inj (hddl.symm.trans hddl')
  obtain rfl : lifecyclePlan = lifecyclePlan' := Except.ok.inj (hlifecycle.symm.trans hlifecycle')
  rfl

end Planned

section Whole
variable [ArrowSqlServer] {planner : SchemaPlanner Schema} {session : Session Provider Schema}
  {timings : ℕ → List PhaseTimingReport} {defaultConnection : Option MssqlConnectionConfig}
  {request : OutputWritePlan}

def OutputWritePlan.resolvedTo (request : OutputWritePlan) (connection : MssqlConnectionConfig)
    (source : MssqlConnectionSource) : ResolvedMssqlTarget :=
  ⟨request.target.outputName, request.target.target.table, request.target.target.loadMode, connection,
    source⟩

/-- What planning of a request has to find, and what it then plans from. -/
structure Plannable (planner : SchemaPlanner Schema) (session : Session Provider Schema)
    (defaultConnection : Option MssqlConnectionConfig) (request : OutputWritePlan)
    (mappings : List SchemaMapping) (target : ResolvedMssqlTarget) : Prop where
  schema : ∃ schema, session.schemaForLazyTable request.table = .ok schema ∧
    (planner.fieldNames schema).Nodup ∧
    planner.planArrowSchemaToMssqlSchema schema = .ok mappings
  named : trimText request.target.outputName ≠ "" ∧
    request.target.outputName ≠ "<unnamed>"
  connection : request.target.target.effectiveConnection defaultConnection =
    some (target.connection, target.connectionSource)
  resolved : target = request.resolvedTo target.connection target.connectionSource
  creatable : Creatable ⟨target.summary, mappings⟩

/-- The timings of planning, after those of the table. -/
def plannedTimings (timings : ℕ → List PhaseTimingReport) (table : LazyTable) :
    List PhaseTimingReport :=
  (if table.kind = .deltaSource then [] else timings table.id) ++
    [.completed outputSchemaPlanningPhase, .completed sqlTargetPlanningPhase]

omit [ArrowSqlServer] in
theorem phaseTimingsForLazyTable_of_schema {table : LazyTable} {schema : Schema}
    (h : session.schemaForLazyTable table = .ok schema) :
    session.phaseTimingsForLazyTable timings table =
      .ok (if table.kind = .deltaSource then [] else timings table.id) := by
  unfold Session.phaseTimingsForLazyTable
  by_cases hkind : table.kind = .deltaSource
  · rw [if_pos hkind, if_pos hkind]
  · rw [if_neg hkind, if_neg hkind, if_pos]
    by_contra hunknown
    obtain ⟨hregistered, hpending⟩ := not_or.1 hunknown
    have hderived : table.kind = .derivedSql := by
      cases hother : table.kind with
      | deltaSource => exact absurd hother hkind
      | derivedSql => rfl
    unfold Session.schemaForLazyTable at h
    rw [hderived, Option.not_isSome_iff_eq_none.1 hregistered,
      Option.not_isSome_iff_eq_none.1 hpending] at h
    cases h

variable (defaultConnection request) in
omit [ArrowSqlServer] in
theorem resolve_cases :
    (∃ connection source, request.target.target.effectiveConnection defaultConnection =
        some (connection, source) ∧
      request.target.target.resolve request.target.outputName defaultConnection =
        .ok (request.resolvedTo connection source)) ∨
    request.target.target.effectiveConnection defaultConnection = none ∧
      request.target.target.resolve request.target.outputName defaultConnection =
        .error (missingMssqlConnection request.target.outputName) := by
  unfold MssqlTargetConfig.resolve
  cases heffective : request.target.target.effectiveConnection defaultConnection with
  | none => exact .inr ⟨rfl, rfl⟩
  | some effective =>
    obtain ⟨connection, source⟩ := effective
    exact .inl ⟨connection, source, rfl, rfl⟩

/-- An error of planning that is not one of the lifecycle. -/
def NoLifecycleError (error : DeltaFunnelError) : Prop :=
  ∀ outputName message, error ≠ .mssqlLifecyclePlanning outputName message

variable (planner) in
omit [ArrowSqlServer] in
theorem planMssqlOutputSchema_cases (schema : Schema) (target : ResolvedMssqlTarget) :
    (∃ mappings, (trimText target.outputName ≠ "" ∧ target.outputName ≠ "<unnamed>") ∧
      (planner.fieldNames schema).Nodup ∧
      planner.planArrowSchemaToMssqlSchema schema = .ok mappings ∧
      planMssqlOutputSchema planner schema target = .ok ⟨target.summary, mappings⟩) ∨
    ((¬∃ mappings, (trimText target.outputName ≠ "" ∧ target.outputName ≠ "<unnamed>") ∧
        (planner.fieldNames schema).Nodup ∧
        planner.planArrowSchemaToMssqlSchema schema = .ok mappings) ∧
      ∃ display, planMssqlOutputSchema planner schema target = .error (.other display)) := by
  unfold planMssqlOutputSchema validateOutputIdentity
  by_cases hunnamed : trimText target.outputName = "" ∨ target.outputName = "<unnamed>"
  · rw [if_pos hunnamed]
    refine .inr ⟨?_, _, rfl⟩
    intro h
    obtain ⟨mappings, hnamed, -⟩ := h
    exact hunnamed.elim hnamed.1 hnamed.2
  · rw [if_neg hunnamed]
    obtain ⟨hunique, hnodup⟩ | ⟨fieldName, i, j, hduplicate, hrepeated⟩ :=
      validateUniqueOutputFieldNames_cases target.outputName (planner.fieldNames schema)
    · rw [hunique]
      cases hmapped : planner.planArrowSchemaToMssqlSchema schema with
      | ok mappings => exact .inl ⟨mappings, not_or.1 hunnamed, hnodup, rfl, rfl⟩
      | error failure =>
        refine .inr ⟨?_, ?_⟩
        · intro h
          obtain ⟨mappings, -, -, hok⟩ := h
          cases hok
        · cases failure with
          | planning diagnostics => exact ⟨_, rfl⟩
          | other source => exact ⟨_, rfl⟩
    · rw [hrepeated]
      refine .inr ⟨?_, _, rfl⟩
      intro h
      obtain ⟨mappings, -, hnodup, -⟩ := h
      exact hduplicate.not_nodup hnodup

variable (session) in
omit [ArrowSqlServer] in
theorem schemaForLazyTable_cases (table : LazyTable) :
    (∃ schema, session.schemaForLazyTable table = .ok schema) ∨
      session.schemaForLazyTable table = .error (unknownLazyTableError table) := by
  unfold Session.schemaForLazyTable
  dsimp only
  split
  · next schema _ => exact .inl ⟨schema, rfl⟩
  · exact .inr rfl

theorem Plannable.of_schema {mappings : List SchemaMapping} {target : ResolvedMssqlTarget}
    (h : Plannable planner session defaultConnection request mappings target) {schema : Schema}
    (hschema : session.schemaForLazyTable request.table = .ok schema) :
    (planner.fieldNames schema).Nodup ∧
      planner.planArrowSchemaToMssqlSchema schema = .ok mappings := by
  obtain ⟨schema', hschema', hplanned⟩ := h.schema
  rw [hschema] at hschema'
  obtain rfl := Except.ok.inj hschema'
  exact hplanned

structure PlannedFor (timings : ℕ → List PhaseTimingReport) (request : OutputWritePlan)
    (mappings : List SchemaMapping) (target : ResolvedMssqlTarget)
    (planned : PlannedMssqlOutput) : Prop where
  requested : planned.request = request
  resolved : planned.resolvedTarget = target
  schemaPlan : planned.outputPlan.schemaPlan = ⟨target.summary, mappings⟩
  ddlPlan : planned.outputPlan.ddlPlan = ddlOf ⟨target.summary, mappings⟩
  lifecyclePlan : planned.outputPlan.lifecyclePlan = lifecycleOf target.summary
  phaseTimings : planned.phaseTimings = plannedTimings timings request.table

theorem PlannedFor.unique {mappings : List SchemaMapping} {target : ResolvedMssqlTarget}
    {first second : PlannedMssqlOutput} (h : PlannedFor timings request mappings target first)
    (h' : PlannedFor timings request mappings target second) : first = second := by
  have hplan := outputPlan_ext (h.schemaPlan.trans h'.schemaPlan.symm)
  have hrequest := h.requested.trans h'.requested.symm
  have hresolved := h.resolved.trans h'.resolved.symm
  have htimings := h.phaseTimings.trans h'.phaseTimings.symm
  obtain ⟨request, resolvedTarget, outputPlan, phaseTimings⟩ := first
  obtain ⟨request', resolvedTarget', outputPlan', phaseTimings'⟩ := second
  dsimp only at hplan hrequest hresolved htimings
  rw [hplan, hrequest, hresolved, htimings]

theorem planMssqlOutput_eq {schema : Schema} {target : ResolvedMssqlTarget}
    (hschema : session.schemaForLazyTable request.table = .ok schema)
    (hresolved : request.target.target.resolve request.target.outputName defaultConnection =
      .ok target) :
    session.planMssqlOutput planner timings defaultConnection request =
      (planMssqlTargetForResolvedOutput planner schema target).map fun plan =>
        ⟨request, target, plan, plannedTimings timings request.table⟩ := by
  unfold Session.planMssqlOutput
  rw [phaseTimingsForLazyTable_of_schema hschema, hschema, hresolved]
  simp only [bind, Except.bind]
  cases planMssqlTargetForResolvedOutput planner schema target <;> rfl

theorem Plannable.target_eq {mappings : List SchemaMapping} {target : ResolvedMssqlTarget}
    (h : Plannable planner session defaultConnection request mappings target)
    {connection : MssqlConnectionConfig} {source : MssqlConnectionSource}
    (heffective : request.target.target.effectiveConnection defaultConnection =
      some (connection, source)) :
    target = request.resolvedTo connection source := by
  have hconnection := h.connection
  rw [heffective] at hconnection
  obtain ⟨hconnection, hsource⟩ := Prod.mk.inj (Option.some.inj hconnection)
  rw [h.resolved, ← hconnection, ← hsource]

variable (planner session timings defaultConnection request) in
theorem planMssqlOutput_cases :
    (∃ mappings target planned,
      Plannable planner session defaultConnection request mappings target ∧
      PlannedFor timings request mappings target planned ∧
      session.planMssqlOutput planner timings defaultConnection request = .ok planned) ∨
    (¬∃ mappings target, Plannable planner session defaultConnection request mappings target) ∧
      ∃ error, session.planMssqlOutput planner timings defaultConnection request = .error error ∧
        NoLifecycleError error := by
  -- the ways to fail, in the order of the code: table, connection, schema, table text
  obtain ⟨schema, hschema⟩ | hunknown := schemaForLazyTable_cases session request.table
  · obtain ⟨connection, source, heffective, hresolved⟩ | ⟨hmissing, hresolved⟩ :=
      resolve_cases defaultConnection request
    · rw [planMssqlOutput_eq hschema hresolved]
      unfold planMssqlTargetForResolvedOutput
      obtain ⟨mappings, hnamed, hnodup, hmapped, hplanned⟩ | ⟨hrefused, display, hplanned⟩ :=
        planMssqlOutputSchema_cases planner schema
          (request.resolvedTo connection source)
      · rw [hplanned]
        obtain ⟨hcreatable, plan, hplan, hschemaPlan, hddl, hlifecycle⟩ |
            ⟨hrefused, error, hplan, hkind⟩ :=
          planMssqlTargetOutput_cases ⟨(request.resolvedTo connection source).summary, mappings⟩
        · refine .inl ⟨mappings, request.resolvedTo connection source, ⟨request,
            request.resolvedTo connection source, plan, plannedTimings timings request.table⟩, ?_, ?_, ?_⟩
          · exact ⟨⟨schema, hschema, hnodup, hmapped⟩, hnamed, heffective, rfl, hcreatable⟩
          · exact ⟨rfl, rfl, hschemaPlan, hddl, hlifecycle, rfl⟩
          · show Except.map _ (planMssqlTargetOutput _) = _
            rw [hplan]
            rfl
        -- the mappings are determined by the schema, so another plan would have the same
        · refine .inr ⟨?_, error, ?_, ?_⟩
          · intro h
            obtain ⟨mappings', target, h⟩ := h
            have hmapped' := (h.of_schema hschema).2
            rw [hmapped] at hmapped'
            obtain rfl := Except.ok.inj hmapped'
            have hcreatable := h.creatable
            rw [h.target_eq heffective] at hcreatable
            exact hrefused hcreatable
          · show Except.map _ (planMssqlTargetOutput _) = _
            rw [hplan]
            rfl
          · intro outputName message herror
            obtain ⟨_, _, hddl⟩ | ⟨_, _, hddl⟩ := hkind
            · rw [hddl] at herror
              cases herror
            · rw [hddl] at herror
              cases herror
      · rw [hplanned]
        refine .inr ⟨?_, .other display, rfl, fun _ _ herror => by cases herror⟩
        intro h
        obtain ⟨mappings, target, h⟩ := h
        obtain ⟨hnodup, hmapped⟩ := h.of_schema hschema
        exact hrefused ⟨mappings, h.named, hnodup, hmapped⟩
    · refine .inr ⟨?_, missingMssqlConnection request.target.outputName, ?_,
        fun _ _ herror => by cases herror⟩
      · intro h
        obtain ⟨mappings, target, h⟩ := h
        have hconnection := h.connection
        rw [hmissing] at hconnection
        cases hconnection
      · unfold Session.planMssqlOutput
        rw [phaseTimingsForLazyTable_of_schema hschema, hschema, hresolved]
        rfl
  · refine .inr ⟨?_, unknownLazyTableError request.table, ?_, ?_⟩
    · intro h
      obtain ⟨mappings, target, h⟩ := h
      obtain ⟨schema, hschema, -⟩ := h.schema
      rw [hunknown] at hschema
      cases hschema
    · unfold Session.planMssqlOutput Session.phaseTimingsForLazyTable
      rw [hunknown]
      split_ifs <;> rfl
    · intro outputName message herror
      cases herror

/-- Planning reads of a connection what its summary shows. -/
def SameButSecrets (first second : Option MssqlConnectionConfig) : Prop :=
  first.map MssqlConnectionConfig.summary = second.map MssqlConnectionConfig.summary

omit [ArrowSqlServer] in
theorem effectiveConnection_summary {config config' : MssqlTargetConfig}
    {defaultConnection defaultConnection' : Option MssqlConnectionConfig}
    (hdefault : SameButSecrets defaultConnection' defaultConnection)
    (hconnection : SameButSecrets config'.connection config.connection) :
    ((config'.effectiveConnection defaultConnection').map fun effective =>
        (effective.1.summary, effective.2)) =
      (config.effectiveConnection defaultConnection).map fun effective =>
        (effective.1.summary, effective.2) := by
  unfold SameButSecrets at hdefault hconnection
  unfold MssqlTargetConfig.effectiveConnection
  cases hown : config.connection with
  | some connection =>
    rw [hown] at hconnection
    obtain ⟨connection', hown', hsummary⟩ := Option.map_eq_some_iff.1 hconnection
    rw [hown']
    exact congrArg (fun summary => some (summary, MssqlConnectionSource.targetOverride)) hsummary
  | none =>
    rw [hown] at hconnection
    rw [Option.map_eq_none_iff.1 hconnection]
    dsimp only
    rw [Option.map_map, Option.map_map]
    have hmapped := congrArg (Option.map fun summary =>
      (summary, MssqlConnectionSource.contextDefault)) hdefault
    rw [Option.map_map, Option.map_map] at hmapped
    exact hmapped

theorem planMssqlTargetForResolvedOutput_summary {schema : Schema}
    {target target' : ResolvedMssqlTarget} (h : target'.summary = target.summary) :
    planMssqlTargetForResolvedOutput planner schema target' =
      planMssqlTargetForResolvedOutput planner schema target := by
  have hname : target'.outputName = target.outputName :=
    congrArg MssqlTargetSummary.outputName h
  unfold planMssqlTargetForResolvedOutput planMssqlOutputSchema
  rw [hname, h]

/-- What a plan shows: all of it but the connection it is to be written over. -/
def PlannedMssqlOutput.shown (planned : PlannedMssqlOutput) :
    MssqlTargetSummary × MssqlTargetOutputPlan × List PhaseTimingReport :=
  (planned.resolvedTarget.summary, planned.outputPlan, planned.phaseTimings)

/-- Requests that differ in no more than the texts of connection strings. -/
structure SameRequest (request' request : OutputWritePlan) : Prop where
  table : request'.table = request.table
  outputName : request'.target.outputName = request.target.outputName
  targetTable : request'.target.target.table = request.target.target.table
  loadMode : request'.target.target.loadMode = request.target.target.loadMode
  connection : SameButSecrets request'.target.target.connection request.target.target.connection

theorem planMssqlOutput_shown {request' : OutputWritePlan}
    {defaultConnection' : Option MssqlConnectionConfig}
    (hdefault : SameButSecrets defaultConnection' defaultConnection)
    (hsame : SameRequest request' request) :
    (session.planMssqlOutput planner timings defaultConnection' request').map
        PlannedMssqlOutput.shown =
      (session.planMssqlOutput planner timings defaultConnection request).map
        PlannedMssqlOutput.shown := by
  have heffective := effectiveConnection_summary hdefault hsame.connection
  obtain ⟨schema, hschema⟩ | hunknown := schemaForLazyTable_cases session request.table
  · have hschema' : session.schemaForLazyTable request'.table = .ok schema := by
      rw [hsame.table]
      exact hschema
    -- both requests have a connection, or neither has
    obtain ⟨connection, source, hsome, hresolved⟩ | ⟨hnone, hresolved⟩ :=
      resolve_cases defaultConnection request
    · rw [hsome] at heffective
      obtain ⟨⟨connection', source'⟩, hsome', hsummary⟩ := Option.map_eq_some_iff.1 heffective
      obtain ⟨hconnection', rfl⟩ := Prod.mk.inj hsummary
      have hresolved' : request'.target.target.resolve request'.target.outputName
          defaultConnection' = .ok (request'.resolvedTo connection' source') := by
        unfold MssqlTargetConfig.resolve
        rw [hsome']
        rfl
      have hshown : (request'.resolvedTo connection' source').summary =
          (request.resolvedTo connection source').summary := by
        unfold OutputWritePlan.resolvedTo ResolvedMssqlTarget.summary
        dsimp only
        rw [hsame.outputName, hsame.targetTable, hsame.loadMode, hconnection']
      rw [planMssqlOutput_eq hschema hresolved, planMssqlOutput_eq hschema' hresolved',
        planMssqlTargetForResolvedOutput_summary hshown, hsame.table]
      cases planMssqlTargetForResolvedOutput planner schema
          (request.resolvedTo connection source') with
      | error error => rfl
      | ok plan =>
        unfold PlannedMssqlOutput.shown Except.map
        dsimp only
        rw [hshown]
    · rw [hnone] at heffective
      have hnone' := Option.map_eq_none_iff.1 heffective
      have hresolved' : request'.target.target.resolve request'.target.outputName
          defaultConnection' = .error (missingMssqlConnection request.target.outputName) := by
        unfold MssqlTargetConfig.resolve
        rw [hnone', hsame.outputName]
      unfold Session.planMssqlOutput
      rw [phaseTimingsForLazyTable_of_schema hschema, phaseTimingsForLazyTable_of_schema hschema',
        hschema, hschema', hresolved, hresolved']
      rfl
  · unfold Session.planMssqlOutput Session.phaseTimingsForLazyTable
    rw [hsame.table, hunknown]
    split_ifs <;> rfl

end Whole

/-- One query, not yet named. -/
def querySession : Session Unit Unit :=
  (Session.fresh.tableFromSql "select 1 as order_id" ⟨.ok ((), ()), .ok ([], [])⟩).2

/-- Creates `dbo.orders` over the connection that is configured by default. -/
def ordersRequest (outputName : String) : OutputWritePlan :=
  ⟨.derivedSql 0, ⟨outputName, ⟨⟨some "dbo", "orders"⟩, .createAndLoad, none⟩, .execute⟩⟩

def ordersPlanner : SchemaPlanner Unit :=
  ⟨fun _ => ["order_id"], fun _ => .ok [⟨0, "order_id", "Int64", false, "bigint"⟩]⟩

end DeltaFunnel
