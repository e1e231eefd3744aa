import DeltaFunnel.SqlServer.ReplaceProtocol
import DeltaFunnel.SqlServer.TableStore

/-! Several clients replace one table at the same time. Under every interleaving of their calls
readers see the original table or the whole validated output of one client. -/

namespace DeltaFunnel
open Interaction

section Race
variable [ArrowSqlServer] {Batch : Type} {finalTable : TableName}

/-- A client about to replace `finalTable`. -/
structure ReplaceClient (Batch : Type) (finalTable : TableName) where
  plan : MssqlTargetOutputPlan
  batches : List (Except DeltaFunnelError Batch)
  options : MssqlWriteBackend
  validationOptions : ValidationOptions
  phaseTimings : List PhaseTimingReport
  replaces : plan.loadMode = .replace
  targets : plan.finalTableName = finalTable

namespace ReplaceClient

theorem staging_ne_final (client : ReplaceClient Batch finalTable) {name : TableName}
    (hname : IsStagingName client.plan name) (hlength : finalTable.table.toList.length ≤ 127) :
    name ≠ finalTable := by
  have htarget := client.targets
  rw [← htarget]
  exact hname.ne_final (by rw [htarget]; exact hlength)

theorem backup_ne_final (client : ReplaceClient Batch finalTable) {name : TableName}
    (hname : IsBackupName client.plan name) (hlength : finalTable.table.toList.length ≤ 127) :
    name ≠ finalTable := by
  have htarget := client.targets
  rw [← htarget]
  exact hname.ne_final (by rw [htarget]; exact hlength)

variable [RecordBatch Batch]

def run (client : ReplaceClient Batch finalTable) :
    Program (ServerSig Batch) (Except DeltaFunnelError MssqlWriteReport) :=
  runMssqlOutputOnServer client.plan client.batches client.options client.validationOptions
    client.phaseTimings

/-- The rows are the client's whole stream, validated and counted. -/
def Completed (client : ReplaceClient Batch finalTable) (rows : List Batch) : Prop :=
  Complete client.plan client.batches rows

def protocol (client : ReplaceClient Batch finalTable) :
    Protocol (ServerSig Batch) (ReplaceStage Batch) :=
  replaceProtocol client.plan client.batches

end ReplaceClient

variable [RecordBatch Batch] {ι : Type} {clients : ι → ReplaceClient Batch finalTable}
  {tables : TableName → Option (List Batch)} {store store' : TableStore Batch ι}
  {stages : ι → ReplaceStage Batch} {i : ι} {name : TableName} {rows : List Batch}

/-- The final name is bound as it was, or to the complete output of one client. -/
def FinalIntact (clients : ι → ReplaceClient Batch finalTable)
    (tables : TableName → Option (List Batch)) (store : TableStore Batch ι) : Prop :=
  store finalTable = TableStore.original tables finalTable ∨
    ∃ i rows, (clients i).Completed rows ∧ store finalTable = some ⟨some i, rows⟩

/-- Each client in its staged phase owns its staging table, and the final name is intact. -/
structure RaceInvariant (clients : ι → ReplaceClient Batch finalTable)
    (tables : TableName → Option (List Batch)) (store : TableStore Batch ι)
    (stages : ι → ReplaceStage Batch) : Prop where
  staging : ∀ i name rows, stages i = .staged name rows →
    IsStagingName (clients i).plan name ∧ store name = some ⟨some i, rows⟩
  final : FinalIntact clients tables store

/-- Everything an allowed call of client `i` can do to the store and to the client's stage. -/
inductive RaceStep (client : ReplaceClient Batch finalTable) (i : ι) (store : TableStore Batch ι)
    (stage : ReplaceStage Batch) (store' : TableStore Batch ι) (stage' : ReplaceStage Batch) : Prop
  | unchanged (hstore : store' = store) (hstage : stage' = stage)
  | created (name : TableName) (hname : IsStagingName client.plan name)
      (habsent : store name = none)
      (hstore : store' = Function.update store name (some ⟨some i, []⟩))
      (hstage : stage' = .staged name [])
  | written (name : TableName) (rows : List Batch) (batch : Batch)
      (hstaged : stage = .staged name rows)
      (hstore : store' = Function.update store name (some ⟨some i, rows ++ [batch]⟩))
      (hstage : stage' = .staged name (rows ++ [batch]))
  | dropped (name : TableName) (rows : List Batch) (hstaged : stage = .staged name rows)
      (hstore : store' = Function.update store name none) (hstage : stage' = .dropped)
  | swapped (name : TableName) (rows : List Batch) (hstaged : stage = .staged name rows)
      (hcomplete : client.Completed rows)
      (hstore : store' = Function.update (Function.update store name none) finalTable
        (some ⟨some i, rows⟩))
      (hstage : stage' = .published rows)

theorem RaceInvariant.staging_ne_final (h : RaceInvariant clients tables store stages)
    (hstaged : stages i = .staged name rows) (hlength : finalTable.table.toList.length ≤ 127) :
    name ≠ finalTable :=
  (clients i).staging_ne_final (h.staging i name rows hstaged).1 hlength

theorem RaceInvariant.executeStatement_cases (h : RaceInvariant clients tables store stages)
    (hlength : finalTable.table.toList.length ≤ 127) {statement : LifecycleStatement}
    (hallowed : (clients i).protocol.allowed (stages i) (.lifecycle (.executeStatement statement)))
    (hstep : store.executeStatement i statement = some store') :
    RaceStep (clients i) i store (stages i) store'
      ((clients i).protocol.next (stages i) (.lifecycle (.executeStatement statement)) (.ok ())) := by
  cases statement with
  | createTable name mappings =>
    obtain ⟨-, hname⟩ := hallowed
    obtain ⟨habsent, hstore⟩ := TableStore.create_eq_some hstep
    exact .created name hname habsent hstore rfl
  | dropTable name =>
    obtain ⟨rows, hstaged⟩ := hallowed
    exact .dropped name rows hstaged (TableStore.drop_eq_some hstep) rfl
  | replaceSwap swapFinal stagingTable backupTable =>
    obtain ⟨hfinal, hbackup, rows, hstaged, hcomplete⟩ := hallowed
    obtain ⟨hstaging, htable⟩ := h.staging i stagingTable rows hstaged
    rw [(clients i).targets] at hfinal
    subst hfinal
    have hne := (clients i).backup_ne_final hbackup hlength
    obtain ⟨-, table, hfound, hstore⟩ := TableStore.replaceSwap_eq_some
      (h.staging_ne_final hstaged hlength) hne (hstaging.ne_backup hbackup) hstep
    rw [htable] at hfound
    obtain rfl := Option.some.inj hfound
    refine .swapped stagingTable rows hstaged hcomplete hstore ?_
    rw [hstaged]
    rfl

theorem RaceInvariant.step_cases (h : RaceInvariant clients tables store stages)
    (hlength : finalTable.table.toList.length ≤ 127) {op : ServerOp Batch}
    {reply : (ServerSig Batch).Reply op} (hallowed : (clients i).protocol.allowed (stages i) op)
    (hstep : ServerStep i store op reply store') :
    RaceStep (clients i) i store (stages i) store'
      ((clients i).protocol.next (stages i) op reply) := by
  cases op with
  | lifecycle op =>
    cases op with
    | tableExists name => exact .unchanged hstep.1 rfl
    | executeStatement statement =>
      cases reply with
      | error source =>
        refine .unchanged hstep ?_
        cases statement <;> rfl
      | ok _ => exact h.executeStatement_cases hlength hallowed hstep
  | writeBatch name batch =>
    cases reply with
    | error source => exact .unchanged hstep rfl
    | ok _ =>
      obtain ⟨rows, hstaged⟩ := hallowed
      obtain ⟨table, hfound, hstore⟩ := TableStore.append_eq_some hstep
      rw [(h.staging i name rows hstaged).2] at hfound
      obtain rfl := Option.some.inj hfound
      refine .written name rows batch hstaged hstore ?_
      rw [hstaged]
      rfl
  | targetRowCount name => exact .unchanged hstep.1 rfl
  | setBulkLoadTableLock name enabled => exact .unchanged hstep rfl
  | bulkWriter name mappings backend => exact .unchanged hstep rfl
  | finish name => exact .unchanged hstep rfl

theorem RaceInvariant.frame (h : RaceInvariant clients tables store stages)
    {stage' : ReplaceStage Batch} (hstep : RaceStep (clients i) i store (stages i) store' stage')
    {j : ι} {table : StoredTable Batch ι} (hji : j ≠ i) (htable : store name = some table)
    (hcreator : table.creator = some j) (hname : name ≠ finalTable) :
    store' name = some table := by
  -- A table this client has staged is its own creation, so it is not the one at `name`.
  have hother : ∀ own rows, stages i = .staged own rows → name ≠ own := by
    rintro own rows hstaged rfl
    rw [(h.staging i name rows hstaged).2] at htable
    obtain rfl := Option.some.inj htable
    exact hji (Option.some.inj hcreator).symm
  cases hstep with
  | unchanged hstore => rw [hstore, htable]
  | created own _ habsent hstore =>
    have hne : name ≠ own := by
      rintro rfl
      rw [habsent] at htable
      cases htable
    rw [hstore, Function.update_of_ne hne, htable]
  | written own rows batch hstaged hstore =>
    rw [hstore, Function.update_of_ne (hother own rows hstaged), htable]
  | dropped own rows hstaged hstore =>
    rw [hstore, Function.update_of_ne (hother own rows hstaged), htable]
  | swapped own rows hstaged _ hstore =>
    rw [hstore, Function.update_of_ne hname, Function.update_of_ne (hother own rows hstaged),
      htable]

theorem RaceInvariant.final_step (h : RaceInvariant clients tables store stages)
    (hlength : finalTable.table.toList.length ≤ 127) {stage' : ReplaceStage Batch}
    (hstep : RaceStep (clients i) i store (stages i) store' stage') :
    FinalIntact clients tables store' := by
  have hkeep : store' finalTable = store finalTable → FinalIntact clients tables store' := by
    intro hsame
    rw [FinalIntact, hsame]
    exact h.final
  cases hstep with
  | unchanged hstore => exact hkeep (by rw [hstore])
  | created name hname _ hstore =>
    have hne := (clients i).staging_ne_final hname hlength
    exact hkeep (by rw [hstore, Function.update_of_ne hne.symm])
  | written name rows batch hstaged hstore =>
    have hne := h.staging_ne_final hstaged hlength
    exact hkeep (by rw [hstore, Function.update_of_ne hne.symm])
  | dropped name rows hstaged hstore =>
    have hne := h.staging_ne_final hstaged hlength
    exact hkeep (by rw [hstore, Function.update_of_ne hne.symm])
  | swapped name rows _ hcomplete hstore =>
    exact .inr ⟨i, rows, hcomplete, by rw [hstore, Function.update_self]⟩

theorem RaceInvariant.own_step (h : RaceInvariant clients tables store stages)
    {stage' : ReplaceStage Batch} (hstep : RaceStep (clients i) i store (stages i) store' stage')
    (hstaged' : stage' = .staged name rows) :
    IsStagingName (clients i).plan name ∧ store' name = some ⟨some i, rows⟩ := by
  cases hstep with
  | unchanged hstore hstage =>
    rw [hstore]
    exact h.staging i name rows (by rw [← hstage, hstaged'])
  | created own hname _ hstore hstage =>
    rw [hstaged'] at hstage
    cases hstage
    exact ⟨hname, by rw [hstore, Function.update_self]⟩
  | written own ownRows batch hstaged hstore hstage =>
    rw [hstaged'] at hstage
    cases hstage
    exact ⟨(h.staging i name ownRows hstaged).1, by rw [hstore, Function.update_self]⟩
  | dropped _ _ _ _ hstage =>
    rw [hstaged'] at hstage
    cases hstage
  | swapped _ _ _ _ _ hstage =>
    rw [hstaged'] at hstage
    cases hstage

theorem RaceInvariant.possible (h : RaceInvariant clients tables store stages)
    {op : ServerOp Batch} {reply : (ServerSig Batch).Reply op}
    (hstep : ServerStep i store op reply store') :
    (clients i).protocol.possible (stages i) op reply := by
  cases op with
  | targetRowCount name =>
    intro rows count hstaged hreply
    obtain ⟨table, htable, hcount⟩ := hstep.2 count hreply
    rw [(h.staging i name rows hstaged).2] at htable
    rw [hcount, ← Option.some.inj htable]
  | _ => trivial

def raceStart (clients : ι → ReplaceClient Batch finalTable)
    (tables : TableName → Option (List Batch)) :
    Config (ServerSig Batch) (TableStore Batch ι) ι (Except DeltaFunnelError MssqlWriteReport) :=
  ⟨TableStore.original tables, fun i => (clients i).run⟩

def Succeeded (result : Except DeltaFunnelError MssqlWriteReport) (stage : ReplaceStage Batch) :
    Prop :=
  ∀ report, result = .ok report → ∃ rows, stage = .published rows

theorem raceStart_coherent (clients : ι → ReplaceClient Batch finalTable)
    (tables : TableName → Option (List Batch)) :
    Shared.Coherent (fun i => (clients i).protocol) (RaceInvariant clients tables)
      (fun _ => Succeeded) (raceStart clients tables) fun _ => .idle where
  invariant := ⟨fun i name rows hstaged => (by cases hstaged), .inl rfl⟩
  meets i := runMssqlOutputOnServer_meets (clients i).replaces

def CommitsSwap (finalTable : TableName) (e : Event (ServerSig Batch)) : Prop :=
  ∃ stagingTable backupTable, e =
    ⟨.lifecycle (.executeStatement (.replaceSwap finalTable stagingTable backupTable)), .ok ()⟩

theorem commitsSwap_of_next {client : ReplaceClient Batch finalTable}
    {stage : ReplaceStage Batch} {e : Event (ServerSig Batch)}
    (hallowed : client.protocol.allowed stage e.op) (hbefore : ¬∃ rows, stage = .published rows)
    (hafter : ∃ rows, client.protocol.next stage e.op e.reply = .published rows) :
    CommitsSwap finalTable e := by
  obtain ⟨rows, hafter⟩ := hafter
  have hunchanged : client.protocol.next stage e.op e.reply ≠ stage := by
    intro hsame
    exact hbefore ⟨rows, by rw [← hsame, hafter]⟩
  obtain ⟨op, reply⟩ := e
  rcases op with (name | statement) | _ | _ | ⟨name, batch⟩ | _ | _
  · exact absurd rfl hunchanged
  · rcases reply with source | _
    · exact absurd (by cases statement <;> rfl) hunchanged
    · cases statement with
      | createTable name mappings => cases hafter
      | dropTable name => cases hafter
      | replaceSwap swapFinal stagingTable backupTable =>
        have hfinal : swapFinal = finalTable := hallowed.1.trans client.targets
        exact ⟨stagingTable, backupTable, by rw [hfinal]⟩
  · exact absurd rfl hunchanged
  · exact absurd rfl hunchanged
  · rcases reply with source | _
    · exact absurd rfl hunchanged
    · obtain ⟨staged, rfl⟩ := hallowed
      cases hafter
  · exact absurd rfl hunchanged
  · exact absurd rfl hunchanged

variable [DecidableEq ι]

theorem RaceInvariant.step (h : RaceInvariant clients tables store stages)
    (hlength : finalTable.table.toList.length ≤ 127) {stage' : ReplaceStage Batch}
    (hstep : RaceStep (clients i) i store (stages i) store' stage') :
    RaceInvariant clients tables store' (Function.update stages i stage') := by
  refine ⟨fun j name rows hj => ?_, h.final_step hlength hstep⟩
  by_cases hji : j = i
  · subst hji
    rw [Function.update_self] at hj
    exact h.own_step hstep hj
  · rw [Function.update_of_ne hji] at hj
    obtain ⟨hname, htable⟩ := h.staging j name rows hj
    have hne := (clients j).staging_ne_final hname hlength
    exact ⟨hname, h.frame hstep hji htable rfl hne⟩

theorem raceInvariant_preserved (hlength : finalTable.table.toList.length ≤ 127) :
    Shared.Preserves server (fun i => (clients i).protocol) (RaceInvariant clients tables) := by
  intro i store stages op reply store' h hallowed hstep
  exact ⟨h.possible hstep, h.step hlength (h.step_cases hlength hallowed hstep)⟩

theorem published_at_swap {c d : Config (ServerSig Batch) (TableStore Batch ι) ι
      (Except DeltaFunnelError MssqlWriteReport)} {e : Event (ServerSig Batch)}
    (hlength : finalTable.table.toList.length ≤ 127)
    (h : Shared.Coherent (fun i => (clients i).protocol) (RaceInvariant clients tables)
      (fun _ => Succeeded) c stages)
    (hstep : server.Step c i e d) (hbefore : ¬∃ rows, stages i = .published rows)
    (hafter : ∃ rows, (clients i).protocol.next (stages i) e.op e.reply = .published rows) :
    CommitsSwap finalTable e ∧
      ∃ rows, (clients i).Completed rows ∧ d.world finalTable = some ⟨some i, rows⟩ := by
  have hallowed := (h.step (raceInvariant_preserved hlength) hstep).1
  refine ⟨commitsSwap_of_next hallowed hbefore hafter, ?_⟩
  obtain ⟨rows, hafter⟩ := hafter
  cases hstep with
  | mk hprogram hworld =>
    cases h.invariant.step_cases hlength hallowed hworld with
    | unchanged _ hstage => exact absurd ⟨rows, by rw [← hstage, hafter]⟩ hbefore
    | created _ _ _ _ hstage => rw [hafter] at hstage; cases hstage
    | written _ _ _ _ _ hstage => rw [hafter] at hstage; cases hstage
    | dropped _ _ _ _ hstage => rw [hafter] at hstage; cases hstage
    | swapped name swapped _ hcomplete hstore =>
      subst hstore
      exact ⟨swapped, hcomplete, Function.update_self ..⟩

/-- **Concurrent replaces.** After any interleaving of the clients' calls the final name holds
the original table or the complete output of one client; no further call of one client touches
a table another has staged; and a client that reports success had its complete output under the
final name at the moment of its swap. -/
theorem concurrent_replaces_expose_whole_outputs
    (hlength : finalTable.table.toList.length ≤ 127)
    (clients : ι → ReplaceClient Batch finalTable) (tables : TableName → Option (List Batch))
    {trace : List (ι × Event (ServerSig Batch))}
    {c : Config (ServerSig Batch) (TableStore Batch ι) ι (Except DeltaFunnelError MssqlWriteReport)}
    (hreaches : server.Reaches (raceStart clients tables) trace c) :
    FinalIntact clients tables c.world ∧
    (∀ i e d, server.Step c i e d → ∀ j name table, j ≠ i → c.world name = some table →
      table.creator = some j → name ≠ finalTable → d.world name = some table) ∧
    ∀ i report, c.program i = .ret (.ok report) →
      ∃ before e after b d, trace = before ++ (i, e) :: after ∧
        server.Reaches (raceStart clients tables) before b ∧ server.Step b i e d ∧
        CommitsSwap finalTable e ∧
        ∃ rows, (clients i).Completed rows ∧ d.world finalTable = some ⟨some i, rows⟩ := by
  have hstart := raceStart_coherent clients tables
  have hpreserved : Shared.Preserves server (fun i => (clients i).protocol)
      (RaceInvariant clients tables) := raceInvariant_preserved hlength
  have hcoherent := hstart.reaches hpreserved hreaches
  refine ⟨hcoherent.invariant.final, ?_, ?_⟩
  · intro i e d hstep j name table hji htable hcreator hname
    have hallowed := (hcoherent.step hpreserved hstep).1
    cases hstep with
    | mk hprogram hworld =>
      exact hcoherent.invariant.frame (hcoherent.invariant.step_cases hlength hallowed hworld)
        hji htable hcreator hname
  · intro i report hreport
    have hmeets := hcoherent.meets i
    rw [hreport] at hmeets
    have hpublished := hmeets report rfl
    -- the client has published, and had not at the start: some step of its own was the swap
    have hidle : ¬∃ rows : List Batch, ReplaceStage.idle = .published rows := by
      rintro ⟨rows, ⟨⟩⟩
    obtain ⟨before, e, after, b, d, htrace, hbefore, hstep, hnot, hturn⟩ :=
      hreaches.turning_point (A := fun i => (clients i).protocol)
        (P := fun stage => ∃ rows, stage = .published rows) hidle hpublished
    exact ⟨before, e, after, b, d, htrace, hbefore, hstep,
      published_at_swap hlength (hstart.reaches hpreserved hbefore) hstep hnot hturn⟩

end Race

/-- Two clients that replace the orders table by one batch each. -/
def ordersClients : Bool → @ReplaceClient acceptingDriver ℕ ⟨some "dbo", "orders"⟩ := fun first =>
  letI := acceptingDriver
  { plan := ordersReplacePlan
    batches := if first then [.ok 2] else [.ok 3]
    options := .directRawBulk
    validationOptions := {}
    phaseTimings := []
    replaces := rfl
    targets := rfl }

def ordersTables (name : TableName) : Option (List ℕ) :=
  if name = ⟨some "dbo", "orders"⟩ then some [7] else none

/-- Both clients probe the same staging name; one creates it and publishes, the other fails. -/
theorem racing_orders_are_whole :
    letI := acceptingDriver
    letI := countedBatch
    ∃ trace c, server.Reaches (raceStart ordersClients ordersTables) trace c ∧
      (∃ report, c.program true = .ret (.ok report)) ∧
      (∃ error, c.program false = .ret (.error error)) ∧
      FinalIntact ordersClients ordersTables c.world := by
  let _ := acceptingDriver
  let _ := countedBatch
  have hreaches : ∃ trace c, server.Reaches (raceStart ordersClients ordersTables) trace c ∧
      (∃ report, c.program true = .ret (.ok report)) ∧
      ∃ error, c.program false = .ret (.error error) := by
    have start := Shared.Reaches.refl (E := server) (raceStart ordersClients ordersTables)
    have probed := start.step true rfl (.ok true)
      ⟨rfl, fun found hfound => by cases hfound; decide⟩
    have probed := probed.step false rfl (.ok true)
      ⟨rfl, fun found hfound => by cases hfound; decide⟩
    have probed := probed.step true rfl (.ok false)
      ⟨rfl, fun found hfound => by cases hfound; decide⟩
    have probed := probed.step false rfl (.ok false)
      ⟨rfl, fun found hfound => by cases hfound; decide⟩
    have created := probed.step true rfl (.ok ())
      (serverStep_executeStatement (by decide))
    have lost := created.step false rfl (.error ⟨.other, "exists", none, "ddl", "sql", []⟩) rfl
    have locked := lost.step true rfl (.ok ()) rfl
    have opened := locked.step true rfl (.ok ()) rfl
    have written := opened.step true rfl (.ok ()) (serverStep_writeBatch true (by decide))
    have finished := written.step true rfl (.ok ()) rfl
    have counted := finished.step true rfl (.ok 2) ⟨rfl, fun count hcount =>
      ⟨⟨some true, [2]⟩, by cases hcount; decide⟩⟩
    have unlocked := counted.step true rfl (.ok ()) rfl
    have probed := unlocked.step true rfl (.ok false)
      ⟨rfl, fun found hfound => by cases hfound; decide⟩
    have swapped := probed.step true rfl (.ok ())
      (serverStep_executeStatement (by decide))
    exact ⟨_, _, swapped, ⟨_, rfl⟩, ⟨_, rfl⟩⟩
  obtain ⟨trace, c, hc, htrue, hfalse⟩ := hreaches
  exact ⟨trace, c, hc, htrue, hfalse,
    (concurrent_replaces_expose_whole_outputs (by decide) ordersClients ordersTables hc).1⟩

end DeltaFunnel
