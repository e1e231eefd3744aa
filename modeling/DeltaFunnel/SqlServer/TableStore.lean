import DeltaFunnel.Interaction.Parallel
import DeltaFunnel.SqlServer.Server
import DeltaFunnel.SqlServer.SinkTrace

/-! SQL Server as a store of tables that several connections share. A call that returns an
error has no effect; every other call is one atomic step. -/

namespace DeltaFunnel
open Interaction

variable {Batch ι : Type}

/-- A table with the connection that created it, `none` for one that was there before. -/
structure StoredTable (Batch ι : Type) where
  creator : Option ι
  rows : List Batch
  deriving DecidableEq

abbrev TableStore (Batch ι : Type) := TableName → Option (StoredTable Batch ι)

namespace TableStore

def original (tables : TableName → Option (List Batch)) : TableStore Batch ι :=
  fun name => (tables name).map fun rows => ⟨none, rows⟩

def create (store : TableStore Batch ι) (client : ι) (name : TableName) :
    Option (TableStore Batch ι) :=
  match store name with
  | some _ => none
  | none => some (Function.update store name (some ⟨some client, []⟩))

def drop (store : TableStore Batch ι) (name : TableName) : Option (TableStore Batch ι) :=
  match store name with
  | some _ => some (Function.update store name none)
  | none => none

/-- `sp_rename`, which fails when the new name is taken. -/
def rename (store : TableStore Batch ι) (oldName newName : TableName) :
    Option (TableStore Batch ι) :=
  match store oldName, store newName with
  | some table, none =>
    some (Function.update (Function.update store oldName none) newName (some table))
  | _, _ => none

/-- The batch of `replace_swap_sql`, which commits all of its statements or none. -/
def replaceSwap (store : TableStore Batch ι) (finalTable stagingTable backupTable : TableName) :
    Option (TableStore Batch ι) :=
  match store stagingTable, store backupTable, store finalTable with
  | none, _, _ => none
  | some _, some _, _ => none
  | some _, none, some _ => do
    let moved ← store.rename finalTable backupTable
    let published ← moved.rename stagingTable finalTable
    published.drop backupTable
  | some _, none, none => store.rename stagingTable finalTable

def append (store : TableStore Batch ι) (name : TableName) (batch : Batch) :
    Option (TableStore Batch ι) :=
  match store name with
  | some table =>
    some (Function.update store name (some { table with rows := table.rows ++ [batch] }))
  | none => none

def executeStatement (store : TableStore Batch ι) (client : ι) :
    LifecycleStatement → Option (TableStore Batch ι)
  | .createTable name _ => store.create client name
  | .dropTable name => store.drop name
  | .replaceSwap finalTable stagingTable backupTable =>
    store.replaceSwap finalTable stagingTable backupTable

variable {store store' : TableStore Batch ι} {client : ι} {name : TableName}

theorem create_eq_some (h : store.create client name = some store') :
    store name = none ∧ store' = Function.update store name (some ⟨some client, []⟩) := by
  unfold create at h
  split at h
  · cases h
  · next habsent => exact ⟨habsent, (Option.some.inj h).symm⟩

theorem drop_eq_some (h : store.drop name = some store') :
    store' = Function.update store name none := by
  unfold drop at h
  split at h
  · exact (Option.some.inj h).symm
  · cases h

theorem append_eq_some {batch : Batch} (h : store.append name batch = some store') :
    ∃ table, store name = some table ∧
      store' = Function.update store name (some { table with rows := table.rows ++ [batch] }) := by
  unfold append at h
  split at h
  · next table htable => exact ⟨table, htable, (Option.some.inj h).symm⟩
  · cases h

theorem rename_eq_some {oldName newName : TableName}
    (h : store.rename oldName newName = some store') :
    ∃ table, store oldName = some table ∧ store newName = none ∧
      store' = Function.update (Function.update store oldName none) newName (some table) := by
  unfold rename at h
  split at h
  · next table hold hnew => exact ⟨table, hold, hnew, (Option.some.inj h).symm⟩
  · cases h

/-- A committed swap moves the staging table to the final name and leaves every other name,
the backup name included, as it was. -/
theorem replaceSwap_eq_some {finalTable stagingTable backupTable : TableName}
    (hstaging : stagingTable ≠ finalTable) (hbackup : backupTable ≠ finalTable)
    (hnames : stagingTable ≠ backupTable)
    (h : store.replaceSwap finalTable stagingTable backupTable = some store') :
    store backupTable = none ∧ ∃ table, store stagingTable = some table ∧
      store' = Function.update (Function.update store stagingTable none) finalTable
        (some table) := by
  unfold replaceSwap at h
  split at h
  · cases h
  · cases h
  · next habsent _ =>
    obtain ⟨moved, hmoved, h⟩ := Option.bind_eq_some_iff.1 h
    obtain ⟨published, hpublished, hdrop⟩ := Option.bind_eq_some_iff.1 h
    obtain ⟨_, -, -, rfl⟩ := rename_eq_some hmoved
    obtain ⟨staged, hstaged, -, rfl⟩ := rename_eq_some hpublished
    rw [Function.update_of_ne hnames, Function.update_of_ne hstaging] at hstaged
    refine ⟨habsent, staged, hstaged, ?_⟩
    rw [drop_eq_some hdrop]
    funext name
    by_cases hname : name = backupTable
    · subst hname
      simp [Function.update_of_ne hbackup, Function.update_of_ne hnames.symm, habsent]
    · by_cases hfinal : name = finalTable
      · subst hfinal
        simp [Function.update_of_ne hname]
      · by_cases hstage : name = stagingTable
        · subst hstage
          simp [Function.update_of_ne hname, Function.update_of_ne hfinal]
        · simp [Function.update_of_ne, hname, hfinal, hstage]
  · next habsent _ =>
    obtain ⟨staged, hstaged, -, rfl⟩ := rename_eq_some h
    exact ⟨habsent, staged, hstaged, rfl⟩

end TableStore

section Server
variable [RecordBatch Batch]

/-- What one call of a client does to the store, for each reply it may receive. -/
def ServerStep (client : ι) (store : TableStore Batch ι) :
    (op : ServerOp Batch) → (ServerSig Batch).Reply op → TableStore Batch ι → Prop
  | .lifecycle (.tableExists name), reply, store' =>
    store' = store ∧ ∀ found, reply = .ok found → found = (store name).isSome
  | .lifecycle (.executeStatement statement), .ok (), store' =>
    store.executeStatement client statement = some store'
  | .writeBatch name batch, .ok (), store' => store.append name batch = some store'
  | .targetRowCount name, reply, store' =>
    store' = store ∧ ∀ count, reply = .ok count →
      ∃ table, store name = some table ∧ count = rowSum table.rows
  -- A statement or a write that fails, the lock option, and opening or finishing a writer.
  | _, _, store' => store' = store

theorem serverStep_executeStatement {client : ι} {store : TableStore Batch ι}
    {statement : LifecycleStatement} (h : (store.executeStatement client statement).isSome) :
    ServerStep client store (.lifecycle (.executeStatement statement)) (.ok ())
      ((store.executeStatement client statement).get h) := (Option.some_get h).symm

theorem serverStep_writeBatch (client : ι) {store : TableStore Batch ι} {name : TableName}
    {batch : Batch} (h : (store.append name batch).isSome) :
    ServerStep client store (.writeBatch name batch) (.ok ()) ((store.append name batch).get h) :=
  (Option.some_get h).symm

def server : Shared (ServerSig Batch) (TableStore Batch ι) ι := ⟨ServerStep⟩

end Server
end DeltaFunnel
