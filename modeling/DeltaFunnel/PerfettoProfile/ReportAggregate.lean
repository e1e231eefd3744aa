import DeltaFunnel.Collections.Sorting
import DeltaFunnel.PerfettoProfile.RankedReport

/-! Building a ranked profile document from the compact records of a query. -/

namespace DeltaFunnel
open Collections

inductive RankedReportFailurePhase where
  | argument
  | input
  | health
  | traceProcessor
  | query
  | aggregateValidation
  | serialization
  | output
  deriving DecidableEq, Repr

structure RankedReportFailure where
  phase : RankedReportFailurePhase
  kind : String
  message : String
  deriving DecidableEq, Repr

/-- The fields of the document's metadata, and one more that is checked and dropped. -/
structure CompactMetadata extends RankedProfileMetadata where
  auditErrorCount : ℤ
  deriving DecidableEq, Repr

structure CompactFrame where
  functionId : ℤ
  parentFunctionId : Option ℤ
  name : String
  moduleName : Option String
  sourceFile : Option String
  lineNumber : Option ℤ
  officialSelfSampleCount : ℤ
  officialInclusiveSampleCount : ℤ
  deriving DecidableEq, Repr

structure CompactFunctionSelf where
  semanticId : ℤ
  functionId : ℤ
  selfSampleCount : ℤ
  deriving DecidableEq, Repr

inductive CompactRecord where
  | metadata (record : CompactMetadata)
  | semantic (record : RankedSemantic)
  | frame (record : CompactFrame)
  | functionSelf (record : CompactFunctionSelf)
  deriving DecidableEq, Repr

def malformedResult : RankedReportFailure :=
  ⟨.query, "malformed_result", "ranked profile query returned an unexpected result"⟩

def resultTooLarge : RankedReportFailure :=
  ⟨.query, "result_too_large", "ranked profile query returned too many records"⟩

def aggregateFailure (kind message : String) : RankedReportFailure :=
  ⟨.aggregateValidation, kind, message⟩

abbrev Aggregation (α : Type) : Type := Except RankedReportFailure α

def failIf (condition : Prop) [Decidable condition] (failure : RankedReportFailure) :
    Aggregation Unit := if condition then .error failure else .ok ()

@[simp] theorem failIf_eq_ok {condition : Prop} [Decidable condition]
    {failure : RankedReportFailure} : failIf condition failure = .ok () ↔ ¬condition := by
  unfold failIf
  split
  · next h => exact iff_of_false nofun (not_not.2 h)
  · next h => exact iff_of_true rfl h

/-- `ok_or_else`. -/
def okOr {α : Type} (value : Option α) (failure : RankedReportFailure) : Aggregation α :=
  match value with
  | some a => .ok a
  | none => .error failure

@[simp] theorem okOr_eq_ok {α : Type} {value : Option α} {failure : RankedReportFailure} {a : α} :
    okOr value failure = .ok a ↔ value = some a := by
  cases value with
  | none => simp [okOr]
  | some b => simp [okOr]

/-- `map_err` of a validation, whatever it found. -/
def validOr (check : Validation Unit) (failure : RankedReportFailure) : Aggregation Unit :=
  match check with
  | .ok () => .ok ()
  | .error _ => .error failure

@[simp] theorem validOr_eq_ok {check : Validation Unit} {failure : RankedReportFailure} :
    validOr check failure = .ok () ↔ check = .ok () := by
  cases check with
  | ok value => simp [validOr]
  | error e => simp [validOr]

def foldSemantics (order : IterationOrder ReportMap) (semantics : List RankedSemantic) :
    Aggregation (List RankedSemantic) := do
  let direct := .collect (semantics.map fun semantic =>
    (semantic.semanticId, semantic.directSampleCount))
  let inclusive ← okOr
    (foldInclusiveCounts order .semanticFold (RankedProfileDocument.semanticParents semantics)
      direct)
    (aggregateFailure "count_overflow" "semantic sample fold failed")
  semantics.mapM fun semantic => do
    let count ← okOr (inclusive.get? semantic.semanticId)
      (aggregateFailure "invalid_structure" "semantic fold is incomplete")
    return { semantic with inclusiveSampleCount := count }

def insertFrame (byId : HashMap ℤ CompactFrame) (frame : CompactFrame) :
    Aggregation (HashMap ℤ CompactFrame) :=
  if frame.functionId < 0 ∨ frame.officialSelfSampleCount < 0 ∨
      frame.officialInclusiveSampleCount < 0 ∨ byId.contains frame.functionId then
    .error (aggregateFailure "invalid_function_graph" "native function graph is invalid")
  else .ok (byId.insert frame.functionId frame)

def frameParents (frames : List CompactFrame) : HashMap ℤ (Option ℤ) :=
  .collect (frames.map fun frame => (frame.functionId, frame.parentFunctionId))

def validateFrames (order : IterationOrder ReportMap) (frames : List CompactFrame) :
    Aggregation (HashMap ℤ CompactFrame) := do
  let byId ← frames.foldlM insertFrame .empty
  let values := (byId.iter order .frames).map Prod.snd
  let selfCounts := .collect (values.map fun frame =>
    (frame.functionId, frame.officialSelfSampleCount))
  let inclusive ← okOr
    (foldInclusiveCounts order .frameFold (frameParents values) selfCounts)
    (aggregateFailure "invalid_function_graph" "native function graph could not be folded")
  values.forM fun frame =>
    failIf (inclusive.get? frame.functionId ≠ some frame.officialInclusiveSampleCount)
      (aggregateFailure "official_count_mismatch" "native function summary did not reconcile")
  return byId

def expandedFunction (semanticId functionId : ℤ) (frame : CompactFrame) (selfSampleCount : ℤ) :
    RankedFunction where
  semanticId := semanticId
  functionId := functionId
  parentFunctionId := frame.parentFunctionId
  name := frame.name
  moduleName := frame.moduleName
  sourceFile := frame.sourceFile
  lineNumber := frame.lineNumber
  selfSampleCount := selfSampleCount
  inclusiveSampleCount := 0

/-- The inner loop of `expand_functions`. It climbs at most once through every frame, so that fuel
for one round more than there are frames is never used up. -/
def expandPath (frames : HashMap ℤ CompactFrame) (record : CompactFunctionSelf) :
    ℕ → Bool → List ℤ → ℤ → HashMap (ℤ × ℤ) RankedFunction →
      Aggregation (HashMap (ℤ × ℤ) RankedFunction)
  | 0, _, _, _, _ =>
    .error (aggregateFailure "invalid_function_graph" "native function graph contains a cycle")
  | fuel + 1, isSelf, path, functionId, functions =>
    if functionId ∈ path then
      .error (aggregateFailure "invalid_function_graph" "native function graph contains a cycle")
    else
      match frames.get? functionId with
      | none =>
        .error (aggregateFailure "invalid_function_graph" "native function frame is missing")
      | some frame =>
        match functions.get? (record.semanticId, functionId) with
        | some function =>
          if isSelf then do
            let count ← okOr (checkedAdd function.selfSampleCount record.selfSampleCount)
              (aggregateFailure "count_overflow" "function self count overflowed")
            return functions.insert (record.semanticId, functionId)
              { function with selfSampleCount := count }
          else .ok functions
        | none =>
          let functions := functions.insert (record.semanticId, functionId)
            (expandedFunction record.semanticId functionId frame
              (if isSelf then record.selfSampleCount else 0))
          if functions.len > maxRecordsPerCollection then .error resultTooLarge
          else
            match frame.parentFunctionId with
            | none => .ok functions
            | some parentId =>
              expandPath frames record fuel false (functionId :: path) parentId functions

structure ExpandState where
  functions : HashMap (ℤ × ℤ) RankedFunction
  selfIdentities : List (ℤ × ℤ)

def expandRecord (frames : HashMap ℤ CompactFrame) (state : ExpandState)
    (record : CompactFunctionSelf) : Aggregation ExpandState := do
  failIf (record.selfSampleCount < 0 ∨
      (record.semanticId, record.functionId) ∈ state.selfIdentities)
    (aggregateFailure "invalid_function_self_count" "function self counts are invalid")
  let functions ← expandPath frames record (frames.len + 1) true [] record.functionId
    state.functions
  return ⟨functions, (record.semanticId, record.functionId) :: state.selfIdentities⟩

def expandFunctions (order : IterationOrder ReportMap) (frames : HashMap ℤ CompactFrame)
    (functionSelf : List CompactFunctionSelf) : Aggregation (List RankedFunction) := do
  let state ← functionSelf.foldlM (expandRecord frames) ⟨.empty, []⟩
  return (state.functions.iter order .functions).map Prod.snd

def foldFunctions (order : IterationOrder ReportMap) (functions : List RankedFunction) :
    Aggregation (List RankedFunction) := do
  let selfCounts := .collect (functions.map fun function =>
    ((function.semanticId, function.functionId), function.selfSampleCount))
  let inclusive ← okOr
    (foldInclusiveCounts order .functionFold (RankedProfileDocument.functionParents functions)
      selfCounts)
    (aggregateFailure "count_overflow" "function sample fold failed")
  functions.mapM fun function => do
    let count ← okOr (inclusive.get? (function.semanticId, function.functionId))
      (aggregateFailure "invalid_structure" "function fold is incomplete")
    return { function with inclusiveSampleCount := count }

def countOfficialSelf (actual : HashMap ℤ ℤ) (function : RankedFunction) :
    Aggregation (HashMap ℤ ℤ) := do
  let count ← okOr
    (checkedAdd ((actual.get? function.functionId).getD 0) function.selfSampleCount)
    (aggregateFailure "count_overflow" "official function reconciliation overflowed")
  return actual.insert function.functionId count

def reconcileOfficialSelfCounts (order : IterationOrder ReportMap)
    (frames : HashMap ℤ CompactFrame) (functions : List RankedFunction) : Aggregation Unit := do
  let actual ← functions.foldlM countOfficialSelf .empty
  failIf ((frames.iter order .frames).any fun frame =>
      (actual.get? frame.1).getD 0 ≠ frame.2.officialSelfSampleCount)
    (aggregateFailure "official_count_mismatch" "native function self counts did not reconcile")

def normalizeFunctionSource (function : RankedFunction) : RankedFunction :=
  { function with
    moduleName := function.moduleName.bind normalizeModuleName
    sourceFile := function.sourceFile.bind normalizeSourceFile }

def RankedProfileDocument.normalizeSourceMetadata (document : RankedProfileDocument) :
    RankedProfileDocument :=
  { document with functions := document.functions.map normalizeFunctionSource }

def sortSemantics (semantics : List RankedSemantic) : List RankedSemantic :=
  sortByKey (fun semantic => toLex (semantic.operationId, semantic.semanticId)) semantics

def sortFunctions (functions : List RankedFunction) : List RankedFunction :=
  sortByKey (fun function => toLex (function.semanticId, function.functionId)) functions

def requireUsableMetadata (metadata : CompactMetadata) (semantics : List RankedSemantic) :
    Aggregation Unit := do
  failIf (metadata.missingIdentityFieldCount > 0)
    (aggregateFailure "unsafe_identity" "ranked profile ownership identity is incomplete")
  failIf (semantics.isEmpty = true)
    ⟨.health, "incomplete_capture", "input trace contains no retained Delta Funnel operation"⟩
  failIf (metadata.auditErrorCount ≠ 0)
    (aggregateFailure "audit_failed" "Trace Processor aggregate audit failed")
  failIf ([metadata.crossingWorkerSliceCount, metadata.crossingPlanningActivitySliceCount,
      metadata.crossingExecutionActivitySliceCount,
      metadata.invalidPlanningActivityHierarchyCount,
      metadata.invalidExecutionActivityHierarchyCount].any (· > 0) = true)
    (aggregateFailure "invalid_hierarchy" "ranked profile semantic hierarchy is invalid")

def buildDocument (order : IterationOrder ReportMap) (metadata : CompactMetadata)
    (semantics : List RankedSemantic) (frames : List CompactFrame)
    (functionSelf : List CompactFunctionSelf) : Aggregation RankedProfileDocument := do
  requireUsableMetadata metadata semantics
  let document : RankedProfileDocument :=
    ⟨metadata.toRankedProfileMetadata, sortSemantics semantics, []⟩
  validOr document.validateStructure
    (aggregateFailure "invalid_structure" "semantic hierarchy is invalid")
  let semantics ← foldSemantics order document.semantics
  let frames ← validateFrames order frames
  let functions ← expandFunctions order frames functionSelf
  let document := { document with semantics, functions := sortFunctions functions }
  validOr document.validateStructure
    (aggregateFailure "invalid_structure" "function hierarchy is invalid")
  let functions ← foldFunctions order document.functions
  reconcileOfficialSelfCounts order frames functions
  let document := { document with functions }.normalizeSourceMetadata
  validOr (document.validate order)
    (aggregateFailure "invalid_aggregate" "ranked profile aggregate validation failed")
  return document

/-- `"record_hex"`, quotes included. -/
def recordHeader : List UInt8 := [34, 114, 101, 99, 111, 114, 100, 95, 104, 101, 120, 34]

def maxRecordHexChars : ℕ := 64 * 1024

/-- `split(|byte| *byte == b'\n')`. -/
def splitLines : List UInt8 → List (List UInt8)
  | [] => [[]]
  | byte :: rest =>
    if byte = 10 then [] :: splitLines rest
    else
      match splitLines rest with
      | line :: lines => (byte :: line) :: lines
      | [] => [[byte]]

def stripCarriageReturn (line : List UInt8) : List UInt8 :=
  if line.getLast? = some 13 then line.dropLast else line

def outputLines (output : List UInt8) : List (List UInt8) :=
  ((splitLines output).map stripCarriageReturn).filter (!·.isEmpty)

def hexDigitValue (value : UInt8) : Option UInt8 :=
  if 48 ≤ value ∧ value ≤ 57 then some (value - 48)
  else if 97 ≤ value ∧ value ≤ 102 then some (value - 97 + 10)
  else if 65 ≤ value ∧ value ≤ 70 then some (value - 65 + 10)
  else none

def decodeHexPairs : List UInt8 → Aggregation (List UInt8)
  | high :: low :: rest => do
    let high ← okOr (hexDigitValue high) malformedResult
    let low ← okOr (hexDigitValue low) malformedResult
    let decoded ← decodeHexPairs rest
    return ((high <<< 4) ||| low) :: decoded
  | _ => .ok []

def decodeHex (value : List UInt8) : Aggregation (List UInt8) := do
  failIf (value.length % 2 ≠ 0) malformedResult
  decodeHexPairs value

def unquote : List UInt8 → Option (List UInt8)
  | 34 :: rest => if rest.getLast? = some 34 then some rest.dropLast else none
  | _ => none

/-- One line, with `decode` for the deserialization of a record. -/
def readRecord (decode : List UInt8 → Option CompactRecord) (line : List UInt8) :
    Aggregation CompactRecord := do
  let hex ← okOr (unquote line) malformedResult
  failIf (hex.length > maxRecordHexChars) resultTooLarge
  let bytes ← decodeHex hex
  okOr (decode bytes) malformedResult

structure CollectedRecords where
  metadata : Option CompactMetadata
  semantics : List RankedSemantic
  frames : List CompactFrame
  functionSelf : List CompactFunctionSelf

def pushBounded {α : Type} (records : List α) (record : α) : Aggregation (List α) := do
  failIf (records.length = maxRecordsPerCollection) resultTooLarge
  return records ++ [record]

def addRecord (collected : CollectedRecords) : CompactRecord → Aggregation CollectedRecords
  | .metadata record =>
    if collected.metadata.isSome then .error malformedResult
    else .ok { collected with metadata := some record }
  | .semantic record => do
    let semantics ← pushBounded collected.semantics record
    return { collected with semantics }
  | .frame record => do
    let frames ← pushBounded collected.frames record
    return { collected with frames }
  | .functionSelf record => do
    let functionSelf ← pushBounded collected.functionSelf record
    return { collected with functionSelf }

def addLine (decode : List UInt8 → Option CompactRecord) (collected : CollectedRecords)
    (line : List UInt8) : Aggregation CollectedRecords := do
  let record ← readRecord decode line
  addRecord collected record

def parseRankedReportOutput (order : IterationOrder ReportMap)
    (decode : List UInt8 → Option CompactRecord) (output : List UInt8) :
    Aggregation RankedProfileDocument := do
  let lines := outputLines output
  failIf (lines.head? ≠ some recordHeader) malformedResult
  let collected ← lines.tail.foldlM (addLine decode) ⟨none, [], [], []⟩
  let metadata ← okOr collected.metadata malformedResult
  buildDocument order metadata collected.semantics collected.frames collected.functionSelf

example : outputLines [97, 13, 10, 13, 10, 10, 98] = [[97], [98]] := by decide

end DeltaFunnel
