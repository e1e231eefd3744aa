import DeltaFunnel.PerfettoProfile.CompactTree
import DeltaFunnel.PerfettoProfile.DisplayNames

/-! The index behind the terminal view of a profile, and moving a selection in it. -/

namespace DeltaFunnel
open Collections

inductive InspectSort where
  | duration
  | inclusiveCpu
  | selfCpu
  | name
  deriving DecidableEq, Repr

namespace InspectSort

def asStr : InspectSort → String
  | duration => "duration"
  | inclusiveCpu => "inclusive-cpu"
  | selfCpu => "self-cpu"
  | name => "name"

def forFunctions : InspectSort → InspectSort
  | duration => inclusiveCpu
  | sort => sort

end InspectSort

inductive InspectSelection where
  | root
  | semantic (semanticId : ℤ)
  | function (semanticId functionId : ℤ)
  deriving DecidableEq, Repr

inductive TerminalInspectError where
  | semanticNotFound (semanticId : ℤ)
  | functionNotFound (semanticId functionId : ℤ)
  deriving DecidableEq, Repr

structure TerminalProfileIndex where
  document : RankedProfileDocument
  semantics : HashMap ℤ RankedSemantic
  semanticChildren : HashMap (Option ℤ) (List RankedSemantic)
  functions : HashMap (ℤ × ℤ) RankedFunction
  functionParents : HashMap (ℤ × ℤ) (Option ℤ)
  functionChildren : HashMap (ℤ × Option ℤ) (List RankedFunction)
  operationDurations : HashMap ℤ (Option ℤ)
  compactNames : HashMap String String
  fullSymbols : Bool
  allFrames : Bool

/-- `entry(key).or_insert_with(Vec::new).push(value)`. -/
def pushChild {K V : Type} [DecidableEq K] (children : HashMap K (List V)) (key : K) (value : V) :
    HashMap K (List V) := children.insert key ((children.get? key).getD [] ++ [value])

namespace TerminalProfileIndex

def empty (document : RankedProfileDocument) (fullSymbols allFrames : Bool) :
    TerminalProfileIndex :=
  ⟨document, .empty, .empty, .empty, .empty, .empty, .empty, .empty, fullSymbols, allFrames⟩

def addSemantic (index : TerminalProfileIndex) (semantic : RankedSemantic) :
    TerminalProfileIndex :=
  { index with
    semantics := index.semantics.insert semantic.semanticId semantic
    semanticChildren := pushChild index.semanticChildren semantic.parentSemanticId semantic
    operationDurations :=
      if semantic.parentSemanticId.isNone then
        index.operationDurations.insert semantic.operationId semantic.durationNs
      else index.operationDurations }

/-- The parent of a function in the frame view, and `none` when the view hides the function. -/
def framedParent (compact : CompactFunctionTree) (allFrames : Bool) (function : RankedFunction) :
    Option (Option ℤ) :=
  if allFrames then some function.parentFunctionId
  else if compact.contains function then some (compact.parentFunctionId function)
  else none

def addName (index : TerminalProfileIndex) (function : RankedFunction) : TerminalProfileIndex :=
  if index.compactNames.contains function.name then index
  else { index with compactNames := index.compactNames.insert function.name function.displayName }

def addFunction (compact : CompactFunctionTree) (index : TerminalProfileIndex)
    (function : RankedFunction) : TerminalProfileIndex :=
  let index := index.addName function
  match framedParent compact index.allFrames function with
  | none => index
  | some parentFunctionId =>
    { index with
      functions := index.functions.insert (function.semanticId, function.functionId) function
      functionParents :=
        index.functionParents.insert (function.semanticId, function.functionId) parentFunctionId
      functionChildren :=
        pushChild index.functionChildren (function.semanticId, parentFunctionId) function }

/-- `none` when the compact trees are never built. -/
def new (document : RankedProfileDocument) (fullSymbols allFrames : Bool) :
    Option TerminalProfileIndex := do
  let index := document.semantics.foldl addSemantic (empty document fullSymbols allFrames)
  let compact ← CompactFunctionTree.new document.functions
  return document.functions.foldl (addFunction compact) index

def compactName (index : TerminalProfileIndex) (function : RankedFunction) : String :=
  (index.compactNames.get? function.name).getD function.name

def functionName (index : TerminalProfileIndex) (function : RankedFunction) : String :=
  if index.fullSymbols then function.name else index.compactName function

def openSemantic (index : TerminalProfileIndex) (selection : InspectSelection) (semanticId : ℤ) :
    Except String InspectSelection :=
  let notChild := "semantic target is not an immediate child"
  let parent : Option (Option ℤ) :=
    match selection with
    | .root => some none
    | .semantic parent => some (some parent)
    | .function _ _ => none
  match parent with
  | none => .error notChild
  | some parent =>
    if (index.semantics.get? semanticId).map (·.parentSemanticId) ≠ some parent then
      .error notChild
    else .ok (.semantic semanticId)

def openFunction (index : TerminalProfileIndex) (selection : InspectSelection)
    (semanticId functionId : ℤ) : Except String InspectSelection :=
  let notChild := "function target is not an immediate child"
  let parent : Option (Option ℤ) :=
    match selection with
    | .root => none
    | .semantic owner => if owner = semanticId then some none else none
    | .function owner parent => if owner = semanticId then some (some parent) else none
  match parent with
  | none => .error notChild
  | some parent =>
    if index.functionParents.get? (semanticId, functionId) ≠ some parent then .error notChild
    else .ok (.function semanticId functionId)

def up (index : TerminalProfileIndex) : InspectSelection → Except String InspectSelection
  | .root => .error "already at operation roots"
  | .semantic semanticId =>
    match index.semantics.get? semanticId with
    | some semantic =>
      .ok (match semantic.parentSemanticId with
        | some parentId => .semantic parentId
        | none => .root)
    | none => .error "current semantic selection does not exist"
  | .function semanticId functionId =>
    match index.functionParents.get? (semanticId, functionId) with
    | some parentFunctionId =>
      .ok (match parentFunctionId with
        | some parentId => .function semanticId parentId
        | none => .semantic semanticId)
    | none => .error "current function selection does not exist"

end TerminalProfileIndex

end DeltaFunnel
