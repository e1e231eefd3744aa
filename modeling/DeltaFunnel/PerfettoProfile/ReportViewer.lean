import DeltaFunnel.Json.Text
import DeltaFunnel.PerfettoProfile.TerminalForest

/-! The profile inside an HTML report, and how its viewer indexes and sorts it. -/

namespace DeltaFunnel
open Collections

structure HtmlSemantic where
  semantic : RankedSemantic
  displayName : String
  deriving DecidableEq, Repr

structure HtmlFunction where
  function : RankedFunction
  displayName : String
  compactParentFunctionId : Option ℤ
  compactHidden : Bool
  deriving DecidableEq, Repr

structure HtmlProfile where
  metadata : RankedProfileMetadata
  semantics : List HtmlSemantic
  functions : List HtmlFunction

def HtmlSemantic.of (semantic : RankedSemantic) : HtmlSemantic := ⟨semantic, semantic.displayName⟩

def HtmlFunction.of (compact : CompactFunctionTree) (function : RankedFunction) : HtmlFunction :=
  ⟨function, function.displayName, compact.parentFunctionId function, !compact.contains function⟩

/-- `none` when the compact trees are never built. -/
def RankedProfileDocument.htmlProfile (document : RankedProfileDocument) : Option HtmlProfile := do
  let compact ← CompactFunctionTree.new document.functions
  return ⟨document.metadata, document.semantics.map .of, document.functions.map (.of compact)⟩

namespace ReportViewer

inductive SortField where
  | duration
  | inclusive
  | direct
  | name
  deriving DecidableEq, Repr

inductive SortDirection where
  | ascending
  | descending
  deriving DecidableEq, Repr

def SortField.initialDirection : SortField → SortDirection
  | name => .ascending
  | _ => .descending

def compareValue {α : Type} [LT α] [DecidableLT α] (left right : α) : ℤ :=
  if left < right then -1 else if right < left then 1 else 0

/-- `first || second`. -/
def orElse (first second : ℤ) : ℤ := if first = 0 then second else first

def codeUnits (text : String) : List ℕ := text.toList.flatMap Json.utf16

/-- `codePointAt` at the first of the units. -/
def codePointAt : List ℕ → ℕ
  | [] => 0
  | [unit] => unit
  | first :: second :: _ =>
    if 0xd800 ≤ first ∧ first ≤ 0xdbff ∧ 0xdc00 ≤ second ∧ second ≤ 0xdfff then
      (first - 0xd800) * 0x400 + (second - 0xdc00) + 0x10000
    else first

def indexStep (codePoint : ℕ) : ℕ := if codePoint > 0xffff then 2 else 1

/-- The loop over the units that are left from the two indexes on. -/
def compareTextFrom (left right : List ℕ) : ℤ :=
  if left ≠ [] ∧ right ≠ [] then
    let leftCodePoint := codePointAt left
    let rightCodePoint := codePointAt right
    let comparison := compareValue leftCodePoint rightCodePoint
    if comparison ≠ 0 then comparison
    else compareTextFrom (left.drop (indexStep leftCodePoint)) (right.drop (indexStep rightCodePoint))
  else compareValue left.length right.length
termination_by left.length
decreasing_by
  next hleft _ =>
    have hlength := List.length_pos_of_ne_nil hleft.1
    rw [List.length_drop]
    unfold indexStep
    split <;> omega

def compareText (left right : String) : ℤ := compareTextFrom (codeUnits left) (codeUnits right)

/-- The value to sort by; an unknown duration counts as zero, as `null` does. -/
def semanticSortValue (sortField : SortField) (semantic : HtmlSemantic) : ℤ :=
  match sortField with
  | .direct => semantic.semantic.directSampleCount
  | .inclusive => semantic.semantic.inclusiveSampleCount
  | .duration | .name => semantic.semantic.durationNs.getD 0

def functionSortValue (sortField : SortField) (fn : HtmlFunction) : ℤ :=
  match sortField with
  | .direct => fn.function.selfSampleCount
  | .duration | .inclusive | .name => fn.function.inclusiveSampleCount

def compareSemantic (sortField : SortField) (sortDirection : SortDirection)
    (left right : HtmlSemantic) : ℤ :=
  if sortField = .duration ∧
      (left.semantic.durationNs = none ∨ right.semantic.durationNs = none) then
    orElse (compareValue left.semantic.durationNs.isNone right.semantic.durationNs.isNone)
      (compareValue left.semantic.semanticId right.semantic.semanticId)
  else
    let primary :=
      if sortField = .name then compareText left.displayName right.displayName
      else compareValue (semanticSortValue sortField left) (semanticSortValue sortField right)
    orElse (if sortDirection = .ascending then primary else -primary)
      (compareValue left.semantic.semanticId right.semantic.semanticId)

def compareFunction (sortField : SortField) (sortDirection : SortDirection)
    (left right : HtmlFunction) : ℤ :=
  let primary :=
    if sortField = .name then compareText left.displayName right.displayName
    else compareValue (functionSortValue sortField left) (functionSortValue sortField right)
  orElse (if sortDirection = .ascending then primary else -primary)
    (compareValue left.function.functionId right.function.functionId)

/-- `values.slice().sort(compareBy)`. -/
def sortedValues {α : Type} (compareBy : α → α → ℤ) (values : List α) : List α :=
  values.insertionSort fun left right => compareBy left right ≤ 0

def appendIndexed {K V : Type} [DecidableEq K] (index : HashMap K (List V)) (key : K) (value : V) :
    HashMap K (List V) :=
  match index.get? key with
  | some values => index.insert key (values ++ [value])
  | none => index.insert key [value]

def functionParentKey (semanticId functionId : ℤ) : String :=
  toString semanticId ++ ":" ++ toString functionId

def operations (profile : HtmlProfile) : List HtmlSemantic :=
  profile.semantics.filter fun item => item.semantic.parentSemanticId = none

def semanticChildren (profile : HtmlProfile) : HashMap ℤ (List HtmlSemantic) :=
  profile.semantics.foldl (fun children semantic =>
    match semantic.semantic.parentSemanticId with
    | some parentSemanticId => appendIndexed children parentSemanticId semantic
    | none => children) .empty

structure FunctionFrames where
  functionRoots : HashMap ℤ (List HtmlFunction)
  functionChildren : HashMap String (List HtmlFunction)

def FunctionFrames.add (showAllFrames : Bool) (frames : FunctionFrames) (fn : HtmlFunction) :
    FunctionFrames :=
  if !showAllFrames && fn.compactHidden then frames
  else
    match if showAllFrames then fn.function.parentFunctionId else fn.compactParentFunctionId with
    | none =>
      { frames with
        functionRoots := appendIndexed frames.functionRoots fn.function.semanticId fn }
    | some parentFunctionId =>
      { frames with
        functionChildren := appendIndexed frames.functionChildren
          (functionParentKey fn.function.semanticId parentFunctionId) fn }

def indexFunctionFrames (profile : HtmlProfile) (showAllFrames : Bool) : FunctionFrames :=
  profile.functions.foldl (FunctionFrames.add showAllFrames) ⟨.empty, .empty⟩

/-- The siblings under a semantic, or the operations. -/
def semanticSiblings (profile : HtmlProfile) : Option ℤ → List HtmlSemantic
  | none => operations profile
  | some parentId => ((semanticChildren profile).get? parentId).getD []

/-- The functions under a function of a semantic, or the roots of the semantic. -/
def functionSiblings (profile : HtmlProfile) (showAllFrames : Bool) (semanticId : ℤ) :
    Option ℤ → List HtmlFunction
  | none => ((indexFunctionFrames profile showAllFrames).functionRoots.get? semanticId).getD []
  | some parentId =>
    ((indexFunctionFrames profile showAllFrames).functionChildren.get?
      (functionParentKey semanticId parentId)).getD []

end ReportViewer
end DeltaFunnel
