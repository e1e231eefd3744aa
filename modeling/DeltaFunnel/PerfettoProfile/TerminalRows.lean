import DeltaFunnel.Collections.Sorting
import DeltaFunnel.Graph.BoundedPreorder
import DeltaFunnel.PerfettoProfile.TerminalIndex

/-! The rows of a terminal view: what matches a filter, and what is listed up to a limit. -/

namespace DeltaFunnel
open Collections Graph

/-- `str::parse::<i64>`. -/
def parseI64 (text : List Char) : Option ℤ :=
  let magnitude (digits : List Char) : Option ℕ :=
    if digits ≠ [] ∧ digits.all isAsciiDigit = true then
      some (digits.foldl (fun value c => value * 10 + (c.toNat - '0'.toNat)) 0)
    else none
  let value : Option ℤ :=
    match text with
    | '-' :: digits => (magnitude digits).map fun value => -(value : ℤ)
    | '+' :: digits => (magnitude digits).map fun value => (value : ℤ)
    | digits => (magnitude digits).map fun value => (value : ℤ)
  value.filter inI64

def stripStart (start text : List Char) : Option (List Char) :=
  if start.isPrefixOf text then some (text.drop start.length) else none

/-- `split_once`. -/
def splitOnce (c : Char) (text : List Char) : Option (List Char × List Char) :=
  if c ∈ text then some (text.takeWhile (· ≠ c), (text.dropWhile (· ≠ c)).tail) else none

def compareSemantics (sort : InspectSort) (left right : RankedSemantic) : Ordering :=
  let ordering :=
    match sort with
    | .duration =>
      match left.durationNs, right.durationNs with
      | some left, some right => compare right left
      | some _, none => .lt
      | none, some _ => .gt
      | none, none => .eq
    | .inclusiveCpu => compare right.inclusiveSampleCount left.inclusiveSampleCount
    | .selfCpu => compare right.directSampleCount left.directSampleCount
    | .name => compare left.displayName right.displayName
  ordering.then (compare left.semanticId right.semanticId)

namespace TerminalProfileIndex

def compareFunctions (index : TerminalProfileIndex) (sort : InspectSort)
    (left right : RankedFunction) : Ordering :=
  let ordering :=
    match sort with
    | .duration | .inclusiveCpu => compare right.inclusiveSampleCount left.inclusiveSampleCount
    | .selfCpu => compare right.selfSampleCount left.selfSampleCount
    | .name => compare (index.functionName left) (index.functionName right)
  (ordering.then (compare left.semanticId right.semanticId)).then
    (compare left.functionId right.functionId)

def sortFunctions (index : TerminalProfileIndex) (sort : InspectSort)
    (functions : List RankedFunction) : List RankedFunction :=
  sortUnstableBy (index.compareFunctions sort) functions

end TerminalProfileIndex

def semanticMatches (filter : String) (semantic : RankedSemantic) : Bool :=
  match stripStart "semantic:".toList filter.toList with
  | some id => parseI64 id = some semantic.semanticId
  | none =>
    ([semantic.displayName, semantic.name, semantic.semanticKind] ++ semantic.result.toList).any
      (containsText filter)

def TerminalProfileIndex.functionMatches (index : TerminalProfileIndex) (filter : String)
    (function : RankedFunction) : Bool :=
  match stripStart "function:".toList filter.toList with
  | some identity =>
    match splitOnce ':' identity with
    | none => false
    | some (semanticId, functionId) =>
      parseI64 semanticId = some function.semanticId &&
        parseI64 functionId = some function.functionId
  | none =>
    containsText filter (index.compactName function) ||
      (function.name :: (function.moduleName.toList ++ function.sourceFile.toList)).any
        (containsText filter)

section Walks
variable {α Id : Type} [DecidableEq Id]

/-- The nodes from a match up to the selected node, which is left out; `none` when the climb takes
more than `fuel` steps. -/
def contextPath (parentOf : Id → Option Id) (selected : Option Id) : ℕ → Id → Option (List Id)
  | 0, _ => none
  | fuel + 1, id =>
    if some id = selected then some []
    else
      match parentOf id with
      | none => some [id]
      | some parentId => (contextPath parentOf selected fuel parentId).map (id :: ·)

def addMatch (fuel : ℕ) (idOf : α → Id) (parentOf : Id → Option Id) (selected : Option Id)
    (isMatch : α → Bool) (included : List Id) (row : ℕ × α) : Option (List Id) :=
  if isMatch row.2 then
    (contextPath parentOf selected fuel (idOf row.2)).map (· ++ included)
  else some included

/-- The nodes that match, and the nodes between them and the selected one. -/
def contextualMatches (fuel : ℕ) (idOf : α → Id) (parentOf : Id → Option Id)
    (selected : Option Id) (children : α → List α) (roots : List α) (firstDepth maxDepth : ℕ)
    (isMatch : α → Bool) : Option (List Id) :=
  if firstDepth > maxDepth then some []
  else
    -- the last of the children is popped first
    walk (addMatch fuel idOf parentOf selected isMatch)
      (pushChildren (fun x => (children x).reverse) maxDepth) fuel
      (roots.reverse.map (firstDepth, ·)) []

def addRow (idOf : α → Id) (limit : ℕ) (included : Option (List Id))
    (found : ℕ × List (ℕ × α)) (row : ℕ × α) : ℕ × List (ℕ × α) :=
  if included.all (idOf row.2 ∈ ·) then
    (found.1 + 1, if found.2.length < limit then found.2 ++ [row] else found.2)
  else found

/-- How many included nodes there are, and the first of them with their depths. -/
def collectRows (fuel : ℕ) (idOf : α → Id) (siblings : α → List α) (roots : List α)
    (firstDepth maxDepth limit : ℕ) (included : Option (List Id)) :
    Option (ℕ × List (ℕ × α)) :=
  if firstDepth > maxDepth then some (0, [])
  else
    walk (fun found row => some (addRow idOf limit included found row))
      (pushChildren siblings maxDepth) fuel (roots.map (firstDepth, ·)) (0, [])

end Walks

namespace TerminalProfileIndex

def childSemantics (index : TerminalProfileIndex) (parentSemanticId : Option ℤ) :
    List RankedSemantic := (index.semanticChildren.get? parentSemanticId).getD []

def childFunctions (index : TerminalProfileIndex) (semanticId : ℤ)
    (parentFunctionId : Option ℤ) : List RankedFunction :=
  (index.functionChildren.get? (semanticId, parentFunctionId)).getD []

def semanticParent (index : TerminalProfileIndex) (semanticId : ℤ) : Option ℤ :=
  (index.semantics.get? semanticId).bind (·.parentSemanticId)

def functionParent (index : TerminalProfileIndex) (semanticId functionId : ℤ) : Option ℤ :=
  (index.functionParents.get? (semanticId, functionId)).join

/-- The roots of operations have depth 0, the children of a selected semantic depth 1. -/
def firstDepth (selected : Option ℤ) : ℕ := if selected.isSome then 1 else 0

def contextualSemanticMatches (fuel : ℕ) (index : TerminalProfileIndex) (selected : Option ℤ)
    (maxDepth : ℕ) (filter : String) : Option (List ℤ) :=
  contextualMatches fuel RankedSemantic.semanticId index.semanticParent selected
    (fun semantic => index.childSemantics (some semantic.semanticId))
    (index.childSemantics selected) (firstDepth selected) maxDepth (semanticMatches filter)

def contextualFunctionMatches (fuel : ℕ) (index : TerminalProfileIndex)
    (semanticId selected : ℤ) (maxDepth : ℕ) (filter : String) : Option (List ℤ) :=
  contextualMatches fuel RankedFunction.functionId (index.functionParent semanticId)
    (some selected)
    (fun function => index.childFunctions semanticId (some function.functionId))
    (index.childFunctions semanticId (some selected)) 1 maxDepth (index.functionMatches filter)

def sortedSemantics (index : TerminalProfileIndex) (sort : InspectSort)
    (parentSemanticId : Option ℤ) : List RankedSemantic :=
  sortUnstableBy (compareSemantics sort) (index.childSemantics parentSemanticId)

def sortedFunctions (index : TerminalProfileIndex) (sort : InspectSort) (semanticId : ℤ)
    (parentFunctionId : Option ℤ) : List RankedFunction :=
  index.sortFunctions sort (index.childFunctions semanticId parentFunctionId)

def collectSemanticRows (fuel : ℕ) (index : TerminalProfileIndex)
    (parentSemanticId : Option ℤ) (firstDepth maxDepth limit : ℕ) (sort : InspectSort)
    (included : Option (List ℤ)) : Option (ℕ × List (ℕ × RankedSemantic)) :=
  collectRows fuel RankedSemantic.semanticId
    (fun semantic => index.sortedSemantics sort (some semantic.semanticId))
    (index.sortedSemantics sort parentSemanticId) firstDepth maxDepth limit included

def collectFunctionRows (fuel : ℕ) (index : TerminalProfileIndex) (parent : ℤ × Option ℤ)
    (firstDepth maxDepth limit : ℕ) (sort : InspectSort) (included : Option (List ℤ)) :
    Option (ℕ × List (ℕ × RankedFunction)) :=
  collectRows fuel RankedFunction.functionId
    (fun function => index.sortedFunctions sort parent.1 (some function.functionId))
    (index.sortedFunctions sort parent.1 parent.2) firstDepth maxDepth limit included

structure SemanticView where
  selected : Option RankedSemantic
  semanticTotal : ℕ
  semanticRows : List (ℕ × RankedSemantic)
  functionTotal : ℕ
  functionRows : List RankedFunction

def SemanticView.total (view : SemanticView) : ℕ := view.semanticTotal + view.functionTotal

def SemanticView.shown (view : SemanticView) : ℕ :=
  view.semanticRows.length + view.functionRows.length

def SemanticView.truncated (view : SemanticView) : Bool := view.shown < view.total

structure FunctionView where
  selected : RankedFunction
  total : ℕ
  rows : List (ℕ × RankedFunction)

def FunctionView.truncated (view : FunctionView) : Bool := view.rows.length < view.total

def selectedSemantic (index : TerminalProfileIndex) (selected : Option ℤ) :
    Except TerminalInspectError (Option RankedSemantic) :=
  match selected with
  | none => .ok none
  | some semanticId =>
    match index.semantics.get? semanticId with
    | none => .error (.semanticNotFound semanticId)
    | some semantic => .ok (some semantic)

/-- The function roots of the selected semantic that match, in order. -/
def functionRoots (index : TerminalProfileIndex) (selected : Option RankedSemantic)
    (sort : InspectSort) (filter : Option String) (maxDepth : ℕ) : List RankedFunction :=
  let roots :=
    match selected with
    | none => []
    | some semantic => if maxDepth > 0 then index.childFunctions semantic.semanticId none else []
  index.sortFunctions sort.forFunctions
    (roots.filter fun function => filter.all fun filter => index.functionMatches filter function)

def includedSemantics (fuel : ℕ) (index : TerminalProfileIndex) (selected : Option ℤ)
    (maxDepth : ℕ) (filter : Option String) : Option (Option (List ℤ)) :=
  match filter with
  | none => some none
  | some filter => (index.contextualSemanticMatches fuel selected maxDepth filter).map some

def includedFunctions (fuel : ℕ) (index : TerminalProfileIndex) (semanticId functionId : ℤ)
    (maxDepth : ℕ) (filter : Option String) : Option (Option (List ℤ)) :=
  match filter with
  | none => some none
  | some filter =>
    (index.contextualFunctionMatches fuel semanticId functionId maxDepth filter).map some

/-- `none` when `fuel` does not suffice. -/
def semanticView (fuel : ℕ) (index : TerminalProfileIndex) (selected : Option ℤ)
    (sort : InspectSort) (filter : Option String) (limit maxDepth : ℕ) :
    Option (Except TerminalInspectError SemanticView) :=
  match index.selectedSemantic selected with
  | .error error => some (.error error)
  | .ok selectedSemantic => do
    let included ← index.includedSemantics fuel selected maxDepth filter
    let functionRoots := index.functionRoots selectedSemantic sort filter maxDepth
    let functionTotal := functionRoots.length
    let semanticLimit := limit - if functionTotal > 0 then 1 else 0
    let (semanticTotal, semanticRows) ← index.collectSemanticRows fuel selected
      (firstDepth selected) maxDepth semanticLimit sort included
    let functionRows := functionRoots.take (limit - semanticRows.length)
    return .ok ⟨selectedSemantic, semanticTotal, semanticRows, functionTotal, functionRows⟩

/-- `none` when `fuel` does not suffice. -/
def functionView (fuel : ℕ) (index : TerminalProfileIndex) (semanticId functionId : ℤ)
    (sort : InspectSort) (filter : Option String) (limit maxDepth : ℕ) :
    Option (Except TerminalInspectError FunctionView) :=
  match index.functions.get? (semanticId, functionId) with
  | none => some (.error (.functionNotFound semanticId functionId))
  | some selected => do
    let included ← index.includedFunctions fuel semanticId functionId maxDepth filter
    let (total, rows) ← index.collectFunctionRows fuel (semanticId, some functionId) 1 maxDepth
      limit sort included
    return .ok ⟨selected, total, rows⟩

end TerminalProfileIndex

end DeltaFunnel
