import DeltaFunnel.PerfettoProfile.RankedReport

/-! The call trees without the functions that only pass their cost on. -/

namespace DeltaFunnel
open Collections

structure CompactFunctionTree where
  parents : HashMap (ℤ × ℤ) (Option ℤ)

namespace CompactFunctionTree

/-- The number of children of a function, and the inclusive count of the last of them. -/
def countChild (children : HashMap (ℤ × ℤ) (ℕ × ℤ)) (function : RankedFunction) :
    HashMap (ℤ × ℤ) (ℕ × ℤ) :=
  match function.parentFunctionId with
  | none => children
  | some parentId =>
    let key := (function.semanticId, parentId)
    let child := (children.get? key).getD (0, function.inclusiveSampleCount)
    children.insert key (child.1 + 1, function.inclusiveSampleCount)

def isCollapsed (children : HashMap (ℤ × ℤ) (ℕ × ℤ)) (function : RankedFunction) : Bool :=
  function.selfSampleCount = 0 &&
    (children.get? (function.semanticId, function.functionId)).any fun child =>
      child.1 = 1 && child.2 = function.inclusiveSampleCount

def collapsedKeys (functions : List RankedFunction) : List (ℤ × ℤ) :=
  (functions.filter (isCollapsed (functions.foldl countChild .empty))).map fun function =>
    (function.semanticId, function.functionId)

/-- Climbs the collapsed functions; where it stops, and the keys it passed. Every round passes
another key, so `fuel` stands for the loop; `none` would be a climb that goes on. -/
def climbCollapsed (semanticId : ℤ) (parents : HashMap (ℤ × ℤ) (Option ℤ))
    (collapsed : List (ℤ × ℤ)) (retainedParents : HashMap (ℤ × ℤ) (Option ℤ)) :
    ℕ → Option ℤ → List (ℤ × ℤ) → Option (Option ℤ × List (ℤ × ℤ))
  | _, none, path => some (none, path)
  | 0, some _, _ => none
  | fuel + 1, some parentId, path =>
    let key := (semanticId, parentId)
    if key ∉ collapsed then some (some parentId, path)
    else
      match retainedParents.get? key with
      | some retained => some (retained, path)
      | none =>
        climbCollapsed semanticId parents collapsed retainedParents fuel (parents.get? key).join
          (path ++ [key])

/-- The parent that is left, with the table of the collapsed functions climbed so far. -/
def retainedFunctionParent (semanticId : ℤ) (parent : Option ℤ)
    (parents : HashMap (ℤ × ℤ) (Option ℤ)) (collapsed : List (ℤ × ℤ))
    (retainedParents : HashMap (ℤ × ℤ) (Option ℤ)) :
    Option (Option ℤ × HashMap (ℤ × ℤ) (Option ℤ)) := do
  let (parent, path) ←
    climbCollapsed semanticId parents collapsed retainedParents (parents.len + 1) parent []
  return (parent, path.foldl (fun retained key => retained.insert key parent) retainedParents)

structure Building where
  compactParents : HashMap (ℤ × ℤ) (Option ℤ)
  retainedParents : HashMap (ℤ × ℤ) (Option ℤ)

def addFunction (parents : HashMap (ℤ × ℤ) (Option ℤ)) (collapsed : List (ℤ × ℤ))
    (building : Building) (function : RankedFunction) : Option Building :=
  let key := (function.semanticId, function.functionId)
  if key ∈ collapsed then some building
  else do
    let (parent, retainedParents) ← retainedFunctionParent function.semanticId
      function.parentFunctionId parents collapsed building.retainedParents
    return ⟨building.compactParents.insert key parent, retainedParents⟩

def parentIds (functions : List RankedFunction) : HashMap (ℤ × ℤ) (Option ℤ) :=
  .collect (functions.map fun function =>
    ((function.semanticId, function.functionId), function.parentFunctionId))

/-- `none` when a climb goes on for ever. -/
def new (functions : List RankedFunction) : Option CompactFunctionTree := do
  let building ← functions.foldlM
    (addFunction (parentIds functions) (collapsedKeys functions)) ⟨.empty, .empty⟩
  return ⟨building.compactParents⟩

def contains (tree : CompactFunctionTree) (function : RankedFunction) : Bool :=
  tree.parents.contains (function.semanticId, function.functionId)

def parentFunctionId (tree : CompactFunctionTree) (function : RankedFunction) : Option ℤ :=
  (tree.parents.get? (function.semanticId, function.functionId)).join

end CompactFunctionTree

end DeltaFunnel
