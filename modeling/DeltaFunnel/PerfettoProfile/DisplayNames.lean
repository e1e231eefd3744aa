import DeltaFunnel.PerfettoProfile.RankedReport

/-! The names that reports show for semantics and functions. -/

namespace DeltaFunnel

def qualifiedDisplayName (name qualifier : String) : String :=
  if qualifier.length > maxDisplayStringChars - 3 then
    String.ofList (qualifier.toList.take maxDisplayStringChars)
  else
    let nameChars := maxDisplayStringChars - qualifier.length - 3
    String.ofList (name.toList.take nameChars) ++ " (" ++ qualifier ++ ")"

def RankedSemantic.displayName (semantic : RankedSemantic) : String :=
  let qualifier :=
    if semantic.semanticKind = "operation" then some ("operation " ++ toString semantic.operationId)
    else if semantic.stageName = some "Execute output" then
      semantic.stageOwnerId.map fun ownerId => "output " ++ toString ownerId
    else if semantic.semanticKind ∈ ["query", "query_planning"] then
      semantic.queryOwner.filter (· ≠ "")
    else none
  match qualifier with
  | none => semantic.name
  | some qualifier => qualifiedDisplayName semantic.name qualifier

structure SymbolNesting where
  angles : ℕ
  parentheses : ℕ
  brackets : ℕ
  braces : ℕ

namespace SymbolNesting

def none : SymbolNesting := ⟨0, 0, 0, 0⟩

def isOutsideGroups (nesting : SymbolNesting) : Bool :=
  nesting.parentheses = 0 && nesting.brackets = 0 && nesting.braces = 0

def isTopLevel (nesting : SymbolNesting) : Bool := nesting.angles = 0 && nesting.isOutsideGroups

end SymbolNesting

def isAsciiWhitespace (c : Char) : Bool := c ∈ [' ', '\t', '\n', '\x0c', '\r']

/-- What follows the last `::`, if there is one. -/
def afterPathSeparator : List Char → Option (List Char)
  | [] => none
  | c :: rest =>
    match afterPathSeparator rest with
    | some after => some after
    | none => if c = ':' ∧ rest.head? = some ':' then some rest.tail else none

/-- Whether a `<` between two parts of a symbol belongs to the name of an operator. -/
def isOperatorLessThan (before rest : List Char) : Bool :=
  let segment := (afterPathSeparator before).getD before
  (("operator".toList.isPrefixOf segment) &&
    (segment.drop "operator".length).all (· = '<')) &&
    rest.head?.all fun next => isAsciiWhitespace next || next ∈ ['<', '=', '(']

def isDirectionalArrow (before : List Char) : Bool :=
  before.getLast?.any fun previous => previous = '-' || previous = '='

def SymbolNesting.advance (nesting : SymbolNesting) (before : List Char) (c : Char)
    (rest : List Char) : SymbolNesting :=
  if c = '<' ∧ isOperatorLessThan before rest = false then
    { nesting with angles := nesting.angles + 1 }
  else if c = '>' ∧ isDirectionalArrow before = false then
    { nesting with angles := nesting.angles - 1 }
  else if c = '(' then { nesting with parentheses := nesting.parentheses + 1 }
  else if c = ')' then { nesting with parentheses := nesting.parentheses - 1 }
  else if c = '[' then { nesting with brackets := nesting.brackets + 1 }
  else if c = ']' then { nesting with brackets := nesting.brackets - 1 }
  else if c = '\x7b' then { nesting with braces := nesting.braces + 1 }
  else if c = '\x7d' then { nesting with braces := nesting.braces - 1 }
  else nesting

def splitTopLevelAsFrom (nesting : SymbolNesting) (before : List Char) :
    List Char → Option (List Char)
  | [] => none
  | c :: rest =>
    if nesting.isTopLevel && " as ".toList.isPrefixOf (c :: rest) then some before
    else splitTopLevelAsFrom (nesting.advance before c rest) (before ++ [c]) rest

def splitTopLevelAs (value : List Char) : Option (List Char) :=
  splitTopLevelAsFrom .none [] value

def lastPathSeparatorFrom (nesting : SymbolNesting) (before : List Char)
    (last : Option (List Char × List Char)) : List Char → Option (List Char × List Char)
  | [] => last
  | ':' :: ':' :: rest =>
    if nesting.isTopLevel && rest.head? ≠ some '<' then
      lastPathSeparatorFrom nesting (before ++ [':', ':']) (some (before, rest)) rest
    else lastPathSeparatorFrom nesting (before ++ [':']) last (':' :: rest)
  | c :: rest => lastPathSeparatorFrom (nesting.advance before c rest) (before ++ [c]) last rest

/-- What stands before and after the last `::` that is not nested. -/
def lastTopLevelPathSeparator (value : List Char) : Option (List Char × List Char) :=
  lastPathSeparatorFrom .none [] none value

def isCallOperator (before rest : List Char) : Bool :=
  before = "operator".toList && rest.head? = some ')'

/-- Drops every `::` at the start of a reversed text. -/
def dropPathSeparators : List Char → List Char
  | ':' :: ':' :: rest => dropPathSeparators rest
  | text => text

def trimEnd (text : List Char) : List Char := (text.reverse.dropWhile isWhitespace).reverse

def trimFunctionDetailsFrom (nesting : SymbolNesting) (before : List Char) :
    List Char → List Char
  | [] => before
  | c :: rest =>
    if c = '<' ∧ nesting.isOutsideGroups = true ∧ isOperatorLessThan before rest = false then
      (dropPathSeparators before.reverse).reverse
    else if c = '(' ∧ nesting.isTopLevel = true ∧ isCallOperator before rest = false then
      trimEnd before
    else trimFunctionDetailsFrom (nesting.advance before c rest) (before ++ [c]) rest

def trimFunctionDetails (value : List Char) : List Char :=
  trimFunctionDetailsFrom .none [] value

/-- `trim_start_matches` of a word: every copy of it at the start is dropped. -/
def trimStartMatches (word : List Char) : ℕ → List Char → List Char
  | 0, text => text
  | fuel + 1, text =>
    if word.isPrefixOf text then trimStartMatches word fuel (text.drop word.length) else text

def functionOwner (start : List Char) : List Char :=
  let start := trimChars start
  let owner :=
    if start.head? = some '<' ∧ start.getLast? = some '>' then
      let qualified := start.tail.dropLast
      (splitTopLevelAs qualified).getD qualified
    else start
  let owner := ((lastTopLevelPathSeparator owner).map Prod.snd).getD owner
  let owner := owner.dropWhile fun c => c = '&' || c = '*'
  let owner := trimStartMatches "mut ".toList owner.length owner
  let owner := trimStartMatches "const ".toList owner.length owner
  owner.takeWhile (· ≠ '<')

/-- `rsplit_once`: the last place where the word stands. -/
def splitLast (word : List Char) : List Char → Option (List Char × List Char)
  | [] => if word = [] then some ([], []) else none
  | c :: rest =>
    match splitLast word rest with
    | some parts => some (c :: parts.1, parts.2)
    | none => if word.isPrefixOf (c :: rest) then some ([], (c :: rest).drop word.length) else none

def isClonedSuffix (ending : List Char) : Bool :=
  ending.getLast? = some ')' && ending.dropLast.all isAsciiDigit

def compactFunctionName (symbol : String) : String :=
  let chars :=
    match (splitLast " (.llvm.".toList symbol.toList).filter (isClonedSuffix ·.2) with
    | some parts => parts.1
    | none => symbol.toList
  match lastTopLevelPathSeparator chars with
  | none =>
    let displayName := trimFunctionDetails chars
    String.ofList (if displayName = [] then chars else displayName)
  | some (before, after) =>
    let method := trimFunctionDetails after
    let owner := functionOwner before
    String.ofList (if owner = [] ∨ method = [] then chars else owner ++ [':', ':'] ++ method)

def RankedFunction.displayName (function : RankedFunction) : String :=
  compactFunctionName function.name

example : compactFunctionName "functor::Callable::operator()(int)" = "Callable::operator()" := by
  decide

example : compactFunctionName "<&mut deflate::Encoder<W> as std::io::Write>::flush (.llvm.42)" =
    "Encoder::flush" := by
  decide

end DeltaFunnel
