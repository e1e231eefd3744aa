import DeltaFunnel.PerfettoProfile.TerminalText

/-! The state of an inspection and the commands that change it. -/

namespace DeltaFunnel
open Collections

def InspectSelection.isFunction : InspectSelection → Bool
  | .function _ _ => true
  | _ => false

namespace ReportCli

def maxInspectLimit : ℕ := 200
def maxInspectDepth : ℕ := 32
def maxFilterChars : ℕ := 128

/-- `FilterText`: the text of a filter, which is bounded. -/
structure FilterText where
  text : String
  bounds : 1 ≤ text.toList.length ∧ text.toList.length ≤ maxFilterChars

def invalidFilter : String := "filter must contain between 1 and 128 characters"

def parseFilterText (value : List Char) : Except String FilterText :=
  if h : 1 ≤ value.length ∧ value.length ≤ maxFilterChars then
    .ok ⟨String.ofList value, by rwa [String.toList_ofList]⟩
  else .error invalidFilter

structure FunctionSelector where
  semanticId : ℤ
  functionId : ℤ
  deriving DecidableEq, Repr

def parseFunctionSelector (value : List Char) : Except String FunctionSelector :=
  match splitOnce ':' value with
  | none => .error "function identity must contain one colon"
  | some (semanticId, functionId) =>
    match parseI64 semanticId with
    | none => .error "semantic function owner must be a signed integer"
    | some semanticId =>
      match parseI64 functionId with
      | none => .error "function ID must be a signed integer"
      | some functionId => .ok ⟨semanticId, functionId⟩

/-- `str::parse::<u16>`. -/
def parseU16 (text : List Char) : Option ℕ :=
  let digits := match text with
    | '+' :: digits => digits
    | digits => digits
  if digits ≠ [] ∧ digits.all isAsciiDigit = true then
    (some (digits.foldl (fun value c => value * 10 + (c.toNat - '0'.toNat)) 0)).filter (· < 2 ^ 16)
  else none

/-- The arguments of the inspect command as they are parsed: both selectors exclude each other, and
numbers are in range. -/
structure InspectArgs where
  limit : ℕ
  semantic : Option ℤ
  function : Option FunctionSelector
  filter : Option FilterText
  sort : Option InspectSort
  depth : Option ℕ
  fullSymbols : Bool
  allFrames : Bool
  limit_range : 1 ≤ limit ∧ limit ≤ maxInspectLimit
  depth_range : ∀ d ∈ depth, d ≤ maxInspectDepth
  one_selector : semantic = none ∨ function = none

structure InspectState where
  selection : InspectSelection
  sort : InspectSort
  filter : Option String
  limit : ℕ
  depth : Option ℕ
  fullSymbols : Bool
  allFrames : Bool
  deriving DecidableEq, Repr

def incompatibleSort : String := "function callsites cannot be sorted by exact duration"

def InspectArgs.selection (args : InspectArgs) : InspectSelection :=
  match args.function, args.semantic with
  | some function, _ => .function function.semanticId function.functionId
  | none, some semanticId => .semantic semanticId
  | none, none => .root

def InspectArgs.effectiveSort (args : InspectArgs) : InspectSort :=
  args.sort.getD (if args.selection.isFunction then .inclusiveCpu else .duration)

/-- The state that `run_inspect_command` builds. -/
def InspectArgs.initialState (args : InspectArgs) : Except String InspectState :=
  if args.selection.isFunction ∧ args.effectiveSort = .duration then .error incompatibleSort
  else .ok
    { selection := args.selection
      sort := args.effectiveSort
      filter := args.filter.map FilterText.text
      limit := args.limit
      depth := args.depth
      fullSymbols := args.fullSymbols
      allFrames := args.allFrames }

def InspectState.render (fuel : ℕ) (index : TerminalProfileIndex) (state : InspectState) :
    Option (Except TerminalInspectError String) :=
  index.render fuel state.selection state.sort state.filter state.limit
    (state.depth.getD (if state.selection ≠ .root then 1 else 0))

inductive InteractiveCommandResult where
  | output (text : String)
  | quit
  deriving DecidableEq, Repr

def missingSelection : String := "current profile selection does not exist"

def helpText : String :=
  "commands: show, open semantic:ID, open function:SEMANTIC_ID:FUNCTION_ID, up, root, " ++
    "sort METRIC, filter TEXT, clear, limit N, help, quit\n"

def renderInteractiveSelection (fuel : ℕ) (index : TerminalProfileIndex) (state : InspectState) :
    Option (Except String InteractiveCommandResult) :=
  (state.render fuel index).map fun rendered =>
    match rendered with
    | .ok text => .ok (.output text)
    | .error _ => .error missingSelection

/-- `command == name || command.starts_with(name + " ")`. -/
def isCommand (name command : List Char) : Bool :=
  command = name || (name ++ [' ']).isPrefixOf command

def argument (name command : List Char) : Option (List Char) := stripStart (name ++ [' ']) command

def parseSortName (value : List Char) : Option InspectSort :=
  if value = "duration".toList then some .duration
  else if value = "inclusive-cpu".toList then some .inclusiveCpu
  else if value = "self-cpu".toList then some .selfCpu
  else if value = "name".toList then some .name
  else none

section Commands
variable (index : TerminalProfileIndex) (state : InspectState)

def filterCommand (command : List Char) : Except String InspectState :=
  match argument "filter".toList command with
  | none => .error invalidFilter
  | some value =>
    match parseFilterText value with
    | .error _ => .error invalidFilter
    | .ok filter => .ok { state with filter := some filter.text }

def sortCommand (command : List Char) : Except String InspectState :=
  match argument "sort".toList command with
  | none => .error "invalid sort; expected sort METRIC"
  | some value =>
    match parseSortName value with
    | none => .error "invalid sort; expected duration, inclusive-cpu, self-cpu, or name"
    | some sort =>
      if sort = .duration ∧ state.selection.isFunction then .error incompatibleSort
      else .ok { state with sort }

def limitCommand (command : List Char) : Except String InspectState :=
  match argument "limit".toList command with
  | none => .error "invalid limit; expected limit N"
  | some value =>
    match (parseU16 value).filter fun limit => 1 ≤ limit ∧ limit ≤ maxInspectLimit with
    | none => .error "limit must be between 1 and 200"
    | some limit => .ok { state with limit }

def openCommand (command : List Char) : Except String InspectState :=
  match argument "open".toList command with
  | none => .error "unknown interactive command"
  | some target =>
    match stripStart "semantic:".toList target with
    | some semanticId =>
      match parseI64 semanticId with
      | none => .error "invalid semantic identity; expected semantic:ID"
      | some semanticId => do
        let selection ← index.openSemantic state.selection semanticId
        return { state with selection }
    | none =>
      match stripStart "function:".toList target with
      | some function =>
        match parseFunctionSelector function with
        | .error _ => .error "invalid function identity; expected function:SEMANTIC_ID:FUNCTION_ID"
        | .ok function => do
          let selection ← index.openFunction state.selection function.semanticId
            function.functionId
          return { state with
            selection
            sort := if state.sort = .duration then .inclusiveCpu else state.sort }
      | none => .error
        "invalid open target; expected semantic:ID or function:SEMANTIC_ID:FUNCTION_ID"

/-- The state a command asks for, which is rendered next. -/
def changedState (command : List Char) : Except String InspectState :=
  if command = "show".toList then .ok state
  else if command = "up".toList then do
    let selection ← index.up state.selection
    return { state with selection }
  else if command = "root".toList then .ok { state with selection := .root }
  else if command = "clear".toList then .ok { state with filter := none }
  else if isCommand "filter".toList command then filterCommand state command
  else if isCommand "sort".toList command then sortCommand state command
  else if isCommand "limit".toList command then limitCommand state command
  else openCommand index state command

end Commands

/-- The reply to a command and the state after it; `none` when `fuel` does not suffice to render.
The state is assigned before it is rendered. -/
def runInteractiveCommand (fuel : ℕ) (index : TerminalProfileIndex) (state : InspectState)
    (command : String) : Option (Except String InteractiveCommandResult × InspectState) :=
  if command.toList = "help".toList then some (.ok (.output helpText), state)
  else if command.toList = "quit".toList then some (.ok .quit, state)
  else
    match changedState index state command.toList with
    | .error message => some (.error message, state)
    | .ok next => (renderInteractiveSelection fuel index next).map (·, next)

def runInteractiveCommands (fuel : ℕ) (index : TerminalProfileIndex) (state : InspectState)
    (commands : List String) : Option InspectState :=
  commands.foldlM (fun state command => (runInteractiveCommand fuel index state command).map
    Prod.snd) state

end ReportCli
end DeltaFunnel
