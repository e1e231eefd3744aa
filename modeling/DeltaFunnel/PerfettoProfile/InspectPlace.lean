import DeltaFunnel.PerfettoProfile.InspectCommands
import DeltaFunnel.PerfettoProfile.TerminalPrefixes

/-! An inspection never loses its place: whatever commands are given, the selection exists. -/

namespace DeltaFunnel
open Collections Graph

namespace TerminalProfileIndex

def Holds (index : TerminalProfileIndex) : InspectSelection → Prop
  | .root => True
  | .semantic semanticId => (index.semantics.get? semanticId).isSome = true
  | .function semanticId functionId => (index.functions.get? (semanticId, functionId)).isSome = true

section Moves
variable {document : RankedProfileDocument} {compact : CompactFunctionTree}
  {fullSymbols allFrames : Bool} {index : TerminalProfileIndex}

theorem holds_semantic (h : Indexes document compact fullSymbols allFrames index) {id : ℤ} :
    index.Holds (.semantic id) ↔ id ∈ document.semanticNodes := by
  rw [RankedProfileDocument.mem_semanticNodes]
  dsimp only [Holds]
  rw [Option.isSome_iff_exists]
  constructor
  · intro hsome
    obtain ⟨semantic, hget⟩ := hsome
    obtain ⟨hmem, hid⟩ := (h.semantics id semantic).1 hget
    exact ⟨semantic, hmem, hid⟩
  · intro hmem
    obtain ⟨semantic, hmem, hid⟩ := hmem
    exact ⟨semantic, (h.semantics id semantic).2 ⟨hmem, hid⟩⟩

theorem holds_function (h : Indexes document compact fullSymbols allFrames index)
    {semanticId functionId : ℤ} :
    index.Holds (.function semanticId functionId) ↔ (semanticId, functionId) ∈ index.viewNodes := by
  rw [mem_viewNodes h]
  dsimp only [Holds]
  rw [Option.isSome_iff_exists]
  constructor
  · intro hsome
    obtain ⟨function, hget⟩ := hsome
    obtain ⟨hmem, hparent, hid⟩ := (h.functions _ function).1 hget
    exact ⟨function, hmem, hparent, hid⟩
  · intro hmem
    obtain ⟨function, hmem, hparent, hid⟩ := hmem
    exact ⟨function, (h.functions _ function).2 ⟨hmem, hparent, hid⟩⟩

theorem up_holds (hstruct : document.WellStructured) (hcosts : compact.LosesNoCost document)
    (h : Indexes document compact fullSymbols allFrames index) {selection above : InspectSelection}
    (hup : index.up selection = .ok above) : index.Holds above := by
  cases selection with
  | root =>
    unfold up at hup
    cases hup
  | semantic id =>
    dsimp only [up] at hup
    cases hget : index.semantics.get? id with
    | none =>
      rw [hget] at hup
      cases hup
    | some semantic =>
      rw [hget] at hup
      obtain rfl := Except.ok.inj hup
      obtain ⟨hmem, rfl⟩ := (h.semantics id semantic).1 hget
      have hparent := RankedProfileDocument.semanticParent_eq hstruct.semantic_ids hmem
      cases hid : semantic.parentSemanticId with
      | none => trivial
      | some parentId =>
        rw [hid] at hparent
        have hnode := RankedProfileDocument.mem_semanticNodes.2 ⟨semantic, hmem, rfl⟩
        exact (holds_semantic h).2 (hstruct.semantic_forest.closed _ hnode _ hparent)
  | function semanticId functionId =>
    dsimp only [up] at hup
    cases hget : index.functionParents.get? (semanticId, functionId) with
    | none =>
      rw [hget] at hup
      cases hup
    | some parentFunctionId =>
      rw [hget] at hup
      obtain rfl := Except.ok.inj hup
      obtain ⟨function, hmem, hparent, hid⟩ := (h.functionParents _ _).1 hget
      have hnode : (semanticId, functionId) ∈ index.viewNodes :=
        (mem_viewNodes h).2 ⟨function, hmem, by rw [hparent]; rfl, hid⟩
      cases parentFunctionId with
      | none =>
        -- a function without a parent in the view belongs to a semantic that exists
        have howner := hstruct.function_owner function hmem
        have hsame : function.semanticId = semanticId := congrArg Prod.fst hid
        rw [hsame] at howner
        exact (holds_semantic h).2 howner
      | some parentId =>
        have habove : index.functionParent semanticId functionId = some parentId := by
          unfold functionParent
          rw [hget]
          rfl
        exact (holds_function h).2 ((viewForest hstruct hcosts h).closed _ hnode _
          (functionParent_eq_some.1 habove))

theorem openSemantic_spec {selection opened : InspectSelection} {semanticId : ℤ}
    (hopen : index.openSemantic selection semanticId = .ok opened) :
    index.Holds opened ∧ opened.isFunction = false ∧ index.up opened = .ok selection := by
  unfold openSemantic at hopen
  have hfound : ∀ parent : Option ℤ,
      (index.semantics.get? semanticId).map (·.parentSemanticId) = some parent →
      ∃ semantic, index.semantics.get? semanticId = some semantic ∧
        semantic.parentSemanticId = parent := fun parent hparent => Option.map_eq_some_iff.1 hparent
  cases selection with
  | root =>
    dsimp only at hopen
    split_ifs at hopen with hparent
    obtain rfl := Except.ok.inj hopen
    obtain ⟨semantic, hget, hnone⟩ := hfound none (not_not.1 hparent)
    refine ⟨by dsimp only [Holds]; rw [hget]; rfl, rfl, ?_⟩
    dsimp only [up]
    rw [hget]
    dsimp only
    rw [hnone]
  | semantic parentId =>
    dsimp only at hopen
    split_ifs at hopen with hparent
    obtain rfl := Except.ok.inj hopen
    obtain ⟨semantic, hget, hsome⟩ := hfound (some parentId) (not_not.1 hparent)
    refine ⟨by dsimp only [Holds]; rw [hget]; rfl, rfl, ?_⟩
    dsimp only [up]
    rw [hget]
    dsimp only
    rw [hsome]
  | function owner parentId =>
    dsimp only at hopen
    cases hopen

theorem openFunction_spec (h : Indexes document compact fullSymbols allFrames index)
    {selection opened : InspectSelection} {semanticId functionId : ℤ}
    (hopen : index.openFunction selection semanticId functionId = .ok opened) :
    index.Holds opened ∧ opened.isFunction = true ∧ index.up opened = .ok selection := by
  -- a function with an entry among the parents is a node of the view
  have hview : ∀ parent : Option ℤ,
      index.functionParents.get? (semanticId, functionId) = some parent →
      index.Holds (.function semanticId functionId) := by
    intro parent hparent
    obtain ⟨function, hmem, hframed, hid⟩ := (h.functionParents _ _).1 hparent
    exact (holds_function h).2 ((mem_viewNodes h).2 ⟨function, hmem, by rw [hframed]; rfl, hid⟩)
  unfold openFunction at hopen
  cases selection with
  | root =>
    dsimp only at hopen
    cases hopen
  | semantic owner =>
    dsimp only at hopen
    by_cases howner : owner = semanticId
    · subst howner
      rw [if_pos rfl] at hopen
      dsimp only at hopen
      split_ifs at hopen with hparent
      obtain rfl := Except.ok.inj hopen
      have hget := not_not.1 hparent
      refine ⟨hview none hget, rfl, ?_⟩
      dsimp only [up]
      rw [hget]
    · rw [if_neg howner] at hopen
      cases hopen
  | function owner parentId =>
    dsimp only at hopen
    by_cases howner : owner = semanticId
    · subst howner
      rw [if_pos rfl] at hopen
      dsimp only at hopen
      split_ifs at hopen with hparent
      obtain rfl := Except.ok.inj hopen
      have hget := not_not.1 hparent
      refine ⟨hview (some parentId) hget, rfl, ?_⟩
      dsimp only [up]
      rw [hget]
    · rw [if_neg howner] at hopen
      cases hopen

theorem isFunction_of_up {selection above : InspectSelection}
    (hup : index.up selection = .ok above) (habove : above.isFunction = true) :
    selection.isFunction = true := by
  cases selection with
  | root =>
    dsimp only [up] at hup
    cases hup
  | semantic id =>
    dsimp only [up] at hup
    cases hget : index.semantics.get? id with
    | none =>
      rw [hget] at hup
      cases hup
    | some semantic =>
      rw [hget] at hup
      obtain rfl := Except.ok.inj hup
      cases hparent : semantic.parentSemanticId with
      | none =>
        rw [hparent] at habove
        cases habove
      | some parentId =>
        rw [hparent] at habove
        cases habove
  | function semanticId functionId => rfl

/-- A selection that exists is rendered, given enough fuel. -/
theorem render_of_holds (hstruct : document.WellStructured)
    (hcosts : compact.LosesNoCost document)
    (h : Indexes document compact fullSymbols allFrames index) {selection : InspectSelection}
    (hholds : index.Holds selection) (sort : InspectSort) (filter : Option String)
    (limit maxDepth : ℕ) :
    ∃ enough, ∀ fuel ≥ enough, ∃ text,
      index.render fuel selection sort filter limit maxDepth = some (.ok text) := by
  have hsemantic : ∀ selected : Option ℤ, (∀ id ∈ selected, id ∈ document.semanticNodes) →
      ∃ enough, ∀ fuel ≥ enough, ∃ text,
        index.renderSemanticView fuel selected sort filter limit maxDepth = some (.ok text) := by
    intro selected hselected
    obtain ⟨enough, henough⟩ :=
      semanticView_spec hstruct h hselected sort filter limit maxDepth
    refine ⟨enough, fun fuel hfuel => ?_⟩
    obtain ⟨view, hview, -⟩ := henough fuel hfuel
    unfold renderSemanticView
    rw [hview]
    exact ⟨_, rfl⟩
  cases selection with
  | root => exact hsemantic none fun id hid => by cases hid
  | semantic id =>
    refine hsemantic (some id) fun other hother => ?_
    rw [← Option.some.inj hother]
    exact (holds_semantic h).1 hholds
  | function semanticId functionId =>
    obtain ⟨enough, henough⟩ := functionView_spec hstruct hcosts h ((holds_function h).1 hholds)
      sort filter limit maxDepth
    refine ⟨enough, fun fuel hfuel => ?_⟩
    obtain ⟨view, hview, -⟩ := henough fuel hfuel
    show ∃ text, index.renderFunctionView fuel semanticId functionId sort filter limit maxDepth =
      some (.ok text)
    unfold renderFunctionView
    rw [hview]
    exact ⟨_, rfl⟩

/-- Whatever the fuel: what is rendered at all is an error exactly when the selection is not in the
index. -/
theorem holds_iff_of_render {fuel : ℕ} {selection : InspectSelection} {sort : InspectSort}
    {filter : Option String} {limit maxDepth : ℕ} {result : Except TerminalInspectError String}
    (hrender : index.render fuel selection sort filter limit maxDepth = some result) :
    index.Holds selection ↔ ∃ text, result = .ok text := by
  -- listing the rows may run out of fuel, but only the lookup of the selection fails
  have hsemantic : ∀ selected : Option ℤ,
      index.renderSemanticView fuel selected sort filter limit maxDepth = some result →
      ((∃ semantic, index.selectedSemantic selected = .ok semantic) ↔
        ∃ text, result = .ok text) := by
    intro selected hview
    unfold renderSemanticView at hview
    obtain ⟨view, hlisted, rfl⟩ := Option.map_eq_some_iff.1 hview
    clear hview hrender
    unfold semanticView at hlisted
    cases hselected : index.selectedSemantic selected with
    | error error =>
      rw [hselected] at hlisted
      obtain rfl := Option.some.inj hlisted
      apply iff_of_false
      · intro hok
        obtain ⟨semantic, hok⟩ := hok
        cases hok
      · intro hok
        obtain ⟨text, hok⟩ := hok
        cases hok
    | ok semantic =>
      rw [hselected] at hlisted
      dsimp only at hlisted
      obtain ⟨included, -, hlisted⟩ := Option.bind_eq_some_iff.1 hlisted
      obtain ⟨found, -, hlisted⟩ := Option.bind_eq_some_iff.1 hlisted
      obtain rfl := Option.some.inj hlisted
      exact iff_of_true ⟨semantic, rfl⟩ ⟨_, rfl⟩
  cases selection with
  | root => exact (iff_of_true trivial ⟨none, rfl⟩).trans (hsemantic none hrender)
  | semantic id =>
    rw [← hsemantic (some id) hrender]
    dsimp only [Holds, selectedSemantic]
    cases hget : index.semantics.get? id with
    | none =>
      apply iff_of_false
      · exact Bool.false_ne_true
      · intro hok
        obtain ⟨semantic, hok⟩ := hok
        cases hok
    | some semantic => exact iff_of_true rfl ⟨some semantic, rfl⟩
  | function semanticId functionId =>
    change index.renderFunctionView fuel semanticId functionId sort filter limit maxDepth =
      some result at hrender
    unfold renderFunctionView at hrender
    obtain ⟨view, hlisted, rfl⟩ := Option.map_eq_some_iff.1 hrender
    clear hrender hsemantic
    unfold functionView at hlisted
    dsimp only [Holds]
    cases hget : index.functions.get? (semanticId, functionId) with
    | none =>
      rw [hget] at hlisted
      obtain rfl := Option.some.inj hlisted
      apply iff_of_false
      · exact Bool.false_ne_true
      · intro hok
        obtain ⟨text, hok⟩ := hok
        cases hok
    | some function =>
      rw [hget] at hlisted
      dsimp only at hlisted
      obtain ⟨included, -, hlisted⟩ := Option.bind_eq_some_iff.1 hlisted
      obtain ⟨found, -, hlisted⟩ := Option.bind_eq_some_iff.1 hlisted
      obtain rfl := Option.some.inj hlisted
      exact iff_of_true rfl ⟨_, rfl⟩

end Moves

end TerminalProfileIndex

namespace ReportCli

structure InspectState.Valid (index : TerminalProfileIndex) (state : InspectState) : Prop where
  selection : index.Holds state.selection
  sort : state.selection.isFunction = true → state.sort ≠ .duration
  limit : 1 ≤ state.limit ∧ state.limit ≤ maxInspectLimit
  filter : ∀ text, state.filter = some text →
    1 ≤ text.toList.length ∧ text.toList.length ≤ maxFilterChars

theorem initialState_valid {index : TerminalProfileIndex} {args : InspectArgs}
    {start : InspectState} (hstart : args.initialState = .ok start)
    (hholds : index.Holds start.selection) : start.Valid index := by
  unfold InspectArgs.initialState at hstart
  split_ifs at hstart with hsort
  obtain rfl := Except.ok.inj hstart
  refine ⟨hholds, ?_, args.limit_range, ?_⟩
  · intro hfunction hduration
    exact hsort ⟨hfunction, hduration⟩
  · intro text htext
    obtain ⟨filter, -, rfl⟩ := Option.map_eq_some_iff.1 htext
    exact filter.bounds

section Changes
variable {document : RankedProfileDocument} {compact : CompactFunctionTree}
  {fullSymbols allFrames : Bool} {index : TerminalProfileIndex} {state next : InspectState}
  {command : List Char}

theorem filterCommand_valid (h : state.Valid index) (hnext : filterCommand state command = .ok next) :
    next.Valid index := by
  unfold filterCommand at hnext
  cases hvalue : argument "filter".toList command with
  | none =>
    rw [hvalue] at hnext
    cases hnext
  | some value =>
    rw [hvalue] at hnext
    dsimp only at hnext
    cases hfilter : parseFilterText value with
    | error message =>
      rw [hfilter] at hnext
      cases hnext
    | ok filter =>
      rw [hfilter] at hnext
      obtain rfl := Except.ok.inj hnext
      refine ⟨h.selection, h.sort, h.limit, fun text htext => ?_⟩
      rw [← Option.some.inj htext]
      exact filter.bounds

theorem sortCommand_valid (h : state.Valid index) (hnext : sortCommand state command = .ok next) :
    next.Valid index := by
  unfold sortCommand at hnext
  cases hvalue : argument "sort".toList command with
  | none =>
    rw [hvalue] at hnext
    cases hnext
  | some value =>
    rw [hvalue] at hnext
    dsimp only at hnext
    cases hsort : parseSortName value with
    | none =>
      rw [hsort] at hnext
      cases hnext
    | some sort =>
      rw [hsort] at hnext
      dsimp only at hnext
      split_ifs at hnext with hduration
      obtain rfl := Except.ok.inj hnext
      exact ⟨h.selection, fun hfunction heq => hduration ⟨heq, hfunction⟩, h.limit, h.filter⟩

theorem limitCommand_valid (h : state.Valid index) (hnext : limitCommand state command = .ok next) :
    next.Valid index := by
  unfold limitCommand at hnext
  cases hvalue : argument "limit".toList command with
  | none =>
    rw [hvalue] at hnext
    cases hnext
  | some value =>
    rw [hvalue] at hnext
    dsimp only at hnext
    cases hlimit : (parseU16 value).filter fun limit => 1 ≤ limit ∧ limit ≤ maxInspectLimit with
    | none =>
      rw [hlimit] at hnext
      cases hnext
    | some limit =>
      rw [hlimit] at hnext
      obtain rfl := Except.ok.inj hnext
      have hrange := (Option.filter_eq_some_iff.1 hlimit).2
      exact ⟨h.selection, h.sort, of_decide_eq_true hrange, h.filter⟩

theorem openCommand_spec (hindex : index.Indexes document compact fullSymbols allFrames)
    (h : state.Valid index) (hnext : openCommand index state command = .ok next) :
    next.Valid index ∧ index.up next.selection = .ok state.selection := by
  unfold openCommand at hnext
  cases htarget : argument "open".toList command with
  | none =>
    rw [htarget] at hnext
    cases hnext
  | some target =>
    rw [htarget] at hnext
    dsimp only at hnext
    cases hsemantic : stripStart "semantic:".toList target with
    | some text =>
      rw [hsemantic] at hnext
      dsimp only at hnext
      cases hid : parseI64 text with
      | none =>
        rw [hid] at hnext
        cases hnext
      | some semanticId =>
        rw [hid] at hnext
        obtain ⟨selection, hopen, hnext⟩ := except_bind_eq_ok.1 hnext
        obtain rfl := Except.ok.inj hnext
        obtain ⟨hholds, hkind, hup⟩ := TerminalProfileIndex.openSemantic_spec hopen
        refine ⟨⟨hholds, fun hfunction => ?_, h.limit, h.filter⟩, hup⟩
        exact absurd hfunction (by rw [hkind]; exact Bool.false_ne_true)
    | none =>
      rw [hsemantic] at hnext
      dsimp only at hnext
      cases hfunction : stripStart "function:".toList target with
      | none =>
        rw [hfunction] at hnext
        cases hnext
      | some text =>
        rw [hfunction] at hnext
        dsimp only at hnext
        cases hselector : parseFunctionSelector text with
        | error message =>
          rw [hselector] at hnext
          cases hnext
        | ok selector =>
          rw [hselector] at hnext
          obtain ⟨selection, hopen, hnext⟩ := except_bind_eq_ok.1 hnext
          obtain rfl := Except.ok.inj hnext
          obtain ⟨hholds, -, hup⟩ := TerminalProfileIndex.openFunction_spec hindex hopen
          refine ⟨⟨hholds, fun _ => ?_, h.limit, h.filter⟩, hup⟩
          dsimp only
          split_ifs with hduration
          · exact fun hsort => by cases hsort
          · exact hduration

theorem changedState_valid (hstruct : document.WellStructured)
    (hcosts : compact.LosesNoCost document)
    (hindex : index.Indexes document compact fullSymbols allFrames) (h : state.Valid index)
    (hnext : changedState index state command = .ok next) : next.Valid index := by
  unfold changedState at hnext
  split_ifs at hnext with hshow hup hroot hclear hfilter hsort hlimit
  · rw [← Except.ok.inj hnext]
    exact h
  · obtain ⟨selection, habove, hnext⟩ := except_bind_eq_ok.1 hnext
    obtain rfl := Except.ok.inj hnext
    refine ⟨TerminalProfileIndex.up_holds hstruct hcosts hindex habove, fun hfunction => ?_,
      h.limit, h.filter⟩
    -- only a function has a function above it
    have hbelow := TerminalProfileIndex.isFunction_of_up habove hfunction
    exact h.sort hbelow
  · rw [← Except.ok.inj hnext]
    exact ⟨trivial, fun hfunction => absurd hfunction Bool.false_ne_true, h.limit, h.filter⟩
  · rw [← Except.ok.inj hnext]
    exact ⟨h.selection, h.sort, h.limit, fun text htext => by cases htext⟩
  · exact filterCommand_valid h hnext
  · exact sortCommand_valid h hnext
  · exact limitCommand_valid h hnext
  · exact (openCommand_spec hindex h hnext).1

theorem changedState_open {rest : List Char} (hcommand : command = "open ".toList ++ rest) :
    changedState index state command = openCommand index state command := by
  subst hcommand
  unfold changedState isCommand
  simp

end Changes

section Replies
variable {index : TerminalProfileIndex} {state next : InspectState}

theorem runInteractiveCommand_cases (index : TerminalProfileIndex) (state : InspectState)
    (command : String) :
    (∃ next, changedState index state command.toList = .ok next ∧ ∀ fuel,
      runInteractiveCommand fuel index state command =
        (renderInteractiveSelection fuel index next).map (·, next)) ∨
    (∃ message, ∀ fuel,
      runInteractiveCommand fuel index state command = some (.error message, state)) ∨
    (command.toList = "help".toList ∨ command.toList = "quit".toList) ∧ ∃ result, ∀ fuel,
      runInteractiveCommand fuel index state command = some (.ok result, state) := by
  unfold runInteractiveCommand
  by_cases hhelp : command.toList = "help".toList
  · simp only [if_pos hhelp]
    exact .inr (.inr ⟨.inl hhelp, .output helpText, fun _ => rfl⟩)
  · simp only [if_neg hhelp]
    by_cases hquit : command.toList = "quit".toList
    · simp only [if_pos hquit]
      exact .inr (.inr ⟨.inr hquit, .quit, fun _ => rfl⟩)
    · simp only [if_neg hquit]
      cases hchanged : changedState index state command.toList with
      | error message => exact .inr (.inl ⟨message, fun _ => rfl⟩)
      | ok next => exact .inl ⟨next, rfl, fun _ => rfl⟩

theorem renderInteractiveSelection_ok {fuel : ℕ}
    {reply : Except String InteractiveCommandResult} (h : next.Valid index)
    (hrender : renderInteractiveSelection fuel index next = some reply) :
    ∃ text, reply = .ok (.output text) := by
  unfold renderInteractiveSelection at hrender
  obtain ⟨rendered, hrendered, rfl⟩ := Option.map_eq_some_iff.1 hrender
  obtain ⟨text, rfl⟩ := (TerminalProfileIndex.holds_iff_of_render hrendered).1 h.selection
  exact ⟨text, rfl⟩

end Replies

section Place
variable {document : RankedProfileDocument} {compact : CompactFunctionTree}
  {fullSymbols allFrames : Bool} {index : TerminalProfileIndex} {state next : InspectState}

theorem renderInteractiveSelection_total (hstruct : document.WellStructured)
    (hcosts : compact.LosesNoCost document)
    (hindex : index.Indexes document compact fullSymbols allFrames) (h : next.Valid index) :
    ∃ enough, ∀ fuel ≥ enough, ∃ text,
      renderInteractiveSelection fuel index next = some (.ok (.output text)) := by
  obtain ⟨enough, henough⟩ := TerminalProfileIndex.render_of_holds hstruct hcosts hindex
    h.selection next.sort next.filter next.limit
    (next.depth.getD (if next.selection ≠ .root then 1 else 0))
  refine ⟨enough, fun fuel hfuel => ?_⟩
  obtain ⟨text, htext⟩ := henough fuel hfuel
  refine ⟨text, ?_⟩
  unfold renderInteractiveSelection InspectState.render
  rw [htext]
  rfl

/-- Given enough fuel a command is answered, and leaves a valid state. -/
theorem runInteractiveCommand_total (hstruct : document.WellStructured)
    (hcosts : compact.LosesNoCost document)
    (hindex : index.Indexes document compact fullSymbols allFrames) (h : state.Valid index)
    (command : String) :
    ∃ next, next.Valid index ∧ ∃ enough, ∀ fuel ≥ enough, ∃ reply,
      runInteractiveCommand fuel index state command = some (reply, next) := by
  obtain ⟨next, hnext, hrun⟩ | ⟨message, hrun⟩ | ⟨-, result, hrun⟩ :=
    runInteractiveCommand_cases index state command
  · have hvalid := changedState_valid hstruct hcosts hindex h hnext
    obtain ⟨enough, henough⟩ := renderInteractiveSelection_total hstruct hcosts hindex hvalid
    refine ⟨next, hvalid, enough, fun fuel hfuel => ?_⟩
    obtain ⟨text, htext⟩ := henough fuel hfuel
    refine ⟨.ok (.output text), ?_⟩
    rw [hrun, htext]
    rfl
  · exact ⟨state, h, 0, fun fuel _ => ⟨.error message, hrun fuel⟩⟩
  · exact ⟨state, h, 0, fun fuel _ => ⟨.ok result, hrun fuel⟩⟩

theorem runInteractiveCommands_total (hstruct : document.WellStructured)
    (hcosts : compact.LosesNoCost document)
    (hindex : index.Indexes document compact fullSymbols allFrames) (h : state.Valid index)
    (commands : List String) :
    ∃ final, final.Valid index ∧ ∃ enough, ∀ fuel ≥ enough,
      runInteractiveCommands fuel index state commands = some final := by
  induction commands generalizing state with
  | nil => exact ⟨state, h, 0, fun _ _ => rfl⟩
  | cons command commands ih =>
    obtain ⟨next, hvalid, first, hfirst⟩ :=
      runInteractiveCommand_total hstruct hcosts hindex h command
    obtain ⟨final, hfinal, later, hlater⟩ := ih hvalid
    refine ⟨final, hfinal, max first later, fun fuel hfuel => ?_⟩
    obtain ⟨reply, hreply⟩ := hfirst fuel ((le_max_left first later).trans hfuel)
    have hrest := hlater fuel ((le_max_right first later).trans hfuel)
    unfold runInteractiveCommands at hrest ⊢
    rw [List.foldlM_cons, hreply]
    exact hrest

theorem runInteractiveCommand_error (hstruct : document.WellStructured)
    (hcosts : compact.LosesNoCost document)
    (hindex : index.Indexes document compact fullSymbols allFrames) (h : state.Valid index)
    {command : String} {fuel : ℕ} {message : String}
    (hrun : runInteractiveCommand fuel index state command = some (.error message, next)) :
    next = state := by
  obtain ⟨changed, hchanged, heq⟩ | ⟨_, heq⟩ | ⟨-, _, heq⟩ :=
    runInteractiveCommand_cases index state command
  · -- rendering a state that is valid does not fail
    rw [heq] at hrun
    obtain ⟨reply, hreply, hpair⟩ := Option.map_eq_some_iff.1 hrun
    obtain ⟨text, rfl⟩ := renderInteractiveSelection_ok
      (changedState_valid hstruct hcosts hindex h hchanged) hreply
    cases hpair
  · rw [heq] at hrun
    cases hrun
    rfl
  · rw [heq] at hrun
    cases hrun

theorem runInteractiveCommand_open_up (hstruct : document.WellStructured)
    (hcosts : compact.LosesNoCost document)
    (hindex : index.Indexes document compact fullSymbols allFrames) (h : state.Valid index)
    {command : String} {rest : List Char} (hopen : command.toList = "open ".toList ++ rest)
    {fuel : ℕ} {result : InteractiveCommandResult}
    (hrun : runInteractiveCommand fuel index state command = some (.ok result, next)) :
    ∃ enough, ∀ fuel ≥ enough, ∃ text, runInteractiveCommand fuel index next "up" =
      some (.ok (.output text), { next with selection := state.selection }) := by
  obtain ⟨changed, hchanged, heq⟩ | ⟨_, heq⟩ | ⟨hname, _⟩ :=
    runInteractiveCommand_cases index state command
  · rw [heq] at hrun
    obtain ⟨reply, -, hpair⟩ := Option.map_eq_some_iff.1 hrun
    obtain rfl : changed = next := congrArg Prod.snd hpair
    rw [hopen, changedState_open rfl] at hchanged
    obtain ⟨hvalid, hup⟩ := openCommand_spec hindex h hchanged
    -- going up from what was opened is the selection it was opened from
    have hback : changedState index changed "up".toList =
        .ok { changed with selection := state.selection } := by
      unfold changedState
      rw [if_neg (by decide), if_pos rfl, hup]
      rfl
    have hrunUp : ∀ fuel, runInteractiveCommand fuel index changed "up" =
        (renderInteractiveSelection fuel index
          { changed with selection := state.selection }).map
            (·, { changed with selection := state.selection }) := by
      intro fuel
      unfold runInteractiveCommand
      rw [if_neg (by decide), if_neg (by decide), hback]
    have hbackValid := changedState_valid hstruct hcosts hindex hvalid hback
    obtain ⟨enough, henough⟩ := renderInteractiveSelection_total hstruct hcosts hindex hbackValid
    refine ⟨enough, fun fuel hfuel => ?_⟩
    obtain ⟨text, htext⟩ := henough fuel hfuel
    refine ⟨text, ?_⟩
    rw [hrunUp, htext]
    rfl
  · rw [heq] at hrun
    cases hrun
  · rw [hopen] at hname
    simp at hname

/-- After any commands the selection exists, the settings are in range, a refused command has
changed nothing, and going up undoes opening. -/
theorem inspection_never_loses_its_place (order : IterationOrder ReportMap)
    (document : RankedProfileDocument) (haccepted : document.validate order = .ok ())
    (args : InspectArgs) (start : InspectState) (hstart : args.initialState = .ok start) :
    ∃ index, TerminalProfileIndex.new document start.fullSymbols start.allFrames = some index ∧
      ((∃ fuel first, start.render fuel index = some (.ok first)) → ∀ commands : List String,
        ∃ state : InspectState, state.Valid index ∧
          (∃ enough, ∀ fuel ≥ enough,
            runInteractiveCommands fuel index start commands = some state) ∧
          (∃ enough, ∀ fuel ≥ enough, ∃ text, runInteractiveCommand fuel index state "show" =
            some (.ok (.output text), state)) ∧
          ∀ command : String,
            (∃ next : InspectState, next.Valid index ∧ ∃ enough, ∀ fuel ≥ enough, ∃ reply,
              runInteractiveCommand fuel index state command = some (reply, next)) ∧
            (∀ fuel message next, runInteractiveCommand fuel index state command =
              some (.error message, next) → next = state) ∧
            ∀ rest, command.toList = "open ".toList ++ rest → ∀ fuel result next,
              runInteractiveCommand fuel index state command = some (.ok result, next) →
              ∃ enough, ∀ fuel ≥ enough, ∃ text, runInteractiveCommand fuel index next "up" =
                some (.ok (.output text), { next with selection := state.selection })) := by
  obtain ⟨compact, index, -, hnew, hstruct, hcosts, hindex⟩ :=
    TerminalProfileIndex.exists_index haccepted start.fullSymbols start.allFrames
  refine ⟨index, hnew, ?_⟩
  intro hfirst commands
  obtain ⟨fuel, first, hfirst⟩ := hfirst
  have hholds := (TerminalProfileIndex.holds_iff_of_render hfirst).2 ⟨first, rfl⟩
  have hvalid := initialState_valid hstart hholds
  obtain ⟨state, hstate, hruns⟩ :=
    runInteractiveCommands_total hstruct hcosts hindex hvalid commands
  refine ⟨state, hstate, hruns, ?_, fun command => ⟨?_, ?_, ?_⟩⟩
  -- the view that is shown is that of a valid state, so enough fuel renders it
  · obtain ⟨enough, henough⟩ := renderInteractiveSelection_total hstruct hcosts hindex hstate
    refine ⟨enough, fun fuel hfuel => ?_⟩
    obtain ⟨text, htext⟩ := henough fuel hfuel
    refine ⟨text, ?_⟩
    have hshow : changedState index state "show".toList = .ok state := if_pos rfl
    unfold runInteractiveCommand
    rw [if_neg (by decide), if_neg (by decide), hshow]
    dsimp only
    rw [htext]
    rfl
  · exact runInteractiveCommand_total hstruct hcosts hindex hstate command
  · intro fuel message next hrun
    exact runInteractiveCommand_error hstruct hcosts hindex hstate hrun
  · intro rest hopen fuel result next hrun
    exact runInteractiveCommand_open_up hstruct hcosts hindex hstate hopen hrun

def planningArgs : InspectArgs where
  limit := 20
  semantic := none
  function := none
  filter := none
  sort := none
  depth := none
  fullSymbols := false
  allFrames := false
  limit_range := by decide
  depth_range := fun d hd => by cases hd
  one_selector := .inl rfl

def planningStart : InspectState := ⟨.root, .duration, none, 20, none, false, false⟩

theorem planning_inspection_never_loses_its_place :
    RankedProfileDocument.planningDocument.validate (.inserted ReportMap) = .ok () ∧
      planningArgs.initialState = .ok planningStart ∧
      ∃ index, TerminalProfileIndex.new RankedProfileDocument.planningDocument false false =
          some index ∧
        (∃ fuel first, planningStart.render fuel index = some (.ok first)) ∧
        ∀ commands : List String, ∃ state : InspectState, state.Valid index ∧
          ∃ enough, ∀ fuel ≥ enough,
            runInteractiveCommands fuel index planningStart commands = some state := by
  have haccepted : RankedProfileDocument.planningDocument.validate (.inserted ReportMap) =
      .ok () := by
    decide
  have hstart : planningArgs.initialState = .ok planningStart := rfl
  obtain ⟨index, hnew, hplace⟩ := inspection_never_loses_its_place (.inserted ReportMap)
    RankedProfileDocument.planningDocument haccepted planningArgs planningStart hstart
  obtain ⟨_, found, -, hfound, hstruct, hcosts, hindex⟩ :=
    TerminalProfileIndex.exists_index haccepted false false
  obtain rfl : index = found := Option.some.inj (hnew.symm.trans hfound)
  obtain ⟨enough, henough⟩ := TerminalProfileIndex.render_of_holds hstruct hcosts hindex
    (show index.Holds .root from trivial) .duration none 20 0
  obtain ⟨first, hfirst⟩ := henough enough (Nat.le_refl _)
  refine ⟨haccepted, hstart, index, hnew, ⟨enough, first, hfirst⟩, ?_⟩
  intro commands
  obtain ⟨state, hvalid, hruns, -⟩ := hplace ⟨enough, first, hfirst⟩ commands
  exact ⟨state, hvalid, hruns⟩

end Place

end ReportCli

end DeltaFunnel
