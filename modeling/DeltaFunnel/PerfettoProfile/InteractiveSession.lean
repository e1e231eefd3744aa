import DeltaFunnel.Interaction.Program
import DeltaFunnel.PerfettoProfile.InspectPlace
import DeltaFunnel.PerfettoProfile.InteractiveLines
import DeltaFunnel.PerfettoProfile.ProfileArtifact
import DeltaFunnel.PerfettoProfile.TerminalSafety

/-! An interactive session: lines are read, run as commands, and answered by blocks of lines that
an end marker closes. -/

namespace DeltaFunnel
namespace ReportCli
open Collections Interaction InteractiveInput

def interactiveEndMarker : String := "-- end --\n"

/-- The text of a response with its marker, as it is written before a flush. -/
def responseText (response : String) : String :=
  response ++ (if response.toList ≠ [] ∧ response.toList.getLast? ≠ some '\n' then "\n" else "") ++
    interactiveEndMarker

def errorText (message : String) : String := "error: " ++ message ++ "\n"

def promptText : String := "profile> "

/-- What a session writes and flushes, to its output or to its error stream. -/
inductive SessionWrite where
  | output (text : String)
  | error (text : String)
  deriving DecidableEq, Repr

def sessionSignature : Signature where
  Op := SessionWrite
  Reply := fun _ => Bool

def interactiveInputFailure : RankedReportFailure :=
  ⟨.input, "interactive_read_failed", "interactive command input could not be read"⟩

def terminalOutputFailure : RankedReportFailure :=
  ⟨.output, "terminal_write_failed", "terminal output could not be written"⟩

/-- How a session ends, with the last state. There is no end when `fuel` or the number of passes
does not suffice. -/
abbrev SessionEnd : Type := Option (Except RankedReportFailure InspectState)

/-- `?` after a write. -/
def writing (write : SessionWrite) (next : Program sessionSignature SessionEnd) :
    Program sessionSignature SessionEnd :=
  .call write fun (succeeded : Bool) =>
    if succeeded = true then next else pure (some (.error terminalOutputFailure))

def writeInteractiveResponse (response : String) (next : Program sessionSignature SessionEnd) :
    Program sessionSignature SessionEnd := writing (.output (responseText response)) next

def writeInteractiveError (message : String) (next : Program sessionSignature SessionEnd) :
    Program sessionSignature SessionEnd := writing (.error (errorText message)) next

section Session
variable (fuel : ℕ) (index : TerminalProfileIndex) (prompt : Bool)

def sessionLoop : ℕ → InspectState → BufRead → List UInt8 → Program sessionSignature SessionEnd
  | 0, _, _, _ => pure none
  | passes + 1, state, input, line =>
    let answered : Program sessionSignature SessionEnd :=
      match readInteractiveLine input line with
      | none => pure (some (.error interactiveInputFailure))
      | some (.eof, _, _) => pure (some (.ok state))
      | some (.invalid message, line, input) =>
        writeInteractiveError message
          (writeInteractiveResponse "" (sessionLoop passes state input line))
      | some (.command command, line, input) =>
        match runInteractiveCommand fuel index state (trimText command) with
        | none => pure none
        | some (.ok (.output response), state) =>
          writeInteractiveResponse response (sessionLoop passes state input line)
        | some (.ok .quit, state) => writeInteractiveResponse "" (pure (some (.ok state)))
        | some (.error message, state) =>
          writeInteractiveError message
            (writeInteractiveResponse "" (sessionLoop passes state input line))
    if prompt = true then writing (.output promptText) answered else answered

end Session

/-- `RankedReportFailure::from` for a view that cannot be rendered. -/
def inspectFailure : TerminalInspectError → RankedReportFailure
  | .semanticNotFound semanticId =>
    ⟨.argument, "semantic_not_found", "semantic:" ++ toString semanticId ++ " does not exist"⟩
  | .functionNotFound semanticId functionId =>
    ⟨.argument, "function_not_found",
      "function:" ++ toString semanticId ++ ":" ++ toString functionId ++ " does not exist"⟩

def runInteractiveSession (fuel passes : ℕ) (document : RankedProfileDocument)
    (state : InspectState) (input : BufRead) (prompt : Bool) :
    Program sessionSignature SessionEnd :=
  match TerminalProfileIndex.new document state.fullSymbols state.allFrames with
  | none => pure none
  | some index =>
    match state.render fuel index with
    | none => pure none
    | some (.error error) => pure (some (.error (inspectFailure error)))
    | some (.ok initial) =>
      writeInteractiveResponse initial (sessionLoop fuel index prompt passes state input [])

structure Exchange where
  error : Option String
  response : String
  deriving DecidableEq, Repr

/-- How a session goes over its lines: the answers, the last state, and whether it was quit. -/
structure Conversation where
  exchanges : List Exchange
  final : InspectState
  quit : Bool

def Conversation.cons (exchange : Exchange) (rest : Conversation) : Conversation :=
  { rest with exchanges := exchange :: rest.exchanges }

/-- The lines are answered in turn, until one of them quits. -/
def converse (fuel : ℕ) (index : TerminalProfileIndex) :
    InspectState → List (List UInt8) → Option Conversation
  | state, [] => some ⟨[], state, false⟩
  | state, line :: rest =>
    match answer line with
    | .eof => some ⟨[], state, false⟩
    | .invalid message =>
      (converse fuel index state rest).map (Conversation.cons ⟨some message, ""⟩)
    | .command command =>
      match runInteractiveCommand fuel index state (trimText command) with
      | none => none
      | some (.ok (.output response), state) =>
        (converse fuel index state rest).map (Conversation.cons ⟨none, response⟩)
      | some (.ok .quit, state) => some ⟨[⟨none, ""⟩], state, true⟩
      | some (.error message, state) =>
        (converse fuel index state rest).map (Conversation.cons ⟨some message, ""⟩)

def Exchange.writes (exchange : Exchange) : List SessionWrite :=
  (exchange.error.map fun message => SessionWrite.error (errorText message)).toList ++
    [.output (responseText exchange.response)]

def promptWrites (prompt : Bool) : List SessionWrite :=
  if prompt = true then [.output promptText] else []

def Conversation.writes (prompt : Bool) (conversation : Conversation) : List SessionWrite :=
  conversation.exchanges.flatMap (fun exchange => promptWrites prompt ++ exchange.writes) ++
    if conversation.quit = true then [] else promptWrites prompt

/-- Writes one after the other, up to one that fails. -/
def writingAll (writes : List SessionWrite) (next : Program sessionSignature SessionEnd) :
    Program sessionSignature SessionEnd := writes.foldr writing next

theorem writingAll_append (first second : List SessionWrite)
    (next : Program sessionSignature SessionEnd) :
    writingAll (first ++ second) next = writingAll first (writingAll second next) :=
  List.foldr_append

def writesOf (trace : List (Event sessionSignature)) : List SessionWrite :=
  trace.map fun event => event.op

/-- The session ends with its first write that fails. -/
def EndsAtFailure (trace : List (Event sessionSignature)) : Prop :=
  ∃ before failed, trace = before ++ [failed] ∧ (∀ event ∈ before, event.reply = true) ∧
    failed.reply = false

theorem runs_writingAll {writes : List SessionWrite} {last result : SessionEnd}
    {trace : List (Event sessionSignature)}
    (hrun : Runs (writingAll writes (pure last)) trace result) :
    ((∀ event ∈ trace, event.reply = true) ∧ writesOf trace = writes ∧ result = last) ∨
      (EndsAtFailure trace ∧ writesOf trace <+: writes ∧
        result = some (.error terminalOutputFailure)) := by
  induction writes generalizing trace with
  | nil =>
    obtain ⟨rfl, rfl⟩ := runs_ret.1 hrun
    exact .inl ⟨List.forall_mem_nil _, rfl, rfl⟩
  | cons write writes ih =>
    obtain ⟨(reply : Bool), rest, rfl, hrest⟩ := runs_call.1 hrun
    by_cases hsucceeded : reply = true
    · rw [if_pos hsucceeded] at hrest
      obtain ⟨hall, hops, hresult⟩ |
        ⟨⟨before, failed, rfl, hbefore, hfailed⟩, hops, hresult⟩ := ih hrest
      · refine .inl ⟨List.forall_mem_cons.2 ⟨hsucceeded, hall⟩, ?_, hresult⟩
        show write :: writesOf rest = write :: writes
        rw [hops]
      · refine .inr ⟨⟨⟨write, reply⟩ :: before, failed, rfl, ?_, hfailed⟩, ?_, hresult⟩
        · exact List.forall_mem_cons.2 ⟨hsucceeded, hbefore⟩
        · exact List.cons_prefix_cons.2 ⟨rfl, hops⟩
    · rw [if_neg hsucceeded] at hrest
      obtain ⟨rfl, rfl⟩ := runs_ret.1 hrest
      have hfailed : reply = false := Bool.not_eq_true _ ▸ hsucceeded
      refine .inr ⟨⟨[], ⟨write, reply⟩, rfl, List.forall_mem_nil _, hfailed⟩, ?_, rfl⟩
      exact List.cons_prefix_cons.2 ⟨rfl, List.nil_prefix⟩

section Loop
variable {fuel : ℕ} {index : TerminalProfileIndex}

theorem sessionLoop_eq (prompt : Bool) {passes : ℕ} {state : InspectState}
    {buffers : List Buffer} {line : List UInt8} {conversation : Conversation}
    (hconverse : converse fuel index state (lines lineFeed (stream buffers)) =
      some conversation) (hpasses : (lines lineFeed (stream buffers)).length < passes) :
    sessionLoop fuel index prompt passes state (buffers.map .buffer) line =
      writingAll (conversation.writes prompt) (pure (some (.ok conversation.final))) := by
  -- on the passes: each reads one line, and there are more passes than lines
  induction passes generalizing state buffers line conversation with
  | zero => exact absurd hpasses (Nat.not_lt_zero _)
  | succ passes ih =>
    obtain ⟨line', rest, hread, -, hrest⟩ := readInteractiveLine_eq buffers line
    have hprompt : ∀ (answered : Program sessionSignature SessionEnd),
        (if prompt = true then writing (.output promptText) answered else answered) =
          writingAll (promptWrites prompt) answered := by
      intro answered
      cases prompt <;> rfl
    unfold sessionLoop
    rw [hprompt]
    by_cases hempty : stream buffers = []
    · -- the input has ended
      rw [hempty, lines_nil] at hconverse
      have heof : splitAnswer (stream buffers) 0 = .eof := by
        rw [hempty]
        rfl
      rw [← Option.some.inj hconverse, hread, heof]
      rfl
    · rw [lines_of_ne_nil hempty] at hconverse hpasses
      rw [← hrest] at hconverse hpasses
      rw [hread, splitAnswer_first hempty]
      have hpasses' : (lines lineFeed (stream rest)).length < passes :=
        Nat.lt_of_succ_lt_succ hpasses
      unfold converse at hconverse
      rcases hanswer : answer (firstLine lineFeed (stream buffers)) with _ | command | message
      · exact absurd hanswer (answer_ne_eof _)
      · rw [hanswer] at hconverse
        dsimp only at hconverse ⊢
        rcases hcommand : runInteractiveCommand fuel index state (trimText command) with
          _ | ⟨_ | _ | _, next⟩
        · rw [hcommand] at hconverse
          cases hconverse
        · rw [hcommand] at hconverse
          obtain ⟨tail, htail, rfl⟩ := Option.map_eq_some_iff.1 hconverse
          dsimp only
          rw [ih htail hpasses']
          simp only [Conversation.writes, Conversation.cons, List.flatMap_cons, Exchange.writes,
            Option.map_some, Option.toList_some, List.append_assoc, writingAll_append]
          rfl
        · rw [hcommand] at hconverse
          obtain ⟨tail, htail, rfl⟩ := Option.map_eq_some_iff.1 hconverse
          dsimp only
          rw [ih htail hpasses']
          simp only [Conversation.writes, Conversation.cons, List.flatMap_cons, Exchange.writes,
            Option.map_none, Option.toList_none, List.nil_append, List.append_assoc,
            writingAll_append]
          rfl
        · rw [hcommand] at hconverse
          rw [← Option.some.inj hconverse]
          simp only [Conversation.writes, List.flatMap_cons, List.flatMap_nil, Exchange.writes,
            Option.map_none, Option.toList_none, List.nil_append, List.append_nil,
            writingAll_append, if_true]
          rfl
      · rw [hanswer] at hconverse
        obtain ⟨tail, htail, rfl⟩ := Option.map_eq_some_iff.1 hconverse
        dsimp only
        rw [ih htail hpasses']
        simp only [Conversation.writes, Conversation.cons, List.flatMap_cons, Exchange.writes,
          Option.map_some, Option.toList_some, List.append_assoc, writingAll_append]
        rfl

end Loop

def endMarkerLine : List Char := "-- end --".toList

/-- No line of the response can be taken for the end marker. -/
def Framed (response : String) : Prop := endMarkerLine ∉ lines '\n' response.toList

/-- Reading an output back: its lines, cut at the end markers. -/
def readResponses (output : List Char) : List (List (List Char)) :=
  lines endMarkerLine (lines '\n' output)

theorem toList_responseText (response : String) : (responseText response).toList =
    closedLines '\n' (lines '\n' response.toList ++ [endMarkerLine]) := by
  rw [closedLines_append, closedLines_lines]
  unfold responseText
  rw [String.toList_append, String.toList_append]
  have hmarker : interactiveEndMarker.toList = closedLines '\n' [endMarkerLine] := rfl
  rw [hmarker]
  split
  · rfl
  · rfl

theorem readResponses_flatMap {responses : List String} (h : ∀ response ∈ responses, Framed response) :
    readResponses (responses.flatMap fun response => (responseText response).toList) =
      responses.map fun response => lines '\n' response.toList := by
  have hblocks : (responses.flatMap fun response => (responseText response).toList) =
      closedLines '\n' (closedLines endMarkerLine
        (responses.map fun response => lines '\n' response.toList)) := by
    clear h
    induction responses with
    | nil => rfl
    | cons response responses ih =>
      rw [List.flatMap_cons, ih, toList_responseText, List.map_cons, closedLines_cons,
        ← closedLines_append, List.append_assoc]
      rfl
  have hfree : ∀ line ∈ closedLines endMarkerLine
      (responses.map fun response => lines '\n' response.toList), '\n' ∉ line := by
    intro line hline
    obtain ⟨piece, hpiece, hmem⟩ := List.mem_flatMap.1 hline
    obtain ⟨response, -, rfl⟩ := List.mem_map.1 hpiece
    rcases List.mem_append.1 hmem with hmem | hmem
    · exact separator_notMem_of_mem_lines hmem
    · rw [List.mem_singleton.1 hmem]
      decide
  have hmarked : ∀ piece ∈ responses.map fun response => lines '\n' response.toList,
      endMarkerLine ∉ piece := by
    intro piece hpiece
    obtain ⟨response, hmem, rfl⟩ := List.mem_map.1 hpiece
    exact h response hmem
  unfold readResponses
  rw [hblocks, lines_closedLines hfree, lines_closedLines hmarked]

/-- The line does not begin like an end marker. -/
def isPlain (line : String) : Bool := line.toList.head?.any (· ≠ '-')

theorem isPlain_append {first : String} (second : String) (h : isPlain first = true) :
    isPlain (first ++ second) = true := by
  unfold isPlain at h ⊢
  rw [String.toList_append]
  cases hfirst : first.toList with
  | nil =>
    rw [hfirst] at h
    cases h
  | cons c rest =>
    rw [hfirst] at h
    exact h

theorem ne_marker_of_isPlain {line : String} (h : isPlain line = true) :
    line.toList ≠ endMarkerLine := by
  intro heq
  unfold isPlain at h
  rw [heq] at h
  exact absurd h (by decide)

def PlainLines (plain : List String) : Prop := ∀ line ∈ plain, isPlain line = true

theorem plainLines_nil : PlainLines [] := List.forall_mem_nil _

theorem plainLines_cons {line : String} {plain : List String} :
    PlainLines (line :: plain) ↔ isPlain line = true ∧ PlainLines plain := List.forall_mem_cons

theorem plainLines_append {first second : List String} :
    PlainLines (first ++ second) ↔ PlainLines first ∧ PlainLines second :=
  List.forall_mem_append

theorem plainLines_map {α : Type} {line : α → String} (h : ∀ a, isPlain (line a) = true)
    (rows : List α) : PlainLines (rows.map line) := by
  intro text htext
  obtain ⟨row, -, rfl⟩ := List.mem_map.1 htext
  exact h row

theorem framed_writeLines {plain : List String} (hsafe : SafeLines plain)
    (hplain : PlainLines plain) : Framed (TerminalProfileIndex.writeLines plain) := by
  have hclosed : (TerminalProfileIndex.writeLines plain).toList = closedLines '\n' (plain.map String.toList) := by
    rw [TerminalProfileIndex.toList_writeLines]
    unfold closedLines
    rw [List.flatMap_map]
  have hfree : ∀ line ∈ plain.map String.toList, '\n' ∉ line := by
    intro line hline hmem
    obtain ⟨text, htext, rfl⟩ := List.mem_map.1 hline
    have hunsafe : isUnsafeTerminalCharacter '\n' = true := by decide
    rw [hsafe text htext '\n' hmem] at hunsafe
    cases hunsafe
  unfold Framed
  rw [hclosed, lines_closedLines hfree]
  intro hmarker
  obtain ⟨text, htext, heq⟩ := List.mem_map.1 hmarker
  exact ne_marker_of_isPlain (hplain text htext) heq

section Rendered
variable (index : TerminalProfileIndex)

theorem isPlain_functionRow (depth : ℕ) (function : RankedFunction) (contextSampleCount : ℤ) :
    isPlain (functionRow depth index function contextSampleCount) = true := by
  unfold functionRow
  repeat' apply isPlain_append
  decide

theorem isPlain_semanticRow (depth : ℕ) (semantic : RankedSemantic)
    (operationDurationNs : Option ℤ) :
    isPlain (semanticRow depth semantic operationDurationNs) = true := by
  unfold semanticRow
  repeat' apply isPlain_append
  decide

theorem isPlain_transitionLine (semantic : RankedSemantic) (sort : InspectSort)
    (view : TerminalProfileIndex.SemanticView) :
    isPlain (TerminalProfileIndex.transitionLine semantic sort view) = true := by
  unfold TerminalProfileIndex.transitionLine
  repeat' apply isPlain_append
  decide

theorem plainLines_captureHealthHeader (metadata : RankedProfileMetadata) :
    PlainLines (captureHealthHeader metadata) := by
  unfold captureHealthHeader
  split_ifs
  · exact plainLines_nil
  · simp only [plainLines_cons, plainLines_nil, and_true]
    and_intros <;> exact isPlain_append _ (by decide)

theorem plainLines_sampleHeader : PlainLines index.sampleHeader := by
  unfold TerminalProfileIndex.sampleHeader
  simp only [plainLines_cons, plainLines_nil, and_true]
  and_intros <;> exact isPlain_append _ (by decide)

theorem isPlain_showing (shown total truncated : String) :
    isPlain ("showing: " ++ shown ++ " of " ++ total ++ "; truncated: " ++ truncated) = true := by
  repeat' apply isPlain_append
  decide

theorem plainLines_semanticHeader (selected : Option ℤ) (sort : InspectSort)
    (filter : Option String) (maxDepth : ℕ) (view : TerminalProfileIndex.SemanticView) :
    PlainLines (index.semanticHeader selected sort filter maxDepth view) := by
  have hview : isPlain "view: ranked-profile" = true := by decide
  unfold TerminalProfileIndex.semanticHeader
  simp only [plainLines_append, plainLines_cons, plainLines_nil, plainLines_captureHealthHeader,
    plainLines_sampleHeader, isPlain_showing, hview, and_true, true_and]
  and_intros <;> exact isPlain_append _ (by decide)

theorem plainLines_functionHeader (semanticId functionId : ℤ) (sort : InspectSort)
    (filter : Option String) (maxDepth : ℕ) (view : TerminalProfileIndex.FunctionView) :
    PlainLines (index.functionHeader semanticId functionId sort filter maxDepth view) := by
  have hview : isPlain "view: ranked-profile" = true := by decide
  have hbasis : isPlain "metric_basis: sampled-cpu; exact_wall_time: not-applicable" = true := by
    decide
  have hcontext : ∀ first second : String,
      isPlain ("context: function:" ++ first ++ ":" ++ second) = true := by
    intro first second
    repeat' apply isPlain_append
    decide
  unfold TerminalProfileIndex.functionHeader
  simp only [plainLines_append, plainLines_cons, plainLines_nil, plainLines_captureHealthHeader,
    plainLines_sampleHeader, isPlain_showing, hview, hbasis, hcontext, and_true, true_and]
  and_intros <;> exact isPlain_append _ (by decide)

theorem plainLines_semanticLines (selected : Option ℤ) (sort : InspectSort)
    (filter : Option String) (maxDepth : ℕ) (view : TerminalProfileIndex.SemanticView) :
    PlainLines (index.semanticLines selected sort filter maxDepth view) := by
  unfold TerminalProfileIndex.semanticLines
  apply plainLines_append.2
  constructor
  · apply plainLines_append.2
    exact ⟨plainLines_semanticHeader index _ _ _ _ _,
      plainLines_map (fun row => isPlain_semanticRow _ _ _) _⟩
  · cases view.selected with
    | none => exact plainLines_nil
    | some semantic =>
      apply plainLines_cons.2
      exact ⟨isPlain_transitionLine semantic sort view,
        plainLines_map (fun function => isPlain_functionRow index _ _ _) _⟩

theorem plainLines_functionLines (semanticId functionId : ℤ) (sort : InspectSort)
    (filter : Option String) (maxDepth : ℕ) (view : TerminalProfileIndex.FunctionView) :
    PlainLines (index.functionLines semanticId functionId sort filter maxDepth view) := by
  apply plainLines_append.2
  exact ⟨plainLines_functionHeader index _ _ _ _ _ _,
    plainLines_map (fun row => isPlain_functionRow index _ _ _) _⟩

theorem framed_render {fuel : ℕ} {state : InspectState} {text : String}
    (h : state.render fuel index = some (.ok text)) : Framed text := by
  unfold InspectState.render TerminalProfileIndex.render at h
  split at h
  · obtain ⟨view, -, rfl⟩ := TerminalProfileIndex.renderSemanticView_spec h
    exact framed_writeLines (index.safeLines_semanticLines _ _ _ _ _)
      (plainLines_semanticLines index _ _ _ _ _)
  · obtain ⟨view, -, rfl⟩ := TerminalProfileIndex.renderSemanticView_spec h
    exact framed_writeLines (index.safeLines_semanticLines _ _ _ _ _)
      (plainLines_semanticLines index _ _ _ _ _)
  · obtain ⟨view, -, rfl⟩ := TerminalProfileIndex.renderFunctionView_spec h
    exact framed_writeLines (index.safeLines_functionLines _ _ _ _ _ _)
      (plainLines_functionLines index _ _ _ _ _ _)

theorem framed_helpText : Framed helpText := by
  have htext : helpText = TerminalProfileIndex.writeLines [
      "commands: show, open semantic:ID, open function:SEMANTIC_ID:FUNCTION_ID, up, root, " ++
        "sort METRIC, filter TEXT, clear, limit N, help, quit"] := by
    decide
  rw [htext]
  apply framed_writeLines
  · simp only [safeLines_cons, safeLines_nil, safe_append, and_true]
    and_intros <;> decide
  · apply plainLines_cons.2
    exact ⟨isPlain_append _ (by decide), plainLines_nil⟩

theorem framed_empty : Framed "" := fun h => by cases h

theorem framed_runInteractiveCommand {fuel : ℕ} {state next : InspectState} {command response : String}
    (h : runInteractiveCommand fuel index state command = some (.ok (.output response), next)) :
    Framed response := by
  unfold runInteractiveCommand at h
  split at h
  · cases h
    exact framed_helpText
  · split at h
    · cases h
    · split at h
      · cases h
      · next changed hchanged =>
        obtain ⟨reply, hreply, hpair⟩ := Option.map_eq_some_iff.1 h
        obtain ⟨rfl, rfl⟩ := Prod.mk.inj hpair
        obtain ⟨rendered, hrendered, hresult⟩ := Option.map_eq_some_iff.1 hreply
        cases rendered with
        | error error => cases hresult
        | ok text =>
          cases hresult
          exact framed_render index hrendered

end Rendered

/-- Every line is answered, unless a session is quit before; an error leaves an empty response, and
the end of every response can be seen. -/
structure Conversation.Answers (index : TerminalProfileIndex) (inputs : List (List UInt8))
    (conversation : Conversation) : Prop where
  final : conversation.final.Valid index
  answered : conversation.exchanges.length ≤ inputs.length
  all_answered : conversation.quit = false → conversation.exchanges.length = inputs.length
  errors : ∀ exchange ∈ conversation.exchanges, exchange.error ≠ none → exchange.response = ""
  framed : ∀ exchange ∈ conversation.exchanges, Framed exchange.response

theorem Conversation.Answers.cons {index : TerminalProfileIndex} {inputs : List (List UInt8)}
    {conversation : Conversation} (h : conversation.Answers index inputs) {exchange : Exchange}
    (line : List UInt8) (herror : exchange.error ≠ none → exchange.response = "")
    (hframed : Framed exchange.response) :
    (conversation.cons exchange).Answers index (line :: inputs) := by
  refine ⟨h.final, ?_, ?_, ?_, ?_⟩
  · exact Nat.succ_le_succ h.answered
  · intro hquit
    exact congrArg Nat.succ (h.all_answered hquit)
  · exact List.forall_mem_cons.2 ⟨herror, h.errors⟩
  · exact List.forall_mem_cons.2 ⟨hframed, h.framed⟩

section Conversations
variable {document : RankedProfileDocument} {compact : CompactFunctionTree}
  {fullSymbols allFrames : Bool} {index : TerminalProfileIndex} {state : InspectState}

theorem answers_invalid {fuel : ℕ} {line : List UInt8} {rest : List (List UInt8)}
    {message : String} {tail : Conversation} (hline : answer line = .invalid message)
    (htail : converse fuel index state rest = some tail) (hanswers : tail.Answers index rest) :
    ∃ conversation, converse fuel index state (line :: rest) = some conversation ∧
      conversation.Answers index (line :: rest) := by
  refine ⟨tail.cons ⟨some message, ""⟩, ?_, hanswers.cons line (fun _ => rfl) framed_empty⟩
  unfold converse
  rw [hline]
  dsimp only
  rw [htail]
  rfl

theorem answers_command {fuel : ℕ} {line : List UInt8} {rest : List (List UInt8)}
    {command : String} {reply : Except String InteractiveCommandResult} {next : InspectState}
    {tail : Conversation} (hline : answer line = .command command)
    (hreply : runInteractiveCommand fuel index state (trimText command) = some (reply, next))
    (hvalid : next.Valid index) (htail : converse fuel index next rest = some tail)
    (hanswers : tail.Answers index rest) :
    ∃ conversation, converse fuel index state (line :: rest) = some conversation ∧
      conversation.Answers index (line :: rest) := by
  unfold converse
  rw [hline]
  dsimp only
  rw [hreply]
  cases reply with
  | error message =>
    dsimp only
    rw [htail]
    exact ⟨_, rfl, hanswers.cons line (fun _ => rfl) framed_empty⟩
  | ok result =>
    cases result with
    | output response =>
      dsimp only
      rw [htail]
      have hframed := framed_runInteractiveCommand index hreply
      exact ⟨_, rfl, hanswers.cons line (fun h => absurd rfl h) hframed⟩
    | quit =>
      refine ⟨_, rfl, hvalid, ?_, ?_, ?_, ?_⟩
      · exact Nat.succ_le_succ (Nat.zero_le _)
      · intro hquit
        cases hquit
      · intro exchange hmem herror
        obtain rfl := List.mem_singleton.1 hmem
        exact absurd rfl herror
      · intro exchange hmem
        obtain rfl := List.mem_singleton.1 hmem
        exact framed_empty

theorem converse_total (hstruct : document.WellStructured) (hcosts : compact.LosesNoCost document)
    (hindex : index.Indexes document compact fullSymbols allFrames) (h : state.Valid index)
    (inputs : List (List UInt8)) :
    ∃ enough, ∀ fuel ≥ enough, ∃ conversation,
      converse fuel index state inputs = some conversation ∧ conversation.Answers index inputs := by
  induction inputs generalizing state with
  | nil =>
    refine ⟨0, fun fuel _ => ⟨⟨[], state, false⟩, rfl, h, ?_, fun _ => rfl, ?_, ?_⟩⟩
    · exact Nat.le_refl _
    · exact List.forall_mem_nil _
    · exact List.forall_mem_nil _
  | cons line rest ih =>
    rcases hline : answer line with _ | command | message
    · exact absurd hline (answer_ne_eof _)
    · obtain ⟨next, hvalid, first, hfirst⟩ :=
        runInteractiveCommand_total hstruct hcosts hindex h (trimText command)
      obtain ⟨later, hlater⟩ := ih hvalid
      refine ⟨max first later, fun fuel hfuel => ?_⟩
      obtain ⟨reply, hreply⟩ := hfirst fuel (Nat.le_trans (Nat.le_max_left _ _) hfuel)
      obtain ⟨tail, htail, hanswers⟩ := hlater fuel (Nat.le_trans (Nat.le_max_right _ _) hfuel)
      exact answers_command hline hreply hvalid htail hanswers
    · obtain ⟨enough, henough⟩ := ih h
      refine ⟨enough, fun fuel hfuel => ?_⟩
      obtain ⟨tail, htail, hanswers⟩ := henough fuel hfuel
      exact answers_invalid hline htail hanswers

end Conversations

def outputText (writes : List SessionWrite) : List Char :=
  writes.flatMap fun write =>
    match write with
    | .output text => text.toList
    | .error _ => []

theorem outputText_append (first second : List SessionWrite) :
    outputText (first ++ second) = outputText first ++ outputText second := List.flatMap_append

theorem outputText_writes (conversation : Conversation) :
    outputText (conversation.writes false) =
      (conversation.exchanges.map Exchange.response).flatMap
        fun response => (responseText response).toList := by
  have hend : (if conversation.quit = true then [] else promptWrites false) = [] := by
    split_ifs <;> rfl
  unfold Conversation.writes
  rw [hend, List.append_nil]
  induction conversation.exchanges with
  | nil => rfl
  | cons exchange exchanges ih =>
    have hwrites : outputText (promptWrites false ++ exchange.writes) =
        (responseText exchange.response).toList := by
      unfold Exchange.writes
      rw [outputText_append, outputText_append]
      cases exchange.error <;> exact List.append_nil _
    rw [List.flatMap_cons, outputText_append, hwrites, ih, List.map_cons, List.flatMap_cons]

/-- However the input is buffered, a session writes the first view and answers the lines one by
one, up to a write that fails; and without a prompt the responses can be read back. -/
theorem interactive_session_answers_its_lines (order : IterationOrder ReportMap)
    (document : RankedProfileDocument) (haccepted : document.validate order = .ok ())
    (args : InspectArgs) (start : InspectState) (hstart : args.initialState = .ok start) :
    ∃ index, TerminalProfileIndex.new document start.fullSymbols start.allFrames = some index ∧
      ((∃ fuel first, start.render fuel index = some (.ok first)) → ∀ bytes : List UInt8,
        ∃ enough, ∀ fuel ≥ enough, ∃ first conversation,
          start.render fuel index = some (.ok first) ∧
          converse fuel index start (lines lineFeed bytes) = some conversation ∧
          conversation.Answers index (lines lineFeed bytes) ∧
          ∀ buffers, stream buffers = bytes → ∀ prompt passes,
            (lines lineFeed bytes).length < passes → ∀ trace result,
            Runs (runInteractiveSession fuel passes document start (buffers.map .buffer) prompt)
              trace result →
            ((∀ event ∈ trace, event.reply = true) ∧
              writesOf trace = .output (responseText first) :: conversation.writes prompt ∧
              result = some (.ok conversation.final) ∧
              (prompt = false → readResponses (outputText (writesOf trace)) =
                (first :: conversation.exchanges.map Exchange.response).map
                  fun response => lines '\n' response.toList)) ∨
            (EndsAtFailure trace ∧
              writesOf trace <+: .output (responseText first) :: conversation.writes prompt ∧
              result = some (.error terminalOutputFailure))) := by
  obtain ⟨compact, index, -, hnew, hstruct, hcosts, hindex⟩ :=
    TerminalProfileIndex.exists_index haccepted start.fullSymbols start.allFrames
  refine ⟨index, hnew, ?_⟩
  intro hrendered bytes
  obtain ⟨fuel, first, hfirst⟩ := hrendered
  have hholds := (TerminalProfileIndex.holds_iff_of_render hfirst).2 ⟨first, rfl⟩
  have hvalid := initialState_valid hstart hholds
  obtain ⟨shown, hshown⟩ := TerminalProfileIndex.render_of_holds hstruct hcosts hindex hholds
    start.sort start.filter start.limit
    (start.depth.getD (if start.selection ≠ .root then 1 else 0))
  obtain ⟨answered, hanswered⟩ :=
    converse_total hstruct hcosts hindex hvalid (lines lineFeed bytes)
  -- fuel for the first view and for every answer
  refine ⟨max shown answered, fun fuel hfuel => ?_⟩
  obtain ⟨text, htext⟩ := hshown fuel (Nat.le_trans (Nat.le_max_left _ _) hfuel)
  obtain ⟨conversation, hconverse, hanswers⟩ :=
    hanswered fuel (Nat.le_trans (Nat.le_max_right _ _) hfuel)
  have hrender : start.render fuel index = some (.ok text) := htext
  refine ⟨text, conversation, hrender, hconverse, hanswers, ?_⟩
  intro buffers hstream prompt passes hpasses trace result hrun
  subst hstream
  -- the whole session is its writes one after the other, whatever the buffers are
  have hsession : runInteractiveSession fuel passes document start (buffers.map .buffer) prompt =
      writingAll (.output (responseText text) :: conversation.writes prompt)
        (pure (some (.ok conversation.final))) := by
    unfold runInteractiveSession
    rw [hnew]
    dsimp only
    rw [hrender]
    dsimp only
    rw [sessionLoop_eq prompt hconverse hpasses]
    rfl
  rw [hsession] at hrun
  obtain ⟨hall, hwrites, hresult⟩ | hfailed := runs_writingAll hrun
  · refine .inl ⟨hall, hwrites, hresult, fun hprompt => ?_⟩
    subst hprompt
    have houtput : outputText (writesOf trace) =
        (text :: conversation.exchanges.map Exchange.response).flatMap
          fun response => (responseText response).toList := by
      rw [hwrites, List.flatMap_cons, ← outputText_writes]
      rfl
    rw [houtput]
    apply readResponses_flatMap
    refine List.forall_mem_cons.2 ⟨?_, ?_⟩
    · exact framed_render index hrender
    · intro response hmem
      obtain ⟨exchange, hexchange, rfl⟩ := List.mem_map.1 hmem
      exact hanswers.framed exchange hexchange
  · exact .inr hfailed

theorem planning_session_answers_its_lines :
    RankedProfileDocument.planningDocument.validate (.inserted ReportMap) = .ok () ∧
      planningArgs.initialState = .ok planningStart ∧
      ∃ index, TerminalProfileIndex.new RankedProfileDocument.planningDocument false false =
          some index ∧
        (∃ fuel first, planningStart.render fuel index = some (.ok first)) ∧
        ∀ bytes : List UInt8, ∃ fuel conversation,
          converse fuel index planningStart (lines lineFeed bytes) = some conversation ∧
          conversation.Answers index (lines lineFeed bytes) := by
  have haccepted : RankedProfileDocument.planningDocument.validate (.inserted ReportMap) =
      .ok () := by
    decide
  have hstart : planningArgs.initialState = .ok planningStart := rfl
  obtain ⟨index, hnew, hsession⟩ := interactive_session_answers_its_lines (.inserted ReportMap)
    RankedProfileDocument.planningDocument haccepted planningArgs planningStart hstart
  obtain ⟨_, found, -, hfound, hstruct, hcosts, hindex⟩ :=
    TerminalProfileIndex.exists_index haccepted false false
  obtain rfl : index = found := Option.some.inj (hnew.symm.trans hfound)
  obtain ⟨shown, hshown⟩ := TerminalProfileIndex.render_of_holds hstruct hcosts hindex
    (show index.Holds .root from trivial) .duration none 20 0
  obtain ⟨first, hfirst⟩ := hshown shown (Nat.le_refl _)
  refine ⟨haccepted, hstart, index, hnew, ⟨shown, first, hfirst⟩, ?_⟩
  intro bytes
  obtain ⟨enough, henough⟩ := hsession ⟨shown, first, hfirst⟩ bytes
  obtain ⟨_, conversation, -, hconverse, hanswers, -⟩ := henough enough (Nat.le_refl _)
  exact ⟨enough, conversation, hconverse, hanswers⟩

end ReportCli
end DeltaFunnel
