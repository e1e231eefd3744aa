import DeltaFunnel.Collections.Lines

/-! Reading the lines of an interactive session from a buffered input. -/

namespace DeltaFunnel
namespace InteractiveInput
open Collections

def maxInteractiveCommandBytes : ℕ := 1024

def lineFeed : UInt8 := 0x0a
def carriageReturn : UInt8 := 0x0d

abbrev Buffer : Type := { bytes : List UInt8 // bytes ≠ [] }

/-- What filling the buffer meets, one after the other. Behind the last one the input has ended. -/
inductive Refill where
  | buffer (bytes : Buffer)
  | failed
  deriving DecidableEq

abbrev BufRead : Type := List Refill

/-- The buffered bytes, none where the input has ended. There is no answer where reading fails. -/
def fillBuf : BufRead → Option (List UInt8)
  | [] => some []
  | .buffer bytes :: _ => some bytes.1
  | .failed :: _ => none

def consume (amount : ℕ) : BufRead → BufRead
  | .buffer bytes :: input =>
    if h : bytes.1.drop amount ≠ [] then .buffer ⟨bytes.1.drop amount, h⟩ :: input else input
  | input => input

inductive InteractiveLine where
  | eof
  | command (text : String)
  | invalid (message : String)
  deriving DecidableEq, Repr

def lineTooLong : String := "interactive command exceeds the 1024-byte limit"
def lineNotUtf8 : String := "interactive command must be valid UTF-8"

structure LineState where
  line : List UInt8
  readAny : Bool
  exceededLimit : Bool
  deriving DecidableEq, Repr

def newline (available : List UInt8) : Option ℕ := available.findIdx? (· == lineFeed)

def consumed (available : List UInt8) : ℕ :=
  (newline available).elim available.length fun position => position + 1

def payload (available : List UInt8) : ℕ := (newline available).getD (consumed available)

/-- What one pass of the loop keeps of the buffered bytes. -/
def LineState.retain (state : LineState) (available : List UInt8) : LineState :=
  let payload := payload available
  if state.exceededLimit then { state with readAny := true }
  else
    let retained := min payload (maxInteractiveCommandBytes + 1 - state.line.length)
    let line := state.line ++ available.take retained
    ⟨line, true,
      state.exceededLimit || retained ≠ payload || line.length > maxInteractiveCommandBytes⟩

/-- The loop. A buffer without a line feed is consumed whole, and the loop goes on behind it. -/
def readLoop : BufRead → LineState → Option (LineState × BufRead)
  | [], state => some (state, [])
  | .failed :: _, _ => none
  | .buffer available :: input, state =>
    let state := state.retain available.1
    if (newline available.1).isSome then
      some (state, consume (consumed available.1) (.buffer available :: input))
    else readLoop input state

def fromUtf8 (line : List UInt8) : Option String := String.fromUTF8? (ByteArray.mk line.toArray)

def popCarriageReturn (line : List UInt8) : List UInt8 :=
  if line.getLast? = some carriageReturn then line.dropLast else line

/-- A call, with the buffer that it leaves in `line`. -/
def readInteractiveLine (input : BufRead) (_line : List UInt8) :
    Option (InteractiveLine × List UInt8 × BufRead) := do
  let (state, input) ← readLoop input ⟨[], false, false⟩
  if state.readAny = false then some (.eof, state.line, input)
  else if state.exceededLimit then some (.invalid lineTooLong, state.line, input)
  else
    let line := popCarriageReturn state.line
    match fromUtf8 line with
    | some text => some (.command text, line, input)
    | none => some (.invalid lineNotUtf8, line, input)

/-- Repeated calls, as the session makes them with one buffer for all lines. -/
def readInteractiveLines : ℕ → BufRead → List UInt8 → Option (List InteractiveLine)
  | 0, _, _ => some []
  | calls + 1, input, line => do
    let (result, line, input) ← readInteractiveLine input line
    let results ← readInteractiveLines calls input line
    some (result :: results)

def answer (line : List UInt8) : InteractiveLine :=
  if line.length > maxInteractiveCommandBytes then .invalid lineTooLong
  else
    match fromUtf8 (popCarriageReturn line) with
    | some text => .command text
    | none => .invalid lineNotUtf8

/-- The answer of a call with this many calls before it. -/
def splitAnswer (stream : List UInt8) (call : ℕ) : InteractiveLine :=
  match (lines lineFeed stream)[call]? with
  | some line => answer line
  | none => .eof

def stream (buffers : List Buffer) : List UInt8 := (buffers.map Subtype.val).flatten

/-- The bytes of the line read so far, as far as they are retained. -/
def LineState.Retains (state : LineState) (seen : List UInt8) : Prop :=
  state.line = seen.take (maxInteractiveCommandBytes + 1) ∧
    (state.exceededLimit = true ↔ maxInteractiveCommandBytes < seen.length)

theorem retains_start : LineState.Retains ⟨[], false, false⟩ [] := by
  constructor
  · rfl
  · decide

theorem LineState.Retains.length_le {state : LineState} {seen : List UInt8}
    (h : state.Retains seen) : state.line.length ≤ maxInteractiveCommandBytes + 1 := by
  rw [h.1]
  exact List.length_take_le _ _

theorem LineState.Retains.retain {state : LineState} {seen : List UInt8} (h : state.Retains seen)
    (available : List UInt8) (hpayload : payload available ≤ available.length) :
    (state.retain available).Retains (seen ++ available.take (payload available)) := by
  obtain ⟨hline, hexceeded⟩ := h
  have htaken : (available.take (payload available)).length = payload available :=
    List.length_take_of_le hpayload
  unfold LineState.retain
  by_cases hlong : state.exceededLimit = true
  · -- the line was full before, so that neither it nor the flag changes
    have hseen := hexceeded.1 hlong
    rw [if_pos hlong]
    constructor
    · rw [List.take_append_of_le_length hseen]
      exact hline
    · rw [List.length_append]
      exact iff_of_true hlong (by omega)
  · have hseen : seen.length ≤ maxInteractiveCommandBytes := by
      rw [hexceeded] at hlong
      omega
    have hkept : seen.take (maxInteractiveCommandBytes + 1) = seen :=
      List.take_of_length_le (by omega)
    have hwhole : state.line = seen := hline.trans hkept
    rw [if_neg hlong]
    constructor
    · show state.line ++ _ = _
      rw [hwhole, List.take_append, hkept, List.take_take, Nat.min_comm]
    · have hflag : state.exceededLimit = false := by simpa using hlong
      simp only [hflag, hwhole, Bool.false_or, Bool.or_eq_true, decide_eq_true_eq,
        List.length_append, List.length_take, htaken, ne_eq]
      omega

theorem newline_eq_none {available : List UInt8} (h : newline available = none) :
    lineFeed ∉ available ∧ payload available = available.length := by
  constructor
  · intro hmem
    have hnone := List.findIdx?_eq_none_iff.1 h lineFeed hmem
    simp at hnone
  · unfold payload consumed
    rw [h]
    rfl

theorem newline_eq_some {available : List UInt8} {position : ℕ}
    (h : newline available = some position) :
    lineFeed ∉ available.take position ∧ payload available = position ∧
      consumed available = position + 1 ∧ position < available.length ∧
      available = available.take position ++ lineFeed :: available.drop (position + 1) := by
  obtain ⟨hlt, hfound, hbefore⟩ := List.findIdx?_eq_some_iff_getElem.1 h
  have hbyte : available[position] = lineFeed := by simpa using hfound
  refine ⟨?_, ?_, ?_, hlt, ?_⟩
  · intro hmem
    obtain ⟨i, hi, heq⟩ := List.getElem_of_mem hmem
    rw [List.length_take] at hi
    rw [List.getElem_take] at heq
    have hfalse := hbefore i (by omega)
    rw [heq] at hfalse
    simp at hfalse
  · unfold payload
    rw [h]
    rfl
  · unfold consumed
    rw [h]
    rfl
  · rw [← hbyte, List.getElem_cons_drop, List.take_append_drop]

theorem payload_le (available : List UInt8) : payload available ≤ available.length := by
  cases h : newline available with
  | none => exact (newline_eq_none h).2.le
  | some position =>
    obtain ⟨-, hpayload, -, hlt, -⟩ := newline_eq_some h
    omega

theorem consume_buffer (amount : ℕ) (bytes : Buffer) (buffers : List Buffer) :
    ∃ rest, consume amount ((bytes :: buffers).map .buffer) = rest.map .buffer ∧
      stream rest = bytes.1.drop amount ++ stream buffers := by
  by_cases h : bytes.1.drop amount = []
  · refine ⟨buffers, ?_, ?_⟩
    · simp [consume, h]
    · rw [h, List.nil_append]
  · refine ⟨⟨bytes.1.drop amount, h⟩ :: buffers, ?_, rfl⟩
    simp [consume, h]

theorem readLoop_pass (input : BufRead) (state : LineState) :
    readLoop input state = (do
      let available ← fillBuf input
      if available = [] then some (state, input)
      else if (newline available).isSome then
        some (state.retain available, consume (consumed available) input)
      else readLoop (consume (consumed available) input) (state.retain available)) := by
  match input with
  | [] => rfl
  | .failed :: input => rfl
  | .buffer available :: input =>
    have hfilled : fillBuf (.buffer available :: input) = some available.1 := rfl
    rw [hfilled, Option.bind_eq_bind, Option.bind_some, if_neg available.2]
    cases hline : newline available.1 with
    | some position => simp only [readLoop, hline, Option.isSome_some, if_true]
    | none =>
      -- without a line feed the whole buffer is consumed
      have hdrop : available.1.drop (consumed available.1) = [] := by
        unfold consumed
        rw [hline]
        exact List.drop_length
      have hconsume : consume (consumed available.1) (.buffer available :: input) = input :=
        dif_neg (not_not_intro hdrop)
      rw [hconsume]
      simp only [readLoop, hline]
      rfl

theorem readLoop_eq (buffers : List Buffer) {state : LineState} {seen : List UInt8}
    (h : state.Retains seen) :
    ∃ state' rest, readLoop (buffers.map .buffer) state = some (state', rest.map .buffer) ∧
      state'.Retains (seen ++ firstLine lineFeed (stream buffers)) ∧
      (state'.readAny = true ↔ state.readAny = true ∨ stream buffers ≠ []) ∧
      stream rest = behindLine lineFeed (stream buffers) := by
  -- over the buffers: one without a line feed is consumed whole, the first with one ends the line
  induction buffers generalizing state seen with
  | nil =>
    refine ⟨state, [], rfl, ?_, ?_, rfl⟩
    · show state.Retains (seen ++ [])
      rw [List.append_nil]
      exact h
    · simp [stream]
  | cons available buffers ih =>
    have hstream : stream (available :: buffers) = available.1 ++ stream buffers := rfl
    have hne : stream (available :: buffers) ≠ [] := by
      rw [hstream]
      intro hempty
      exact available.2 (List.append_eq_nil_iff.1 hempty).1
    have hany : (state.retain available.1).readAny = true := by
      unfold LineState.retain
      split <;> rfl
    have hretains := h.retain available.1 (payload_le available.1)
    cases hline : newline available.1 with
    | none =>
      obtain ⟨hfree, hpayload⟩ := newline_eq_none hline
      rw [hpayload, List.take_length] at hretains
      obtain ⟨state', rest, hloop, hstate, hread, hrest⟩ := ih hretains
      refine ⟨state', rest, ?_, ?_, ?_, ?_⟩
      · simp only [List.map_cons, readLoop, hline, Option.isSome_none, Bool.false_eq_true,
          if_false]
        exact hloop
      · rw [hstream, firstLine_append_of_forall hfree, ← List.append_assoc]
        exact hstate
      · exact iff_of_true (hread.2 (.inl hany)) (.inr hne)
      · rw [hstream, behindLine_append_of_forall hfree]
        exact hrest
    | some position =>
      obtain ⟨hfree, hpayload, hconsumed, -, hsplit⟩ := newline_eq_some hline
      rw [hpayload] at hretains
      obtain ⟨rest, hconsume, hrest⟩ := consume_buffer (position + 1) available buffers
      have hcut : stream (available :: buffers) = available.1.take position ++
          lineFeed :: (available.1.drop (position + 1) ++ stream buffers) := by
        rw [hstream, ← List.cons_append, ← List.append_assoc, ← hsplit]
      refine ⟨state.retain available.1, rest, ?_, ?_, iff_of_true hany (.inr hne), ?_⟩
      · simp only [List.map_cons, readLoop, hline, Option.isSome_some, if_true, hconsumed]
        rw [← List.map_cons, hconsume]
      · rw [hcut, firstLine_append_cons hfree]
        exact hretains
      · rw [hcut, behindLine_append_cons hfree]
        exact hrest

theorem readInteractiveLine_eq (buffers : List Buffer) (line : List UInt8) :
    ∃ line' rest, readInteractiveLine (buffers.map .buffer) line =
        some (splitAnswer (stream buffers) 0, line', rest.map .buffer) ∧
      line'.length ≤ maxInteractiveCommandBytes + 1 ∧
      stream rest = behindLine lineFeed (stream buffers) := by
  obtain ⟨state, rest, hloop, hretains, hread, hrest⟩ := readLoop_eq buffers retains_start
  have hlength := hretains.length_le
  obtain ⟨hline, hexceeded⟩ := hretains
  rw [List.nil_append] at hline hexceeded
  unfold readInteractiveLine
  simp only [hloop, Option.bind_eq_bind, Option.bind_some]
  by_cases hempty : stream buffers = []
  · have hany : state.readAny = false := by
      rw [← Bool.not_eq_true, hread, hempty]
      simp
    rw [if_pos hany, hempty]
    exact ⟨state.line, rest, rfl, hlength, by rw [hrest, hempty]⟩
  · have hany : ¬state.readAny = false := by
      rw [Bool.not_eq_false, hread]
      exact .inr hempty
    have hanswer : splitAnswer (stream buffers) 0 =
        answer (firstLine lineFeed (stream buffers)) := by
      unfold splitAnswer
      rw [lines_of_ne_nil hempty]
      rfl
    rw [if_neg hany, hanswer]
    unfold answer
    by_cases hlong : state.exceededLimit = true
    · rw [if_pos hlong, if_pos (hexceeded.1 hlong)]
      exact ⟨state.line, rest, rfl, hlength, hrest⟩
    · have hshort := hlong
      rw [hexceeded] at hshort
      have hwhole : state.line = firstLine lineFeed (stream buffers) := by
        rw [hline]
        exact List.take_of_length_le (by omega)
      have hpop : (popCarriageReturn state.line).length ≤ maxInteractiveCommandBytes + 1 := by
        unfold popCarriageReturn
        split
        · rw [List.length_dropLast]
          omega
        · exact hlength
      rw [if_neg hlong, if_neg hshort, ← hwhole]
      cases fromUtf8 (popCarriageReturn state.line) with
      | none => exact ⟨_, rest, rfl, hpop, hrest⟩
      | some text => exact ⟨_, rest, rfl, hpop, hrest⟩

theorem splitAnswer_succ (stream : List UInt8) (call : ℕ) :
    splitAnswer stream (call + 1) = splitAnswer (behindLine lineFeed stream) call := by
  unfold splitAnswer
  by_cases h : stream = []
  · rw [h]
    rfl
  · rw [lines_of_ne_nil h, List.getElem?_cons_succ]

theorem readInteractiveLines_eq (calls : ℕ) (buffers : List Buffer) (line : List UInt8) :
    readInteractiveLines calls (buffers.map .buffer) line =
      some ((List.range calls).map (splitAnswer (stream buffers))) := by
  induction calls generalizing buffers line with
  | zero => rfl
  | succ calls ih =>
    obtain ⟨line', rest, hcall, -, hrest⟩ := readInteractiveLine_eq buffers line
    have hbehind : splitAnswer (stream rest) =
        splitAnswer (stream buffers) ∘ Nat.succ := by
      funext call
      rw [hrest]
      exact (splitAnswer_succ (stream buffers) call).symm
    unfold readInteractiveLines
    simp only [hcall, Option.bind_eq_bind, Option.bind_some]
    rw [ih rest line', Option.bind_some, hbehind, List.range_succ_eq_map, List.map_cons,
      List.map_map]

theorem retain_length_le {state : LineState} (available : List UInt8)
    (h : state.line.length ≤ maxInteractiveCommandBytes + 1) :
    (state.retain available).line.length ≤ maxInteractiveCommandBytes + 1 := by
  unfold LineState.retain
  split
  · exact h
  · simp only [List.length_append, List.length_take]
    omega

theorem answer_eq_too_long {line : List UInt8} :
    answer line = .invalid lineTooLong ↔ maxInteractiveCommandBytes < line.length := by
  have htexts : lineNotUtf8 ≠ lineTooLong := by decide
  unfold answer
  split
  · next h => exact iff_of_true rfl h
  · next h =>
    cases fromUtf8 (popCarriageReturn line) with
    | none => simpa [htexts] using h
    | some text => simpa using h

theorem answer_ne_eof (line : List UInt8) : answer line ≠ .eof := by
  unfold answer
  split
  · nofun
  · cases fromUtf8 (popCarriageReturn line) <;> nofun

theorem splitAnswer_first {stream : List UInt8} (h : stream ≠ []) :
    splitAnswer stream 0 = answer (firstLine lineFeed stream) := by
  unfold splitAnswer
  rw [lines_of_ne_nil h]
  rfl

/-- Calls answer the lines of the stream, however it is split into buffers. -/
theorem line_reading_ignores_buffering :
    (∀ (buffers : List Buffer) line calls,
      readInteractiveLines calls (buffers.map .buffer) line =
        some ((List.range calls).map (splitAnswer (stream buffers)))) ∧
    (∀ (buffers : List Buffer) line, ∃ result line' rest,
      readInteractiveLine (buffers.map .buffer) line = some (result, line', rest.map .buffer) ∧
      line'.length ≤ maxInteractiveCommandBytes + 1 ∧
      (result = .eof ↔ stream buffers = []) ∧
      (stream buffers = [] → stream rest = []) ∧
      (∀ first behind, lineFeed ∉ first → stream buffers = first ++ lineFeed :: behind →
        result = answer first ∧ stream rest = behind) ∧
      (stream buffers ≠ [] → lineFeed ∉ stream buffers →
        result = answer (stream buffers) ∧ stream rest = [])) ∧
    (∀ line, answer line = .invalid lineTooLong ↔ maxInteractiveCommandBytes < line.length) ∧
    (∀ line, line.length ≤ maxInteractiveCommandBytes →
      answer line = ((fromUtf8 (popCarriageReturn line)).elim (.invalid lineNotUtf8) .command)) ∧
    ∀ (state : LineState) available, state.line.length ≤ maxInteractiveCommandBytes + 1 →
      (state.retain available).line.length ≤ maxInteractiveCommandBytes + 1 := by
  refine ⟨fun buffers line calls => readInteractiveLines_eq calls buffers line, ?_,
    fun line => answer_eq_too_long, ?_, fun state available h => retain_length_le available h⟩
  · intro buffers line
    obtain ⟨line', rest, hcall, hlength, hrest⟩ := readInteractiveLine_eq buffers line
    refine ⟨_, line', rest, hcall, hlength, ?_, ?_, ?_, ?_⟩
    · constructor
      · intro heof
        by_contra hne
        rw [splitAnswer_first hne] at heof
        exact answer_ne_eof _ heof
      · intro hempty
        rw [hempty]
        rfl
    · intro hempty
      rw [hrest, hempty]
      rfl
    · intro first behind hfree heq
      have hne : stream buffers ≠ [] := by
        rw [heq]
        simp
      rw [hrest, splitAnswer_first hne, heq, firstLine_append_cons hfree,
        behindLine_append_cons hfree]
      exact ⟨rfl, rfl⟩
    -- the last line need not be ended
    · intro hne hfree
      have hfirst := firstLine_append_of_forall hfree []
      have hbehind := behindLine_append_of_forall hfree []
      rw [List.append_nil] at hfirst hbehind
      rw [hrest, splitAnswer_first hne, hfirst, hbehind]
      exact ⟨congrArg answer (List.append_nil _), rfl⟩
  · intro line hshort
    unfold answer
    rw [if_neg (not_lt.2 hshort)]
    cases fromUtf8 (popCarriageReturn line) with
    | none => rfl
    | some text => rfl

/-- The line feed comes in a later buffer than its carriage return. -/
theorem split_line_reading_ignores_buffering :
    readInteractiveLines 2
      ([⟨[0x75], by decide⟩, ⟨[0x70, 0x0d], by decide⟩, ⟨[0x0a], by decide⟩].map .buffer) [] =
        some [answer [0x75, 0x70, 0x0d], .eof] ∧
      (⟨[], false, false⟩ : LineState).line.length ≤ maxInteractiveCommandBytes + 1 ∧
      (LineState.retain ⟨[], false, false⟩ [0x75]).line.length ≤
        maxInteractiveCommandBytes + 1 := by
  obtain ⟨hcalls, -, -, -, hretained⟩ := line_reading_ignores_buffering
  refine ⟨?_, Nat.zero_le _, hretained _ _ (Nat.zero_le _)⟩
  have h := hcalls [⟨[0x75], by decide⟩, ⟨[0x70, 0x0d], by decide⟩, ⟨[0x0a], by decide⟩] [] 2
  exact h

end InteractiveInput
end DeltaFunnel
