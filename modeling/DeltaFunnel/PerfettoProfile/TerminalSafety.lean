import Mathlib.Tactic.SplitIfs
import DeltaFunnel.Encoding.PrefixCode
import DeltaFunnel.PerfettoProfile.TerminalText

/-! No text of a profile gets out of its line or its quotes in a terminal view. -/

namespace DeltaFunnel
open Collections

/-- A text that a terminal shows as it is, on one line. -/
def Safe (text : String) : Prop := ∀ c ∈ text.toList, isUnsafeTerminalCharacter c = false

instance (text : String) : Decidable (Safe text) :=
  List.decidableBAll (fun c => isUnsafeTerminalCharacter c = false) text.toList

@[simp] theorem safe_append {first second : String} :
    Safe (first ++ second) ↔ Safe first ∧ Safe second := by
  unfold Safe
  rw [String.toList_append]
  exact List.forall_mem_append

theorem safe_of_isDigit {c : Char} (h : c.isDigit) : isUnsafeTerminalCharacter c = false := by
  have hbounds : 48 ≤ c.toNat ∧ c.toNat ≤ 57 := by
    simp only [Char.isDigit, Bool.and_eq_true, decide_eq_true_eq] at h
    exact ⟨h.1, h.2⟩
  unfold isUnsafeTerminalCharacter
  simp only [Bool.or_eq_false_iff, Bool.and_eq_false_iff, decide_eq_false_iff_not]
  omega

theorem safe_digits (n : ℕ) : ∀ c ∈ Nat.toDigits 10 n, isUnsafeTerminalCharacter c = false := by
  intro c hc
  exact safe_of_isDigit (Nat.isDigit_of_mem_toDigits (by decide) (by decide) hc)

@[simp] theorem safe_toString_nat (n : ℕ) : Safe (toString n) := by
  intro c hc
  exact safe_digits n c (by simpa [Nat.repr] using hc)

@[simp] theorem safe_toString_int (n : ℤ) : Safe (toString n) := by
  cases n with
  | ofNat n => exact safe_toString_nat n
  | negSucc n =>
    have hsign : Safe "-" := by decide
    exact safe_append.2 ⟨hsign, safe_toString_nat (n + 1)⟩

theorem safe_twoDigits (n : ℕ) :
    ∀ c ∈ Decimal.twoDigits n, isUnsafeTerminalCharacter c = false := by
  have hdigit : ∀ d < 10, isUnsafeTerminalCharacter (Nat.digitChar d) = false := by decide
  intro c hc
  simp only [Decimal.twoDigits, List.mem_cons, List.not_mem_nil, or_false] at hc
  rcases hc with rfl | rfl
  · exact hdigit _ (Nat.mod_lt _ (by decide))
  · exact hdigit _ (Nat.mod_lt _ (by decide))

theorem safe_formatFixed2 (numerator denominator : ℕ) :
    ∀ c ∈ Decimal.formatFixed2 numerator denominator, isUnsafeTerminalCharacter c = false := by
  have hdot : isUnsafeTerminalCharacter '.' = false := by decide
  exact List.forall_mem_append.2
    ⟨safe_digits _, List.forall_mem_cons.2 ⟨hdot, safe_twoDigits _⟩⟩

theorem safe_formatPercent (count total : ℤ) :
    ∀ c ∈ Decimal.formatPercent count total, isUnsafeTerminalCharacter c = false := by
  have hsign : isUnsafeTerminalCharacter '-' = false := by decide
  intro c hc
  rcases List.mem_append.1 hc with hc | hc
  · split_ifs at hc
    · rw [List.mem_singleton.1 hc]
      exact hsign
    · exact absurd hc List.not_mem_nil
  · exact safe_formatFixed2 _ _ c hc

@[simp] theorem safe_samplePercent (sampleCount contextSampleCount : ℤ) :
    Safe (samplePercent sampleCount contextSampleCount) := by
  unfold samplePercent
  split_ifs
  · apply safe_append.2
    constructor
    · unfold Safe
      rw [String.toList_ofList]
      exact safe_formatPercent sampleCount contextSampleCount
    · decide
  · decide

@[simp] theorem safe_boolText (value : Bool) : Safe (boolText value) := by
  cases value with
  | false => decide
  | true => decide

@[simp] theorem safe_asStr (sort : InspectSort) : Safe sort.asStr := by
  cases sort with
  | duration => decide
  | inclusiveCpu => decide
  | selfCpu => decide
  | name => decide

/-- The hexadecimal digits of an escape, in upper case. -/
def upperHex (n : ℕ) : List Char := (hexDigits 6 n).map Char.toUpper

theorem mem_hexDigits {fuel n : ℕ} {c : Char} (h : c ∈ hexDigits fuel n) :
    ∃ d < 16, c = hexDigit d := by
  induction fuel generalizing n with
  | zero => exact absurd h List.not_mem_nil
  | succ fuel ih =>
    rw [hexDigits] at h
    split_ifs at h with hn
    · exact ⟨n, hn, List.mem_singleton.1 h⟩
    · rcases List.mem_append.1 h with h | h
      · exact ih h
      · exact ⟨n % 16, Nat.mod_lt n (by decide), List.mem_singleton.1 h⟩

theorem mem_upperHex {n : ℕ} {c : Char} (h : c ∈ upperHex n) :
    ∃ d < 16, c = (hexDigit d).toUpper := by
  obtain ⟨digit, hdigit, rfl⟩ := List.mem_map.1 h
  obtain ⟨d, hd, rfl⟩ := mem_hexDigits hdigit
  exact ⟨d, hd, rfl⟩

theorem safe_upperHex (n : ℕ) : ∀ c ∈ upperHex n, isUnsafeTerminalCharacter c = false := by
  have hdigit : ∀ d < 16, isUnsafeTerminalCharacter (hexDigit d).toUpper = false := by decide
  intro c hc
  obtain ⟨d, hd, rfl⟩ := mem_upperHex hc
  exact hdigit d hd

theorem terminalChar_cases (c : Char) :
    (c = '\\' ∧ terminalChar c = ['\\', '\\']) ∨ (c = '"' ∧ terminalChar c = ['\\', '"']) ∨
      terminalChar c = '\\' :: 'u' :: '\x7b' :: (upperHex c.toNat ++ ['\x7d']) ∨
      (c ≠ '\\' ∧ c ≠ '"' ∧ isUnsafeTerminalCharacter c = false ∧ terminalChar c = [c]) := by
  unfold terminalChar upperHex
  by_cases hslash : c = '\\'
  · simp [hslash]
  · by_cases hquote : c = '"'
    · simp [hquote]
    · by_cases hunsafe : isUnsafeTerminalCharacter c = true
      · simp [hslash, hquote, hunsafe]
      · simp [hslash, hquote, hunsafe]

theorem safe_terminalChar (c : Char) :
    ∀ d ∈ terminalChar c, isUnsafeTerminalCharacter d = false := by
  rcases terminalChar_cases c with ⟨-, h⟩ | ⟨-, h⟩ | h | ⟨-, -, hsafe, h⟩
  · rw [h]
    exact List.forall_mem_cons.2 ⟨by decide, List.forall_mem_singleton.2 (by decide)⟩
  · rw [h]
    exact List.forall_mem_cons.2 ⟨by decide, List.forall_mem_singleton.2 (by decide)⟩
  · have hclose : ∀ d ∈ ['\x7d'], isUnsafeTerminalCharacter d = false :=
      List.forall_mem_singleton.2 (by decide)
    have hrest := List.forall_mem_append.2 ⟨safe_upperHex c.toNat, hclose⟩
    rw [h]
    exact List.forall_mem_cons.2 ⟨by decide, List.forall_mem_cons.2 ⟨by decide,
      List.forall_mem_cons.2 ⟨by decide, hrest⟩⟩⟩
  · rw [h]
    exact List.forall_mem_singleton.2 hsafe

@[simp] theorem safe_terminalText (value : String) : Safe (terminalText value) := by
  unfold Safe terminalText
  rw [String.toList_ofList]
  intro d hd
  obtain ⟨c, -, hc⟩ := List.mem_flatMap.1 hd
  exact safe_terminalChar c d hc

@[simp] theorem safe_quotedTerminalText (value : String) : Safe (quotedTerminalText value) := by
  have hquote : Safe "\"" := by decide
  exact safe_append.2 ⟨safe_append.2 ⟨hquote, safe_terminalText value⟩, hquote⟩

@[simp] theorem safe_filterLabel (filter : Option String) : Safe (filterLabel filter) := by
  cases filter with
  | none => decide
  | some filter => exact safe_quotedTerminalText filter

@[simp] theorem safe_optionalText (text : Option String) : Safe (optionalText text) := by
  cases text with
  | none => decide
  | some text => exact safe_quotedTerminalText text

def hexValue (digits : List Char) : ℕ :=
  digits.foldl (fun value c =>
    16 * value + if c.isDigit then c.toNat - '0'.toNat else c.toNat - 'A'.toNat + 10) 0

/-- The first character of an escaped text, with what follows it. -/
def nextTerminalChar : List Char → Option (Char × List Char)
  | '\\' :: '\\' :: rest => some ('\\', rest)
  | '\\' :: '"' :: rest => some ('"', rest)
  | '\\' :: 'u' :: '\x7b' :: rest =>
    some (Char.ofNat (hexValue (rest.takeWhile (· ≠ '\x7d'))),
      (rest.dropWhile (· ≠ '\x7d')).tail)
  | '\\' :: _ => none
  | c :: rest => some (c, rest)
  | [] => none

/-- Reads an escaped text up to the quote that ends it. -/
def decodeQuoted (input : List Char) : Option (List Char × List Char) :=
  PrefixCode.decodeUntil nextTerminalChar '"' input.length input

/-- Whether a quote stands without a backslash of its own before it. -/
def hasUnescapedQuote : List Char → Bool
  | '\\' :: _ :: rest => hasUnescapedQuote rest
  | '"' :: _ => true
  | _ :: rest => hasUnescapedQuote rest
  | [] => false

theorem hexValue_append (digits : List Char) {d : ℕ} (hd : d < 16) :
    hexValue (digits ++ [(hexDigit d).toUpper]) = 16 * hexValue digits + d := by
  have hdigit : ∀ d < 16, (if (hexDigit d).toUpper.isDigit then
      (hexDigit d).toUpper.toNat - '0'.toNat
    else (hexDigit d).toUpper.toNat - 'A'.toNat + 10) = d := by decide
  unfold hexValue
  rw [List.foldl_append, List.foldl_cons, List.foldl_nil, hdigit d hd]

theorem hexValue_hexDigits {fuel n : ℕ} (h : n < 16 ^ fuel) :
    hexValue ((hexDigits fuel n).map Char.toUpper) = n := by
  induction fuel generalizing n with
  | zero =>
    have hzero : n = 0 := by simpa using h
    rw [hzero]
    decide
  | succ fuel ih =>
    rw [hexDigits]
    split_ifs with hn
    · have hone := hexValue_append [] hn
      simpa [hexValue] using hone
    · have hdiv : n / 16 < 16 ^ fuel := by
        apply Nat.div_lt_of_lt_mul
        rw [Nat.pow_succ] at h
        omega
      rw [List.map_append, List.map_singleton, hexValue_append _ (Nat.mod_lt n (by decide)),
        ih hdiv]
      exact Nat.div_add_mod n 16

theorem ofNat_hexValue_upperHex (c : Char) : Char.ofNat (hexValue (upperHex c.toNat)) = c := by
  have hlt : c.toNat < 16 ^ 6 := by
    have hvalid := c.valid
    rcases hvalid with hlow | hhigh
    · have hc : c.toNat < 0xd800 := hlow
      omega
    · have hc : c.toNat < 0x110000 := hhigh.2
      omega
  rw [upperHex, hexValue_hexDigits hlt, Char.ofNat_toNat]

theorem upperHex_ne_close {n : ℕ} : ∀ c ∈ upperHex n, decide (c ≠ '\x7d') = true := by
  have hdigit : ∀ d < 16, decide ((hexDigit d).toUpper ≠ '\x7d') = true := by decide
  intro c hc
  obtain ⟨d, hd, rfl⟩ := mem_upperHex hc
  exact hdigit d hd

theorem readable_terminalChar : PrefixCode.Readable terminalChar nextTerminalChar '"' where
  next_append := by
    intro c rest
    rcases terminalChar_cases c with ⟨rfl, h⟩ | ⟨rfl, h⟩ | h | ⟨hslash, -, -, h⟩
    · rw [h]
      rfl
    · rw [h]
      rfl
    · -- the closing brace is the first one after the digits
      have htake : (upperHex c.toNat ++ '\x7d' :: rest).takeWhile (· ≠ '\x7d') =
          upperHex c.toNat := by
        rw [List.takeWhile_append_of_pos upperHex_ne_close]
        simp
      have hdrop : (upperHex c.toNat ++ '\x7d' :: rest).dropWhile (· ≠ '\x7d') =
          '\x7d' :: rest := by
        rw [List.dropWhile_append_of_pos upperHex_ne_close]
        simp
      have hshape : terminalChar c ++ rest =
          '\\' :: 'u' :: '\x7b' :: (upperHex c.toNat ++ '\x7d' :: rest) := by
        rw [h]
        simp
      rw [hshape, nextTerminalChar, htake, hdrop, ofNat_hexValue_upperHex, List.tail_cons]
    · rw [h, List.singleton_append, nextTerminalChar.eq_def]
      split <;> simp_all
  nonempty := by
    intro c
    rcases terminalChar_cases c with ⟨-, h⟩ | ⟨-, h⟩ | h | ⟨-, -, -, h⟩ <;> rw [h] <;> simp
  head_ne := by
    intro c
    rcases terminalChar_cases c with ⟨-, h⟩ | ⟨-, h⟩ | h | ⟨-, hquote, -, h⟩
    · rw [h]
      decide
    · rw [h]
      decide
    · rw [h]
      simp
    · rw [h]
      simpa using hquote

theorem toList_terminalText (value : String) :
    (terminalText value).toList = value.toList.flatMap terminalChar :=
  String.toList_ofList

theorem decodeQuoted_terminalText (value : String) (rest : List Char) :
    decodeQuoted ((terminalText value).toList ++ '"' :: rest) = some (value.toList, rest) := by
  have hlength := PrefixCode.length_le_flatMap readable_terminalChar value.toList
  rw [toList_terminalText]
  apply PrefixCode.decodeUntil_flatMap readable_terminalChar
  rw [List.length_append, List.length_cons]
  omega

theorem terminalText_injective : Function.Injective terminalText := by
  intro first second h
  apply String.toList_injective
  apply PrefixCode.flatMap_injective readable_terminalChar
  show first.toList.flatMap terminalChar = second.toList.flatMap terminalChar
  rw [← toList_terminalText, h, toList_terminalText]

theorem hasUnescapedQuote_of_ne {text : List Char} (h : ∀ c ∈ text, c ≠ '\\' ∧ c ≠ '"')
    (rest : List Char) : hasUnescapedQuote (text ++ rest) = hasUnescapedQuote rest := by
  induction text with
  | nil => rfl
  | cons c text ih =>
    obtain ⟨⟨hslash, hquote⟩, htext⟩ := List.forall_mem_cons.1 h
    rw [List.cons_append, hasUnescapedQuote.eq_def]
    split <;> simp_all

theorem hasUnescapedQuote_terminalChar (c : Char) (rest : List Char) :
    hasUnescapedQuote (terminalChar c ++ rest) = hasUnescapedQuote rest := by
  rcases terminalChar_cases c with ⟨-, h⟩ | ⟨-, h⟩ | h | ⟨hslash, hquote, -, h⟩
  · rw [h]
    rfl
  · rw [h]
    rfl
  · -- the backslash covers the letter after it; the others are plain
    have hdigit : ∀ d < 16, (hexDigit d).toUpper ≠ '\\' ∧ (hexDigit d).toUpper ≠ '"' := by decide
    have hplain : ∀ d ∈ '\x7b' :: (upperHex c.toNat ++ ['\x7d']), d ≠ '\\' ∧ d ≠ '"' := by
      intro d hd
      rcases List.mem_cons.1 hd with rfl | hd
      · decide
      · rcases List.mem_append.1 hd with hd | hd
        · obtain ⟨digit, hlt, rfl⟩ := mem_upperHex hd
          exact hdigit digit hlt
        · rw [List.mem_singleton.1 hd]
          decide
    rw [h]
    exact hasUnescapedQuote_of_ne hplain rest
  · rw [h]
    exact hasUnescapedQuote_of_ne (List.forall_mem_singleton.2 ⟨hslash, hquote⟩) rest

theorem hasUnescapedQuote_terminalText (value : String) :
    hasUnescapedQuote (terminalText value).toList = false := by
  rw [toList_terminalText]
  induction value.toList with
  | nil => rfl
  | cons c value ih => rw [List.flatMap_cons, hasUnescapedQuote_terminalChar, ih]

theorem safe_functionRow (depth : ℕ) (index : TerminalProfileIndex) (function : RankedFunction)
    (contextSampleCount : ℤ) : Safe (functionRow depth index function contextSampleCount) := by
  unfold functionRow
  cases function.lineNumber <;>
    simp only [safe_append, safe_toString_nat, safe_toString_int, safe_quotedTerminalText,
      safe_optionalText, safe_samplePercent, and_true] <;>
    and_intros <;> decide

theorem safe_semanticRow (depth : ℕ) (semantic : RankedSemantic)
    (operationDurationNs : Option ℤ) :
    Safe (semanticRow depth semantic operationDurationNs) := by
  unfold semanticRow
  cases semantic.durationNs <;> cases operationDurationNs <;>
    simp only [safe_append, safe_toString_nat, safe_toString_int, safe_quotedTerminalText,
      safe_terminalText, safe_boolText, safe_optionalText, safe_samplePercent, and_true] <;>
    and_intros <;> decide

def SafeLines (lines : List String) : Prop := ∀ line ∈ lines, Safe line

@[simp] theorem safeLines_nil : SafeLines [] := fun _ h => absurd h List.not_mem_nil

@[simp] theorem safeLines_cons {line : String} {lines : List String} :
    SafeLines (line :: lines) ↔ Safe line ∧ SafeLines lines := List.forall_mem_cons

@[simp] theorem safeLines_append {first second : List String} :
    SafeLines (first ++ second) ↔ SafeLines first ∧ SafeLines second := List.forall_mem_append

theorem safeLines_map {α : Type} {line : α → String} (h : ∀ a, Safe (line a)) (rows : List α) :
    SafeLines (rows.map line) := by
  intro text htext
  obtain ⟨row, -, rfl⟩ := List.mem_map.1 htext
  exact h row

theorem safeLines_captureHealthHeader (metadata : RankedProfileMetadata) :
    SafeLines (captureHealthHeader metadata) := by
  unfold captureHealthHeader
  split_ifs
  · exact safeLines_nil
  · simp only [safeLines_cons, safeLines_nil, safe_append, safe_toString_int, safe_boolText,
      and_true]
    and_intros <;> decide

namespace TerminalProfileIndex

theorem safeLines_sampleHeader (index : TerminalProfileIndex) : SafeLines index.sampleHeader := by
  unfold sampleHeader
  cases index.fullSymbols <;> cases index.allFrames <;>
    simp only [safeLines_cons, safeLines_nil, safe_append, safe_toString_int, safe_toString_nat,
      and_true] <;>
    and_intros <;> decide

theorem safeLines_semanticHeader (index : TerminalProfileIndex) (selected : Option ℤ)
    (sort : InspectSort) (filter : Option String) (maxDepth : ℕ) (view : SemanticView) :
    SafeLines (index.semanticHeader selected sort filter maxDepth view) := by
  unfold semanticHeader
  cases selected <;>
    simp only [safeLines_append, safeLines_cons, safeLines_nil, safe_append, safe_toString_nat,
      safe_toString_int, safe_asStr, safe_filterLabel, safe_boolText, safe_terminalText,
      safeLines_captureHealthHeader, safeLines_sampleHeader, and_true] <;>
    and_intros <;> decide

theorem safe_transitionLine (semantic : RankedSemantic) (sort : InspectSort)
    (view : SemanticView) : Safe (transitionLine semantic sort view) := by
  unfold transitionLine
  simp only [safe_append, safe_toString_nat, safe_toString_int, safe_asStr,
    safe_boolText, and_true]
  and_intros <;> decide

theorem safeLines_functionHeader (index : TerminalProfileIndex) (semanticId functionId : ℤ)
    (sort : InspectSort) (filter : Option String) (maxDepth : ℕ) (view : FunctionView) :
    SafeLines (index.functionHeader semanticId functionId sort filter maxDepth view) := by
  unfold functionHeader
  simp only [safeLines_append, safeLines_cons, safeLines_nil, safe_append,
    safe_toString_nat, safe_toString_int, safe_asStr, safe_filterLabel, safe_boolText,
    safe_terminalText, safeLines_captureHealthHeader, safeLines_sampleHeader, and_true]
  and_intros <;> decide

theorem safeLines_semanticLines (index : TerminalProfileIndex) (selected : Option ℤ)
    (sort : InspectSort) (filter : Option String) (maxDepth : ℕ) (view : SemanticView) :
    SafeLines (index.semanticLines selected sort filter maxDepth view) := by
  have hheader := index.safeLines_semanticHeader selected sort filter maxDepth view
  have hrows : SafeLines (view.semanticRows.map fun row => semanticRow row.1 row.2
      (index.operationDurations.get? row.2.operationId).join) :=
    safeLines_map (fun row => safe_semanticRow _ _ _) _
  unfold semanticLines
  apply safeLines_append.2
  constructor
  · exact safeLines_append.2 ⟨hheader, hrows⟩
  · cases view.selected with
    | none => exact safeLines_nil
    | some semantic =>
      have hfunctions : SafeLines (view.functionRows.map fun function =>
          functionRow 1 index function semantic.directSampleCount) :=
        safeLines_map (fun function => safe_functionRow _ _ _ _) _
      exact safeLines_cons.2 ⟨safe_transitionLine semantic sort view, hfunctions⟩

theorem safeLines_functionLines (index : TerminalProfileIndex) (semanticId functionId : ℤ)
    (sort : InspectSort) (filter : Option String) (maxDepth : ℕ) (view : FunctionView) :
    SafeLines (index.functionLines semanticId functionId sort filter maxDepth view) := by
  apply safeLines_append.2
  constructor
  · exact index.safeLines_functionHeader semanticId functionId sort filter maxDepth view
  · exact safeLines_map (fun row => safe_functionRow _ _ _ _) _

def headerLineCount (selection : InspectSelection) (healthy : Bool) : ℕ :=
  let health := if healthy then 0 else 17
  match selection with
  | .root => 17 + health
  | .semantic _ => 18 + health
  | .function _ _ => 17 + health

def shownRows (fuel : ℕ) (index : TerminalProfileIndex) (selection : InspectSelection)
    (sort : InspectSort) (filter : Option String) (limit maxDepth : ℕ) :
    Option (Except TerminalInspectError ℕ) :=
  match selection with
  | .root => (index.semanticView fuel none sort filter limit maxDepth).map (·.map (·.shown))
  | .semantic semanticId =>
    (index.semanticView fuel (some semanticId) sort filter limit maxDepth).map (·.map (·.shown))
  | .function semanticId functionId =>
    (index.functionView fuel semanticId functionId sort filter limit maxDepth).map
      (·.map (·.rows.length))

theorem length_captureHealthHeader (metadata : RankedProfileMetadata) :
    (captureHealthHeader metadata).length = if captureHealthy metadata then 0 else 17 := by
  unfold captureHealthHeader
  split_ifs <;> rfl

theorem length_semanticHeader (index : TerminalProfileIndex) (selected : Option ℤ)
    (sort : InspectSort) (filter : Option String) (maxDepth : ℕ) (view : SemanticView) :
    (index.semanticHeader selected sort filter maxDepth view).length =
      17 + if captureHealthy index.document.metadata then 0 else 17 := by
  simp only [semanticHeader, sampleHeader, List.length_append, List.length_cons, List.length_nil,
    length_captureHealthHeader]
  omega

theorem length_functionHeader (index : TerminalProfileIndex) (semanticId functionId : ℤ)
    (sort : InspectSort) (filter : Option String) (maxDepth : ℕ) (view : FunctionView) :
    (index.functionHeader semanticId functionId sort filter maxDepth view).length =
      17 + if captureHealthy index.document.metadata then 0 else 17 := by
  simp only [functionHeader, sampleHeader, List.length_append, List.length_cons, List.length_nil,
    length_captureHealthHeader]
  omega

theorem toList_writeLines (lines : List String) :
    (writeLines lines).toList = lines.flatMap fun line => line.toList ++ ['\n'] := by
  unfold writeLines
  induction lines with
  | nil => rfl
  | cons line lines ih =>
    rw [List.map_cons, String.join_cons, String.toList_append, ih, List.flatMap_cons,
      String.toList_append]
    rfl

theorem renderSemanticView_spec {fuel : ℕ} {index : TerminalProfileIndex} {selected : Option ℤ}
    {sort : InspectSort} {filter : Option String} {limit maxDepth : ℕ} {text : String}
    (h : index.renderSemanticView fuel selected sort filter limit maxDepth = some (.ok text)) :
    ∃ view, index.semanticView fuel selected sort filter limit maxDepth = some (.ok view) ∧
      text = writeLines (index.semanticLines selected sort filter maxDepth view) := by
  obtain ⟨result, hview, hresult⟩ := Option.map_eq_some_iff.1 h
  cases result with
  | error error => cases hresult
  | ok view => exact ⟨view, hview, (Except.ok.inj hresult).symm⟩

theorem renderFunctionView_spec {fuel : ℕ} {index : TerminalProfileIndex}
    {semanticId functionId : ℤ} {sort : InspectSort} {filter : Option String}
    {limit maxDepth : ℕ} {text : String}
    (h : index.renderFunctionView fuel semanticId functionId sort filter limit maxDepth =
      some (.ok text)) :
    ∃ view, index.functionView fuel semanticId functionId sort filter limit maxDepth =
        some (.ok view) ∧
      text = writeLines (index.functionLines semanticId functionId sort filter maxDepth view) := by
  obtain ⟨result, hview, hresult⟩ := Option.map_eq_some_iff.1 h
  cases result with
  | error error => cases hresult
  | ok view => exact ⟨view, hview, (Except.ok.inj hresult).symm⟩

theorem functionRoots_none (index : TerminalProfileIndex) (sort : InspectSort)
    (filter : Option String) (maxDepth : ℕ) :
    index.functionRoots none sort filter maxDepth = [] := by
  have hperm := sortUnstableBy_perm (index.compareFunctions sort.forFunctions) []
  exact List.perm_nil.1 hperm

theorem semanticView_selected {fuel : ℕ} {index : TerminalProfileIndex} {selected : Option ℤ}
    {sort : InspectSort} {filter : Option String} {limit maxDepth : ℕ} {view : SemanticView}
    (h : index.semanticView fuel selected sort filter limit maxDepth = some (.ok view)) :
    index.selectedSemantic selected = .ok view.selected ∧
      view.functionRows = (index.functionRoots view.selected sort filter maxDepth).take
        (limit - view.semanticRows.length) := by
  unfold semanticView at h
  cases hselected : index.selectedSemantic selected with
  | error error =>
    rw [hselected] at h
    cases h
  | ok semantic =>
    rw [hselected] at h
    simp only [Option.bind_eq_bind, Option.bind_eq_some_iff, Option.pure_def, Option.some.injEq,
      Except.ok.injEq] at h
    obtain ⟨-, -, -, -, rfl⟩ := h
    exact ⟨rfl, rfl⟩

theorem selectedSemantic_eq_ok {index : TerminalProfileIndex} {semanticId : ℤ}
    {selected : Option RankedSemantic}
    (h : index.selectedSemantic (some semanticId) = .ok selected) :
    ∃ semantic, selected = some semantic := by
  unfold selectedSemantic at h
  cases hget : index.semantics.get? semanticId with
  | none =>
    simp only [hget] at h
    cases h
  | some semantic =>
    simp only [hget] at h
    exact ⟨semantic, (Except.ok.inj h).symm⟩

theorem render_lines {fuel : ℕ} {index : TerminalProfileIndex} {selection : InspectSelection}
    {sort : InspectSort} {filter : Option String} {limit maxDepth : ℕ} {text : String}
    (h : index.render fuel selection sort filter limit maxDepth = some (.ok text)) :
    ∃ lines rows, text.toList = lines.flatMap (fun line => line.toList ++ ['\n']) ∧
      SafeLines lines ∧
      index.shownRows fuel selection sort filter limit maxDepth = some (.ok rows) ∧
      lines.length =
        headerLineCount selection (captureHealthy index.document.metadata) + rows := by
  cases selection with
  | root =>
    obtain ⟨view, hview, rfl⟩ := renderSemanticView_spec h
    obtain ⟨hselected, hfunctions⟩ := semanticView_selected hview
    have hnone : view.selected = none := (Except.ok.inj hselected).symm
    have hempty : view.functionRows = [] := by
      rw [hfunctions, hnone, functionRoots_none, List.take_nil]
    refine ⟨_, view.shown, toList_writeLines _, index.safeLines_semanticLines _ _ _ _ _, ?_, ?_⟩
    · simp only [shownRows, hview]
      rfl
    · simp only [semanticLines, SemanticView.shown, headerLineCount, hnone, hempty,
        List.length_append, List.length_map, List.length_nil, length_semanticHeader]
      omega
  | semantic semanticId =>
    obtain ⟨view, hview, rfl⟩ := renderSemanticView_spec h
    obtain ⟨hselected, -⟩ := semanticView_selected hview
    obtain ⟨semantic, hsome⟩ := selectedSemantic_eq_ok hselected
    refine ⟨_, view.shown, toList_writeLines _, index.safeLines_semanticLines _ _ _ _ _, ?_, ?_⟩
    · simp only [shownRows, hview]
      rfl
    · simp only [semanticLines, SemanticView.shown, headerLineCount, hsome, List.length_append,
        List.length_map, List.length_cons, length_semanticHeader]
      omega
  | function semanticId functionId =>
    obtain ⟨view, hview, rfl⟩ := renderFunctionView_spec h
    refine ⟨_, view.rows.length, toList_writeLines _,
      index.safeLines_functionLines _ _ _ _ _ _, ?_, ?_⟩
    · simp only [shownRows, hview]
      rfl
    · simp only [functionLines, headerLineCount, List.length_append, List.length_map,
        length_functionHeader]

end TerminalProfileIndex

end DeltaFunnel
