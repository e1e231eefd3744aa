import DeltaFunnel.Json.Text
import DeltaFunnel.PerfettoProfile.SampleConservation
import DeltaFunnel.PerfettoProfile.TerminalSafety

/-! Profile data cannot break out of the reports it is embedded in. -/

namespace DeltaFunnel
open Collections

def htmlSafeChar (c : Char) : List Char :=
  if c = '<' then ['\\', 'u', '0', '0', '3', 'c']
  else if c = '>' then ['\\', 'u', '0', '0', '3', 'e']
  else if c = '&' then ['\\', 'u', '0', '0', '2', '6']
  else if c = '\u2028' then ['\\', 'u', '2', '0', '2', '8']
  else if c = '\u2029' then ['\\', 'u', '2', '0', '2', '9']
  else [c]

def pushHtmlSafeJson (output json : String) : String :=
  output ++ String.ofList (json.toList.flatMap htmlSafeChar)

/-- The characters that could end the script element or a script string. -/
def htmlUnsafe : List Char := ['<', '>', '&', '\u2028', '\u2029']

theorem not_htmlUnsafe_of_mem_htmlSafeChar {c d : Char} (h : d ∈ htmlSafeChar c) :
    d ∉ htmlUnsafe := by
  by_cases hc : c ∈ htmlUnsafe
  · -- each escape is plain
    have hescapes : ∀ c ∈ htmlUnsafe, ∀ d ∈ htmlSafeChar c, d ∉ htmlUnsafe := by decide
    exact hescapes c hc d h
  · simp only [htmlUnsafe, List.mem_cons, List.not_mem_nil, or_false, not_or] at hc
    obtain ⟨hlt, hgt, hamp, hline, hparagraph⟩ := hc
    rw [htmlSafeChar, if_neg hlt, if_neg hgt, if_neg hamp, if_neg hline, if_neg hparagraph] at h
    rw [List.mem_singleton.1 h]
    simp [htmlUnsafe, hlt, hgt, hamp, hline, hparagraph]

theorem textOnly_of_mem_htmlUnsafe : ∀ c ∈ htmlUnsafe, Json.TextOnly c := by
  intro c hc
  simp only [htmlUnsafe, List.mem_cons, List.not_mem_nil, or_false] at hc
  rcases hc with rfl | rfl | rfl | rfl | rfl <;> constructor <;> decide

theorem toNat_lt_of_mem_htmlUnsafe : ∀ c ∈ htmlUnsafe, c.toNat < 0x10000 := by decide

theorem foldlM_htmlSafeChar {c : Char} (hc : c ∈ htmlUnsafe) (tokens : List Json.Token)
    (units : List ℕ) : (htmlSafeChar c).foldlM Json.step ⟨tokens, .text units⟩ =
      some ⟨tokens, .text (units ++ [c.toNat])⟩ := by
  simp only [htmlUnsafe, List.mem_cons, List.not_mem_nil, or_false] at hc
  rcases hc with rfl | rfl | rfl | rfl | rfl
  · exact Json.foldlM_step_unicode 0 0 3 12 rfl rfl rfl rfl tokens units
  · exact Json.foldlM_step_unicode 0 0 3 14 rfl rfl rfl rfl tokens units
  · exact Json.foldlM_step_unicode 0 0 2 6 rfl rfl rfl rfl tokens units
  · exact Json.foldlM_step_unicode 2 0 2 8 rfl rfl rfl rfl tokens units
  · exact Json.foldlM_step_unicode 2 0 2 9 rfl rfl rfl rfl tokens units

theorem step_htmlSafeChar (scanner : Json.Scanner) (c : Char) (next : Json.Scanner)
    (h : Json.step scanner c = some next) :
    (htmlSafeChar c).foldlM Json.step scanner = some next := by
  by_cases hc : c ∈ htmlUnsafe
  · exact (textOnly_of_mem_htmlUnsafe c hc).foldlM_escaped (toNat_lt_of_mem_htmlUnsafe c hc)
      (foldlM_htmlSafeChar hc) h
  · have hsame : htmlSafeChar c = [c] := by
      simp only [htmlUnsafe, List.mem_cons, List.not_mem_nil, or_false, not_or] at hc
      obtain ⟨hlt, hgt, hamp, hline, hparagraph⟩ := hc
      rw [htmlSafeChar, if_neg hlt, if_neg hgt, if_neg hamp, if_neg hline, if_neg hparagraph]
    rw [hsame]
    simpa using h

theorem pushHtmlSafeJson_safe (json : String) :
    ∀ c ∈ (pushHtmlSafeJson "" json).toList, c ∉ htmlUnsafe := by
  intro c hc
  rw [pushHtmlSafeJson, String.empty_append, String.toList_ofList] at hc
  obtain ⟨d, -, hd⟩ := List.mem_flatMap.1 hc
  exact not_htmlUnsafe_of_mem_htmlSafeChar hd

theorem parse_pushHtmlSafeJson {json : String} {parsed : Json.Value}
    (h : Json.parse json = some parsed) :
    Json.parse (pushHtmlSafeJson "" json) = some parsed := by
  rw [pushHtmlSafeJson, String.empty_append]
  exact Json.parse_rewrite step_htmlSafeChar h

/-- Neither the HTML data nor the terminal view can be broken out of. -/
theorem reports_cannot_be_broken_out_of :
    (∀ json : String, (∀ c ∈ (pushHtmlSafeJson "" json).toList, c ∉ htmlUnsafe) ∧
      ∀ parsed, Json.parse json = some parsed →
        Json.parse (pushHtmlSafeJson "" json) = some parsed) ∧
    (∀ (fuel : ℕ) (index : TerminalProfileIndex) (selection : InspectSelection)
      (sort : InspectSort) (filter : Option String) (limit maxDepth : ℕ) (text : String),
      index.render fuel selection sort filter limit maxDepth = some (.ok text) →
        ∃ (lines : List String) (rows : ℕ), text.toList = lines.flatMap (fun line => line.toList ++ ['\n']) ∧
          (∀ line ∈ lines, ∀ c ∈ line.toList, isUnsafeTerminalCharacter c = false) ∧
          index.shownRows fuel selection sort filter limit maxDepth = some (.ok rows) ∧
          lines.length = TerminalProfileIndex.headerLineCount selection
            (captureHealthy index.document.metadata) + rows) ∧
    (∀ (value : String) (rest : List Char),
      decodeQuoted ((terminalText value).toList ++ '"' :: rest) = some (value.toList, rest)) ∧
    Function.Injective terminalText ∧
    ∀ value : String, hasUnescapedQuote (terminalText value).toList = false := by
  refine ⟨?_, ?_, decodeQuoted_terminalText, terminalText_injective,
    hasUnescapedQuote_terminalText⟩
  · intro json
    exact ⟨pushHtmlSafeJson_safe json, fun parsed h => parse_pushHtmlSafeJson h⟩
  · intro fuel index selection sort filter limit maxDepth text h
    exact TerminalProfileIndex.render_lines h

theorem planning_reports_cannot_be_broken_out_of :
    (∃ parsed, Json.parse "[\"</script>\"]" = some parsed ∧
      Json.parse (pushHtmlSafeJson "" "[\"</script>\"]") = some parsed) ∧
    ∃ index text, TerminalProfileIndex.new RankedProfileDocument.planningDocument false false =
        some index ∧
      index.render 9 .root .name (some "\n") 5 3 = some (.ok text) ∧
      ∃ lines : List String, text.toList = lines.flatMap (fun line => line.toList ++ ['\n']) ∧
        ∀ line ∈ lines, ∀ c ∈ line.toList, isUnsafeTerminalCharacter c = false := by
  have hjson : (Json.parse "[\"</script>\"]").isSome = true := by decide +kernel
  have hrender : ((TerminalProfileIndex.new RankedProfileDocument.planningDocument false
      false).bind fun index =>
        (index.render 9 .root .name (some "\n") 5 3).bind Except.toOption).isSome = true := by
    decide +kernel
  obtain ⟨hdata, hviews, -⟩ := reports_cannot_be_broken_out_of
  constructor
  · obtain ⟨parsed, hparsed⟩ := Option.isSome_iff_exists.1 hjson
    exact ⟨parsed, hparsed, (hdata _).2 parsed hparsed⟩
  · obtain ⟨text, htext⟩ := Option.isSome_iff_exists.1 hrender
    obtain ⟨index, hindex, hresult⟩ := Option.bind_eq_some_iff.1 htext
    obtain ⟨result, hresult, hok⟩ := Option.bind_eq_some_iff.1 hresult
    cases result with
    | error error => cases hok
    | ok shown =>
      obtain ⟨lines, -, hlines, hsafe, -⟩ := hviews _ _ _ _ _ _ _ _ hresult
      exact ⟨index, shown, hindex, hresult, lines, hlines, hsafe⟩

end DeltaFunnel
