import DeltaFunnel.Html.Tokens
import Mathlib.Data.Int.Notation
import Mathlib.Algebra.GroupWithZero.Nat

/-! The HTML of a table preview. -/

namespace DeltaFunnel

/-- The Arrow types that a preview aligns as numbers, and any other type by its text. -/
inductive DataType where
  | int8 | int16 | int32 | int64 | uint8 | uint16 | uint32 | uint64
  | float16 | float32 | float64
  | decimal32 (precision : ℕ) (scale : ℤ)
  | decimal64 (precision : ℕ) (scale : ℤ)
  | decimal128 (precision : ℕ) (scale : ℤ)
  | decimal256 (precision : ℕ) (scale : ℤ)
  | other (text : String)
  deriving DecidableEq

def isNumericType : DataType → Bool
  | .other _ => false
  | _ => true

structure PreviewField where
  name : String
  dataType : DataType
  deriving DecidableEq

/-- A record batch as a preview reads it: the formatter of a column may not be made, and gives
the text of every row when it is. -/
structure PreviewBatch (ArrowError : Type) where
  numRows : ℕ
  columns : List (Except ArrowError (ℕ → String))

def pushHtmlEscaped (output value : String) : String :=
  value.toList.foldl (fun output character =>
    match character with
    | '&' => output ++ "&amp;"
    | '<' => output ++ "&lt;"
    | '>' => output ++ "&gt;"
    | '"' => output ++ "&quot;"
    | '\'' => output ++ "&#39;"
    | character => output.push character) output

def previewStyle : List String :=
  [".deltafunnel-preview\x7bfont-family:ui-sans-serif,system-ui,-apple-system,",
    "BlinkMacSystemFont,\"Segoe UI\",sans-serif;font-size:12px;line-height:1.35;",
    "color:var(--vscode-editor-foreground,#111827)\x7d",
    ".deltafunnel-preview .df-wrap\x7bdisplay:inline-block;max-width:100%;overflow:auto;",
    "border:1px solid rgba(127,127,127,.35);border-radius:6px;",
    "background:var(--vscode-editor-background,#fff)\x7d",
    ".deltafunnel-preview table\x7bborder-collapse:separate;border-spacing:0\x7d",
    ".deltafunnel-preview th,.deltafunnel-preview td\x7bpadding:6px 10px;",
    "border-bottom:1px solid rgba(127,127,127,.18);white-space:nowrap;text-align:left;",
    "vertical-align:top\x7d",
    ".deltafunnel-preview th\x7bposition:sticky;top:0;",
    "background:var(--vscode-editor-background,#fff);font-weight:600;border-bottom:1px ",
    "solid rgba(127,127,127,.35)\x7d",
    ".deltafunnel-preview tbody tr:nth-child(even)\x7bbackground:rgba(127,127,127,",
    ".05)\x7d",
    ".deltafunnel-preview .df-type,.deltafunnel-preview ",
    ".df-footer\x7bcolor:var(--vscode-descriptionForeground,#64748b);font-size:11px\x7d",
    ".deltafunnel-preview .df-num\x7btext-align:right;",
    "font-variant-numeric:tabular-nums\x7d",
    ".deltafunnel-preview .df-footer\x7bmargin-top:6px\x7d",
    "@media (prefers-color-scheme:dark)\x7b.deltafunnel-preview\x7bcolor:var(--vscode-edi",
    "tor-foreground,#e5e7eb)\x7d.deltafunnel-preview .df-wrap,.deltafunnel-preview ",
    "th\x7bbackground:var(--vscode-editor-background,#0b1220)\x7d\x7d"]

def numericClass (dataType : DataType) : String :=
  if isNumericType dataType then " class=\"df-num\"" else ""

def previewHead : String :=
  "<div class=\"deltafunnel-preview\"><style>" ++ String.join previewStyle ++ "</style>"

def pushHeader (typeName : DataType → String) (html : String) (field : PreviewField) : String :=
  let html := html ++ "<th" ++ numericClass field.dataType ++ "><span>"
  let html := pushHtmlEscaped html field.name
  let html := html ++ "</span><br><span class=\"df-type\">"
  let html := pushHtmlEscaped html (typeName field.dataType)
  html ++ "</span></th>"

def pushCell (row : ℕ) (html : String) (cell : PreviewField × (ℕ → String)) : String :=
  let html := html ++ "<td" ++ numericClass cell.1.dataType ++ ">"
  pushHtmlEscaped html (cell.2 row) ++ "</td>"

def pushRow (schema : List PreviewField) (formatters : List (ℕ → String)) (html : String)
    (row : ℕ) : String :=
  (schema.zip formatters).foldl (pushCell row) (html ++ "<tr>") ++ "</tr>"

def pushBatch {ArrowError : Type} (schema : List PreviewField) (html : String)
    (batch : PreviewBatch ArrowError) : Except ArrowError String := do
  let formatters ← batch.columns.mapM id
  return (List.range batch.numRows).foldl (pushRow schema formatters) html

def previewBatchesToHtml {ArrowError : Type} (typeName : DataType → String)
    (schema : List PreviewField) (batches : List (PreviewBatch ArrowError)) :
    Except ArrowError String := do
  let rowCount := (batches.map (·.numRows)).sum
  let columnCount := schema.length
  let html := previewHead
  if columnCount = 0 then
    let html := html ++ "<div class=\"df-wrap\" style=\"padding:10px\">(No columns)</div>"
    return html ++ "<div class=\"df-footer\">Showing <b>" ++ toString rowCount ++
      "</b> rows, <b>0</b> columns.</div></div>"
  else
    let html := html ++ "<div class=\"df-wrap\"><table><thead><tr>"
    let html := schema.foldl (pushHeader typeName) html
    let html := html ++ "</tr></thead><tbody>"
    let html ← batches.foldlM (pushBatch schema) html
    return html ++ "</tbody></table></div><div class=\"df-footer\">Showing <b>" ++
      toString rowCount ++ "</b> rows, <b>" ++ toString columnCount ++
      "</b> columns.</div></div>"

end DeltaFunnel
