import DeltaFunnel.Session.PreviewHtml
import DeltaFunnel.Support

/-! The tags of a table preview depend on the column types and the row count alone, and every
name, type and value is read back from its own place. -/

namespace DeltaFunnel
open Html

variable {ArrowError : Type}

theorem pushHtmlEscaped_toList (output value : String) :
    (pushHtmlEscaped output value).toList = output.toList ++ escape value.toList := by
  unfold pushHtmlEscaped escape
  generalize value.toList = chars
  induction chars generalizing output with
  | nil => exact (List.append_nil _).symm
  | cons c cs ih =>
    rw [List.foldl_cons, ih, List.flatMap_cons, ← List.append_assoc]
    refine congrArg (· ++ cs.flatMap escapeChar) ?_
    split
    · exact String.toList_append
    · exact String.toList_append
    · exact String.toList_append
    · exact String.toList_append
    · exact String.toList_append
    · next hamp hlt hgt hquot hapos =>
      rw [String.toList_push]
      unfold escapeChar
      rw [if_neg hamp, if_neg hlt, if_neg hgt, if_neg hquot, if_neg hapos]

/-- A part of a preview: markup of its own, or a value that comes from the data. -/
inductive HtmlPiece where
  | markup (text : String)
  | value (text : String)

def HtmlPiece.render : HtmlPiece → List Char
  | .markup text => text.toList
  | .value text => escape text.toList

def headerPieces (typeName : DataType → String) (field : PreviewField) : List HtmlPiece :=
  [.markup ("<th" ++ numericClass field.dataType ++ "><span>"), .value field.name,
    .markup "</span><br><span class=\"df-type\">", .value (typeName field.dataType),
    .markup "</span></th>"]

def cellPieces (cell : PreviewField × String) : List HtmlPiece :=
  [.markup ("<td" ++ numericClass cell.1.dataType ++ ">"), .value cell.2, .markup "</td>"]

def rowPieces (schema : List PreviewField) (row : List String) : List HtmlPiece :=
  .markup "<tr>" :: (schema.zip row).flatMap cellPieces ++ [.markup "</tr>"]

def previewPieces (typeName : DataType → String) (schema : List PreviewField)
    (rows : List (List String)) : List HtmlPiece :=
  .markup previewHead ::
    if schema = [] then
      [.markup "<div class=\"df-wrap\" style=\"padding:10px\">(No columns)</div>",
        .markup "<div class=\"df-footer\">Showing <b>", .markup (toString rows.length),
        .markup "</b> rows, <b>0</b> columns.</div></div>"]
    else
      .markup "<div class=\"df-wrap\"><table><thead><tr>" ::
        schema.flatMap (headerPieces typeName) ++ .markup "</tr></thead><tbody>" ::
        rows.flatMap (rowPieces schema) ++
        [.markup "</tbody></table></div><div class=\"df-footer\">Showing <b>",
          .markup (toString rows.length), .markup "</b> rows, <b>",
          .markup (toString schema.length), .markup "</b> columns.</div></div>"]

def cellText (row : ℕ) : Except ArrowError (ℕ → String) → String
  | .ok formatter => formatter row
  | .error _ => ""

/-- The texts of all rows, batch by batch and column by column. -/
def formattedRows (batches : List (PreviewBatch ArrowError)) : List (List String) :=
  batches.flatMap fun batch =>
    (List.range batch.numRows).map fun row => batch.columns.map (cellText row)

theorem length_formattedRows (batches : List (PreviewBatch ArrowError)) :
    (formattedRows batches).length = (batches.map (·.numRows)).sum := by
  unfold formattedRows
  rw [List.length_flatMap]
  refine congrArg List.sum (List.map_congr_left ?_)
  intro batch _
  rw [List.length_map, List.length_range]

theorem foldl_push {α : Type} {push : String → α → String} {text : α → List Char}
    (hpush : ∀ html x, (push html x).toList = html.toList ++ text x) (xs : List α)
    (html : String) : (xs.foldl push html).toList = html.toList ++ xs.flatMap text := by
  induction xs generalizing html with
  | nil => exact (List.append_nil _).symm
  | cons x xs ih => rw [List.foldl_cons, ih, hpush, List.append_assoc, List.flatMap_cons]

theorem pushHeader_toList (typeName : DataType → String) (html : String) (field : PreviewField) :
    (pushHeader typeName html field).toList =
      html.toList ++ (headerPieces typeName field).flatMap HtmlPiece.render := by
  unfold pushHeader headerPieces
  simp only [String.toList_append, pushHtmlEscaped_toList, List.flatMap_cons, List.flatMap_nil,
    HtmlPiece.render, List.append_assoc, List.append_nil]

theorem pushCell_toList (row : ℕ) (html : String) (cell : PreviewField × (ℕ → String)) :
    (pushCell row html cell).toList =
      html.toList ++ (cellPieces (cell.1, cell.2 row)).flatMap HtmlPiece.render := by
  unfold pushCell cellPieces
  simp only [String.toList_append, pushHtmlEscaped_toList, List.flatMap_cons, List.flatMap_nil,
    HtmlPiece.render, List.append_assoc, List.append_nil]

theorem pushRow_toList (schema : List PreviewField) (formatters : List (ℕ → String))
    (html : String) (row : ℕ) :
    (pushRow schema formatters html row).toList =
      html.toList ++
        (rowPieces schema (formatters.map fun formatter => formatter row)).flatMap
          HtmlPiece.render := by
  unfold pushRow rowPieces
  rw [String.toList_append, foldl_push (pushCell_toList row), String.toList_append,
    List.flatMap_append, List.flatMap_cons, List.flatMap_assoc, List.zip_map_right,
    List.flatMap_map, List.append_assoc, List.append_assoc]
  rfl

theorem mapM_columns {columns : List (Except ArrowError (ℕ → String))}
    {formatters : List (ℕ → String)} (h : columns.mapM id = .ok formatters) (row : ℕ) :
    formatters.map (fun formatter => formatter row) = columns.map (cellText row) := by
  induction columns generalizing formatters with
  | nil =>
    obtain rfl : [] = formatters := Except.ok.inj h
    rfl
  | cons column columns ih =>
    rw [List.mapM_cons, except_bind_eq_ok] at h
    obtain ⟨first, hfirst, h⟩ := h
    obtain ⟨rest, hrest, h⟩ := except_bind_eq_ok.1 h
    obtain rfl := Except.ok.inj h
    rw [List.map_cons, List.map_cons, ih hrest, show column = .ok first from hfirst]
    rfl

theorem pushBatch_toList {schema : List PreviewField} {html html' : String}
    {batch : PreviewBatch ArrowError} (h : pushBatch schema html batch = .ok html') :
    html'.toList = html.toList ++
      (formattedRows [batch]).flatMap fun row =>
        (rowPieces schema row).flatMap HtmlPiece.render := by
  unfold pushBatch at h
  obtain ⟨formatters, hformatters, h⟩ := except_bind_eq_ok.1 h
  obtain rfl := Except.ok.inj h
  rw [foldl_push (pushRow_toList schema formatters)]
  unfold formattedRows
  rw [List.flatMap_singleton, List.flatMap_map]
  simp only [mapM_columns hformatters]

theorem pushBatches_toList {schema : List PreviewField} {batches : List (PreviewBatch ArrowError)}
    {html html' : String} (h : batches.foldlM (pushBatch schema) html = .ok html') :
    html'.toList = html.toList ++
      (formattedRows batches).flatMap fun row =>
        (rowPieces schema row).flatMap HtmlPiece.render := by
  induction batches generalizing html with
  | nil =>
    obtain rfl := Except.ok.inj h
    exact (List.append_nil _).symm
  | cons batch batches ih =>
    rw [List.foldlM_cons, except_bind_eq_ok] at h
    obtain ⟨next, hnext, h⟩ := h
    have hsplit : formattedRows (batch :: batches) =
        formattedRows [batch] ++ formattedRows batches := by
      unfold formattedRows
      rw [List.flatMap_cons, List.flatMap_singleton]
    rw [ih h, pushBatch_toList hnext, hsplit, List.flatMap_append, List.append_assoc]

theorem previewBatchesToHtml_toList {typeName : DataType → String} {schema : List PreviewField}
    {batches : List (PreviewBatch ArrowError)} {html : String}
    (h : previewBatchesToHtml typeName schema batches = .ok html) :
    html.toList =
      (previewPieces typeName schema (formattedRows batches)).flatMap HtmlPiece.render := by
  have hrows := length_formattedRows batches
  unfold previewBatchesToHtml at h
  dsimp only at h
  unfold previewPieces
  rw [List.flatMap_cons, hrows]
  by_cases hempty : schema = []
  · rw [if_pos hempty]
    rw [if_pos (by rw [hempty]; rfl)] at h
    obtain rfl := Except.ok.inj h
    simp only [String.toList_append, List.flatMap_cons, List.flatMap_nil, HtmlPiece.render,
      List.append_assoc, List.append_nil]
  · rw [if_neg hempty]
    rw [if_neg (fun hzero => hempty (List.length_eq_zero_iff.1 hzero))] at h
    obtain ⟨rows, hpush, h⟩ := except_bind_eq_ok.1 h
    obtain rfl := Except.ok.inj h
    have hbatches := pushBatches_toList hpush
    simp only [String.toList_append, foldl_push (pushHeader_toList typeName)] at hbatches
    simp only [String.toList_append, hbatches, List.flatMap_cons, List.flatMap_append,
      List.flatMap_nil, List.flatMap_assoc, HtmlPiece.render, List.append_assoc,
      List.append_nil]

def tagToken (source : String) : Token := .tag source.toList

def characters (text : List Char) : List Token := text.map .character

def numericTag (name : String) (numeric : Bool) : String :=
  name ++ if numeric then " class=\"df-num\"" else ""

def headTokens : List Token :=
  tagToken "div class=\"deltafunnel-preview\"" :: tagToken "style" ::
    (characters (previewStyle.flatMap String.toList) ++ [tagToken "/style"])

def headerTokens (typeName : DataType → String) (field : PreviewField) : List Token :=
  tagToken (numericTag "th" (isNumericType field.dataType)) :: tagToken "span" ::
    (characters (escape field.name.toList) ++ tagToken "/span" :: tagToken "br" ::
      tagToken "span class=\"df-type\"" ::
      (characters (escape (typeName field.dataType).toList) ++
        [tagToken "/span", tagToken "/th"]))

def cellTokens (cell : PreviewField × String) : List Token :=
  tagToken (numericTag "td" (isNumericType cell.1.dataType)) ::
    (characters (escape cell.2.toList) ++ [tagToken "/td"])

def rowTokens (schema : List PreviewField) (row : List String) : List Token :=
  tagToken "tr" :: ((schema.zip row).flatMap cellTokens ++ [tagToken "/tr"])

theorem reads_digits (n : ℕ) :
    Html.Reads (toString n).toList (characters (toString n).toList) := by
  refine scan_plain ?_
  intro hmem
  rw [Nat.toString_eq_ofList_toDigits, String.toList_ofList] at hmem
  have hdigit := Nat.isDigit_of_mem_toDigits (by omega) (by omega) hmem
  revert hdigit
  decide

theorem not_mem_toList_ofList {c : Char} {chars : List Char} (h : c ∉ chars) :
    c ∉ (String.ofList chars).toList := by
  rwa [String.toList_ofList]

theorem plain_style : '<' ∉ previewStyle.flatMap String.toList := by
  have hlines : ∀ line ∈ previewStyle, '<' ∉ line.toList := by
    unfold previewStyle
    simp only [List.forall_mem_cons]
    -- one line at a time, since reading a long literal is slow
    repeat' apply And.intro
    all_goals first
      | exact List.forall_mem_nil _
      | exact not_mem_toList_ofList (by decide)
  intro hmem
  obtain ⟨line, hline, hchar⟩ := List.mem_flatMap.1 hmem
  exact hlines line hline hchar

theorem reads_head : Html.Reads previewHead.toList headTokens := by
  have hopen : scan .data "<div class=\"deltafunnel-preview\"><style>".toList =
      ([tagToken "div class=\"deltafunnel-preview\"", tagToken "style"], .styleSheet []) := by
    decide
  have hclose : scan (.styleSheet []) "</style>".toList = ([tagToken "/style"], .data) := by
    decide
  unfold previewHead Html.Reads
  rw [String.toList_append, String.toList_append, String.toList_join, List.append_assoc,
    scan_append, hopen, scan_append, scan_styleSheet plain_style, hclose]
  rfl

theorem reads_header (typeName : DataType → String) (field : PreviewField) :
    Html.Reads ((headerPieces typeName field).flatMap HtmlPiece.render)
      (headerTokens typeName field) := by
  have hopen : Html.Reads ("<th" ++ numericClass field.dataType ++ "><span>").toList
      [tagToken (numericTag "th" (isNumericType field.dataType)), tagToken "span"] := by
    unfold numericClass numericTag Html.Reads
    cases isNumericType field.dataType <;> decide
  have hmiddle : Html.Reads "</span><br><span class=\"df-type\">".toList
      [tagToken "/span", tagToken "br", tagToken "span class=\"df-type\""] := by
    unfold Html.Reads
    decide
  have hclose : Html.Reads "</span></th>".toList [tagToken "/span", tagToken "/th"] := by
    unfold Html.Reads
    decide
  exact hopen.append ((reads_escape _).append (hmiddle.append ((reads_escape _).append
    (hclose.append rfl))))

theorem reads_cell (cell : PreviewField × String) :
    Html.Reads ((cellPieces cell).flatMap HtmlPiece.render) (cellTokens cell) := by
  have hopen : Html.Reads ("<td" ++ numericClass cell.1.dataType ++ ">").toList
      [tagToken (numericTag "td" (isNumericType cell.1.dataType))] := by
    unfold numericClass numericTag Html.Reads
    cases isNumericType cell.1.dataType <;> decide
  have hclose : Html.Reads "</td>".toList [tagToken "/td"] := by
    unfold Html.Reads
    decide
  exact hopen.append ((reads_escape _).append (hclose.append rfl))

theorem reads_row (schema : List PreviewField) (row : List String) :
    Html.Reads ((rowPieces schema row).flatMap HtmlPiece.render) (rowTokens schema row) := by
  have hopen : Html.Reads "<tr>".toList [tagToken "tr"] := by
    unfold Html.Reads
    decide
  have hclose : Html.Reads "</tr>".toList [tagToken "/tr"] := by
    unfold Html.Reads
    decide
  unfold rowPieces
  rw [List.flatMap_append, List.flatMap_cons, List.flatMap_assoc, List.append_assoc]
  exact hopen.append ((Html.Reads.flatMap fun cell _ => reads_cell cell).append (hclose.append rfl))

def bodyTokens (typeName : DataType → String) (schema : List PreviewField)
    (rows : List (List String)) : List Token :=
  if schema = [] then
    tagToken "div class=\"df-wrap\" style=\"padding:10px\"" ::
      (characters "(No columns)".toList ++ tagToken "/div" ::
      tagToken "div class=\"df-footer\"" :: (characters "Showing ".toList ++ tagToken "b" ::
      (characters (toString rows.length).toList ++ tagToken "/b" ::
      (characters " rows, ".toList ++ tagToken "b" :: (characters "0".toList ++ tagToken "/b" ::
      (characters " columns.".toList ++ [tagToken "/div", tagToken "/div"]))))))
  else
    tagToken "div class=\"df-wrap\"" :: tagToken "table" :: tagToken "thead" :: tagToken "tr" ::
      (schema.flatMap (headerTokens typeName) ++ tagToken "/tr" :: tagToken "/thead" ::
      tagToken "tbody" :: (rows.flatMap (rowTokens schema) ++ tagToken "/tbody" ::
      tagToken "/table" :: tagToken "/div" :: tagToken "div class=\"df-footer\"" ::
      (characters "Showing ".toList ++ tagToken "b" ::
      (characters (toString rows.length).toList ++ tagToken "/b" ::
      (characters " rows, ".toList ++ tagToken "b" ::
      (characters (toString schema.length).toList ++ tagToken "/b" ::
      (characters " columns.".toList ++ [tagToken "/div", tagToken "/div"])))))))

theorem reads_preview (typeName : DataType → String) (schema : List PreviewField)
    (rows : List (List String)) :
    Html.Reads ((previewPieces typeName schema rows).flatMap HtmlPiece.render)
      (headTokens ++ bodyTokens typeName schema rows) := by
  unfold previewPieces bodyTokens
  rw [List.flatMap_cons]
  refine reads_head.append ?_
  by_cases hempty : schema = []
  · rw [if_pos hempty, if_pos hempty]
    -- without columns there is no table, and the footer counts zero of them
    have hnone : Html.Reads
        "<div class=\"df-wrap\" style=\"padding:10px\">(No columns)</div>".toList
        (tagToken "div class=\"df-wrap\" style=\"padding:10px\"" ::
          (characters "(No columns)".toList ++ [tagToken "/div"])) := by
      unfold Html.Reads
      decide
    have hfooter : Html.Reads "<div class=\"df-footer\">Showing <b>".toList
        (tagToken "div class=\"df-footer\"" ::
          (characters "Showing ".toList ++ [tagToken "b"])) := by
      unfold Html.Reads
      decide
    have hend : Html.Reads "</b> rows, <b>0</b> columns.</div></div>".toList
        (tagToken "/b" :: (characters " rows, ".toList ++ tagToken "b" ::
          (characters "0".toList ++ tagToken "/b" ::
          (characters " columns.".toList ++ [tagToken "/div", tagToken "/div"])))) := by
      unfold Html.Reads
      decide
    have hread := hnone.append (hfooter.append ((reads_digits rows.length).append
      hend))
    simp only [List.cons_append, List.append_assoc, List.nil_append] at hread
    simp only [List.flatMap_cons, List.flatMap_nil, HtmlPiece.render, List.append_nil]
    exact hread
  · rw [if_neg hempty, if_neg hempty]
    -- fixed markup is read by computation, names and cells by the lemmas above
    have hopen : Html.Reads "<div class=\"df-wrap\"><table><thead><tr>".toList
        [tagToken "div class=\"df-wrap\"", tagToken "table", tagToken "thead",
          tagToken "tr"] := by
      unfold Html.Reads
      decide
    have hmiddle : Html.Reads "</tr></thead><tbody>".toList
        [tagToken "/tr", tagToken "/thead", tagToken "tbody"] := by
      unfold Html.Reads
      decide
    have hfooter : Html.Reads
        "</tbody></table></div><div class=\"df-footer\">Showing <b>".toList
        (tagToken "/tbody" :: tagToken "/table" :: tagToken "/div" ::
          tagToken "div class=\"df-footer\"" ::
          (characters "Showing ".toList ++ [tagToken "b"])) := by
      unfold Html.Reads
      decide
    have hrows : Html.Reads "</b> rows, <b>".toList
        (tagToken "/b" :: (characters " rows, ".toList ++ [tagToken "b"])) := by
      unfold Html.Reads
      decide
    have hend : Html.Reads "</b> columns.</div></div>".toList
        (tagToken "/b" :: (characters " columns.".toList ++
          [tagToken "/div", tagToken "/div"])) := by
      unfold Html.Reads
      decide
    have hheaders : Html.Reads
        (schema.flatMap fun field => (headerPieces typeName field).flatMap HtmlPiece.render)
        (schema.flatMap (headerTokens typeName)) :=
      Html.Reads.flatMap fun field _ => reads_header typeName field
    have hcells : Html.Reads
        (rows.flatMap fun row => (rowPieces schema row).flatMap HtmlPiece.render)
        (rows.flatMap (rowTokens schema)) :=
      Html.Reads.flatMap fun row _ => reads_row schema row
    have hread := hopen.append (hheaders.append (hmiddle.append (hcells.append (hfooter.append
      ((reads_digits rows.length).append (hrows.append
      ((reads_digits schema.length).append hend)))))))
    simp only [List.cons_append, List.append_assoc, List.nil_append] at hread
    simp only [List.flatMap_cons, List.flatMap_append, List.flatMap_assoc, List.flatMap_nil,
      HtmlPiece.render, List.cons_append, List.append_assoc, List.append_nil]
    exact hread

theorem previewBatchesToHtml_tokens {typeName : DataType → String} {schema : List PreviewField}
    {batches : List (PreviewBatch ArrowError)} {html : String}
    (h : previewBatchesToHtml typeName schema batches = .ok html) :
    tokens html.toList = headTokens ++ bodyTokens typeName schema (formattedRows batches) := by
  rw [previewBatchesToHtml_toList h]
  exact (reads_preview typeName schema (formattedRows batches)).tokens_eq

def headerTags (numeric : Bool) : List String :=
  [numericTag "th" numeric, "span", "/span", "br", "span class=\"df-type\"", "/span", "/th"]

def cellTags (numeric : Bool) : List String := [numericTag "td" numeric, "/td"]

def rowTags (numeric : List Bool) : List String := "tr" :: (numeric.flatMap cellTags ++ ["/tr"])

def footerTags : List String :=
  ["div class=\"df-footer\"", "b", "/b", "b", "/b", "/div", "/div"]

/-- The tags of a preview, from which columns are numeric and how many rows there are. -/
def previewTags (numeric : List Bool) (rowCount : ℕ) : List String :=
  ["div class=\"deltafunnel-preview\"", "style", "/style"] ++
    if numeric = [] then "div class=\"df-wrap\" style=\"padding:10px\"" :: "/div" :: footerTags
    else
      ["div class=\"df-wrap\"", "table", "thead", "tr"] ++ numeric.flatMap headerTags ++
        ["/tr", "/thead", "tbody"] ++ (List.replicate rowCount (rowTags numeric)).flatten ++
        ["/tbody", "/table", "/div"] ++ footerTags

def numericColumns (schema : List PreviewField) : List Bool :=
  schema.map fun field => isNumericType field.dataType

theorem tags_tag (source : String) (rest : List Token) :
    tags (tagToken source :: rest) = source.toList :: tags rest :=
  rfl

theorem tags_text (text : List Char) (rest : List Token) :
    tags (characters text ++ rest) = tags rest := by
  unfold characters
  rw [tags_append, tags_characters, List.nil_append]

theorem tags_header (typeName : DataType → String) (field : PreviewField) :
    tags (headerTokens typeName field) =
      (headerTags (isNumericType field.dataType)).map String.toList := by
  unfold headerTokens headerTags
  simp only [tags_tag, tags_text, List.map_cons, List.map_nil]
  rfl

theorem tags_cell (cell : PreviewField × String) :
    tags (cellTokens cell) = (cellTags (isNumericType cell.1.dataType)).map String.toList := by
  unfold cellTokens cellTags
  simp only [tags_tag, tags_text, List.map_cons, List.map_nil]
  rfl

theorem tags_row {schema : List PreviewField} {row : List String}
    (h : row.length = schema.length) :
    tags (rowTokens schema row) = (rowTags (numericColumns schema)).map String.toList := by
  have hfields : (schema.zip row).flatMap (fun cell => cellTags (isNumericType cell.1.dataType)) =
      (numericColumns schema).flatMap cellTags := by
    have hfirst : (schema.zip row).map Prod.fst = schema :=
      List.map_fst_zip (Nat.le_of_eq h.symm)
    unfold numericColumns
    rw [List.flatMap_map]
    conv_rhs => rw [← hfirst]
    rw [List.flatMap_map]
  unfold rowTokens rowTags
  rw [tags_tag, tags_append, tags_flatMap, ← hfields, List.map_cons, List.map_append,
    List.map_flatMap]
  simp only [tags_cell]
  rfl

theorem tags_body (typeName : DataType → String) {schema : List PreviewField}
    {rows : List (List String)} (hrows : ∀ row ∈ rows, row.length = schema.length) :
    tags (headTokens ++ bodyTokens typeName schema rows) =
      (previewTags (numericColumns schema) rows.length).map String.toList := by
  have hhead : tags headTokens =
      ["div class=\"deltafunnel-preview\"", "style", "/style"].map String.toList := by
    unfold headTokens
    rw [tags_tag, tags_tag, tags_text]
    rfl
  have hfooter (count columns : List Char) :
      tags (tagToken "div class=\"df-footer\"" :: (characters "Showing ".toList ++
        tagToken "b" :: (characters count ++ tagToken "/b" :: (characters " rows, ".toList ++
        tagToken "b" :: (characters columns ++ tagToken "/b" ::
        (characters " columns.".toList ++ [tagToken "/div", tagToken "/div"])))))) =
      footerTags.map String.toList := by
    simp only [tags_tag, tags_text]
    rfl
  unfold bodyTokens previewTags
  rw [tags_append, hhead, List.map_append]
  congr 1
  by_cases hempty : schema = []
  · have hnone : numericColumns schema = [] := by rw [hempty]; rfl
    rw [if_pos hempty, if_pos hnone, tags_tag, tags_text, tags_tag, hfooter]
    rfl
  · have hsome : numericColumns schema ≠ [] := by
      intro hnil
      exact hempty (List.map_eq_nil_iff.1 hnil)
    -- a row has one cell for each column, so all rows have the same tags
    have hbody : rows.flatMap (fun row => tags (rowTokens schema row)) =
        (List.replicate rows.length
          ((rowTags (numericColumns schema)).map String.toList)).flatten := by
      rw [List.flatMap_def, List.map_congr_left fun row hrow => tags_row (hrows row hrow),
        List.map_const']
    have hheaders : schema.flatMap (fun field => tags (headerTokens typeName field)) =
        ((numericColumns schema).flatMap headerTags).map String.toList := by
      unfold numericColumns
      rw [List.flatMap_map, List.map_flatMap]
      simp only [tags_header]
    rw [if_neg hempty, if_neg hsome]
    simp only [tags_tag, tags_append, tags_flatMap, hbody, hheaders, hfooter]
    simp only [List.map_append, List.map_cons, List.map_flatten,
      List.map_replicate, List.append_assoc, List.cons_append, List.nil_append]

def frameTags : List String :=
  ["div class=\"deltafunnel-preview\"", "style", "/style", "tr", "/tr", "/thead", "tbody",
    "div class=\"df-wrap\"", "table", "thead", "/tbody", "/table"] ++ footerTags

theorem textsAfter_frame {kind : List Char → Bool} {sources : List String}
    (h : ∀ source ∈ sources, kind source.toList = false) (rest : List Token) :
    textsAfter kind (sources.map tagToken ++ rest) = textsAfter kind rest := by
  apply textsAfter_skip
  intro source hsource
  unfold tags at hsource
  rw [List.filterMap_map] at hsource
  obtain ⟨name, hname, hsome⟩ := List.mem_filterMap.1 hsource
  rw [← Option.some.inj hsome]
  exact h name hname

theorem frame_subset {kind : List Char → Bool}
    (hkind : ∀ source ∈ frameTags, kind source.toList = false) (sources : List String)
    (hsub : sources ⊆ frameTags) : ∀ source ∈ sources, kind source.toList = false := by
  intro source hsource
  exact hkind source (hsub hsource)

theorem textsAfter_row {kind : List Char → Bool}
    (hkind : ∀ source ∈ frameTags, kind source.toList = false) (schema : List PreviewField)
    (row : List String) :
    textsAfter kind (rowTokens schema row) =
      (schema.zip row).flatMap fun cell => textsAfter kind (cellTokens cell) := by
  have hopen := frame_subset hkind ["tr"] (by decide)
  have hclose := frame_subset hkind ["/tr"] (by decide)
  have htokens : rowTokens schema row = ["tr"].map tagToken ++
      ((schema.zip row).flatMap cellTokens ++ (["/tr"].map tagToken ++ [])) := rfl
  rw [htokens, textsAfter_frame hopen, textsAfter_append kind (by trivial),
    textsAfter_frame hclose, textsAfter_flatMap kind fun cell => by trivial]
  exact List.append_nil _

theorem textsAfter_preview {kind : List Char → Bool}
    (hkind : ∀ source ∈ frameTags, kind source.toList = false)
    (hwrap : kind "div class=\"df-wrap\" style=\"padding:10px\"".toList = false)
    (typeName : DataType → String) {schema : List PreviewField} {rows : List (List String)} :
    textsAfter kind (headTokens ++ bodyTokens typeName schema rows) =
      schema.flatMap (fun field => textsAfter kind (headerTokens typeName field)) ++
        rows.flatMap fun row =>
          (schema.zip row).flatMap fun cell => textsAfter kind (cellTokens cell) := by
  have hfooter (count columns : List Char) :
      ∀ source ∈ tags (tagToken "div class=\"df-footer\"" :: (characters "Showing ".toList ++
        tagToken "b" :: (characters count ++ tagToken "/b" :: (characters " rows, ".toList ++
        tagToken "b" :: (characters columns ++ tagToken "/b" ::
        (characters " columns.".toList ++ [tagToken "/div", tagToken "/div"])))))),
      kind source = false := by
    intro source hsource
    simp only [tags_tag, tags_text] at hsource
    obtain ⟨name, hname, rfl⟩ := List.mem_map.1
      (show source ∈ footerTags.map String.toList from hsource)
    exact hkind name (List.mem_append_right _ hname)
  have hhead : ∀ source ∈ tags headTokens, kind source = false := by
    intro source hsource
    unfold headTokens at hsource
    rw [tags_tag, tags_tag, tags_text] at hsource
    obtain ⟨name, hname, rfl⟩ := List.mem_map.1
      (show source ∈ ["div class=\"deltafunnel-preview\"", "style", "/style"].map String.toList
        from hsource)
    exact frame_subset hkind _ (by decide) name hname
  rw [textsAfter_skip hhead]
  unfold bodyTokens
  by_cases hempty : schema = []
  · have hclose := hkind "/div" (by decide)
    have hfields : schema.flatMap
        (fun field => textsAfter kind (headerTokens typeName field)) = [] := by
      rw [hempty]
      rfl
    have hcells : rows.flatMap (fun row =>
        (schema.zip row).flatMap fun cell => textsAfter kind (cellTokens cell)) = [] := by
      rw [List.flatMap_eq_nil_iff, hempty]
      intro row _
      rfl
    rw [if_pos hempty, hfields, hcells]
    apply textsAfter_eq_nil
    intro source hsource
    rw [tags_tag, tags_text, tags_tag, List.mem_cons, List.mem_cons] at hsource
    rcases hsource with rfl | rfl | hsource
    · exact hwrap
    · exact hclose
    · exact hfooter _ _ source hsource
  -- what is not a header or a cell is frame markup, and its texts are skipped
  · have hopen := frame_subset hkind ["div class=\"df-wrap\"", "table", "thead", "tr"]
      (by decide)
    have hmiddle := frame_subset hkind ["/tr", "/thead", "tbody"] (by decide)
    have hend := frame_subset hkind ["/tbody", "/table", "/div"] (by decide)
    rw [if_neg hempty]
    show textsAfter kind (["div class=\"df-wrap\"", "table", "thead", "tr"].map tagToken ++
      (schema.flatMap (headerTokens typeName) ++ (["/tr", "/thead", "tbody"].map tagToken ++
      (rows.flatMap (rowTokens schema) ++
      (["/tbody", "/table", "/div"].map tagToken ++ _))))) = _
    rw [textsAfter_frame hopen, textsAfter_append kind (by trivial), textsAfter_frame hmiddle,
      textsAfter_append kind (by trivial), textsAfter_frame hend,
      textsAfter_eq_nil (hfooter _ _), textsAfter_flatMap kind fun field => by trivial,
      textsAfter_flatMap kind fun row => by trivial, List.append_nil]
    simp only [textsAfter_row hkind]

theorem textsAfter_header (typeName : DataType → String) (field : PreviewField) :
    textsAfter (isTag "td".toList) (headerTokens typeName field) = [] ∧
    textsAfter (isTag "span".toList) (headerTokens typeName field) =
      [escape field.name.toList, escape (typeName field.dataType).toList] := by
  have hopen (numeric : Bool) : isTag "td".toList (numericTag "th" numeric).toList = false ∧
      isTag "span".toList (numericTag "th" numeric).toList = false := by
    cases numeric <;> decide
  have hspan : isTag "span".toList "span".toList = true ∧
      isTag "span".toList "span class=\"df-type\"".toList = true := by
    decide
  have hclose : textsAfter (isTag "span".toList)
      [Token.tag "/span".toList, tagToken "/th"] = [] := by
    decide
  have hbreak : isTag "span".toList "/span".toList = false ∧
      isTag "span".toList "br".toList = false := by
    decide
  refine ⟨?_, ?_⟩
  · apply textsAfter_eq_nil
    rw [tags_header]
    cases isNumericType field.dataType <;> decide
  · unfold headerTokens characters
    rw [tagToken, textsAfter, (hopen _).2, if_neg Bool.false_ne_true, tagToken,
      textsAfter_tag _ _ _ (by trivial), hspan.1, if_pos rfl, tagToken, textsAfter, hbreak.1,
      if_neg Bool.false_ne_true, tagToken, textsAfter, hbreak.2, if_neg Bool.false_ne_true,
      tagToken, textsAfter_tag _ _ _ (by trivial), hspan.2, if_pos rfl, hclose]
    rfl

theorem textsAfter_cell (cell : PreviewField × String) :
    textsAfter (isTag "td".toList) (cellTokens cell) = [escape cell.2.toList] ∧
    textsAfter (isTag "span".toList) (cellTokens cell) = [] := by
  have hopen (numeric : Bool) : isTag "td".toList (numericTag "td" numeric).toList = true := by
    cases numeric <;> decide
  have hclose : textsAfter (isTag "td".toList) [tagToken "/td"] = [] := by
    decide
  refine ⟨?_, ?_⟩
  · unfold cellTokens characters
    rw [tagToken, textsAfter_tag _ _ _ (by trivial), hopen, if_pos rfl, hclose]
    rfl
  · apply textsAfter_eq_nil
    rw [tags_cell]
    cases isNumericType cell.1.dataType <;> decide

theorem cellTexts_preview (typeName : DataType → String) {schema : List PreviewField}
    {rows : List (List String)} (hrows : ∀ row ∈ rows, row.length = schema.length) :
    textsAfter (isTag "td".toList) (headTokens ++ bodyTokens typeName schema rows) =
      rows.flatten.map fun value => escape value.toList := by
  have hframe : ∀ source ∈ frameTags, isTag "td".toList source.toList = false := by
    decide
  have hrow : ∀ row ∈ rows, ((schema.zip row).flatMap fun cell =>
      textsAfter (isTag "td".toList) (cellTokens cell)) =
      row.map fun value => escape value.toList := by
    intro row hrow
    have hvalues : (schema.zip row).map Prod.snd = row :=
      List.map_snd_zip (Nat.le_of_eq (hrows row hrow))
    simp only [textsAfter_cell]
    rw [← List.map_eq_flatMap]
    conv_rhs => rw [← hvalues]
    rw [List.map_map]
    rfl
  rw [textsAfter_preview hframe (by decide)]
  simp only [textsAfter_header]
  rw [List.flatMap_eq_nil_iff.2 fun _ _ => rfl, List.nil_append, List.flatMap_def,
    List.map_congr_left hrow, List.map_flatten]

theorem nameTexts_preview (typeName : DataType → String) (schema : List PreviewField)
    (rows : List (List String)) :
    textsAfter (isTag "span".toList) (headTokens ++ bodyTokens typeName schema rows) =
      schema.flatMap fun field =>
        [escape field.name.toList, escape (typeName field.dataType).toList] := by
  have hframe : ∀ source ∈ frameTags, isTag "span".toList source.toList = false := by
    decide
  have hcells : rows.flatMap (fun row => (schema.zip row).flatMap fun cell =>
      textsAfter (isTag "span".toList) (cellTokens cell)) = [] := by
    simp only [textsAfter_cell]
    rw [List.flatMap_eq_nil_iff]
    intro row _
    exact List.flatMap_eq_nil_iff.2 fun _ _ => rfl
  rw [textsAfter_preview hframe (by decide), hcells, List.append_nil]
  simp only [textsAfter_header]

theorem length_row_of_columns {schema : List PreviewField}
    {batches : List (PreviewBatch ArrowError)}
    (h : ∀ batch ∈ batches, batch.columns.length = schema.length) :
    ∀ row ∈ formattedRows batches, row.length = schema.length := by
  intro row hrow
  obtain ⟨batch, hbatch, hrow⟩ := List.mem_flatMap.1 hrow
  obtain ⟨index, -, rfl⟩ := List.mem_map.1 hrow
  rw [List.length_map]
  exact h batch hbatch

/-- What a preview gives away about the data is in its texts alone. -/
structure PreviewStructure (typeName : DataType → String) (schema : List PreviewField)
    (batches : List (PreviewBatch ArrowError)) (html : List Char) : Prop where
  /-- every name, type and value is written escaped, between markup of the preview's own -/
  escaped : html =
    (previewPieces typeName schema (formattedRows batches)).flatMap HtmlPiece.render
  tags : tags (tokens html) =
    (previewTags (numericColumns schema) (batches.map (·.numRows)).sum).map String.toList
  cells : (textsAfter (isTag "td".toList) (tokens html)).map unescape =
    (formattedRows batches).flatten.map String.toList
  names : (textsAfter (isTag "span".toList) (tokens html)).map unescape =
    schema.flatMap fun field => [field.name.toList, (typeName field.dataType).toList]

theorem previewStructure {typeName : DataType → String} {schema : List PreviewField}
    {batches : List (PreviewBatch ArrowError)} {html : String}
    (hcolumns : ∀ batch ∈ batches, batch.columns.length = schema.length)
    (h : previewBatchesToHtml typeName schema batches = .ok html) :
    PreviewStructure typeName schema batches html.toList := by
  have hrows := length_row_of_columns hcolumns
  have htokens := previewBatchesToHtml_tokens h
  refine ⟨previewBatchesToHtml_toList h, ?_, ?_, ?_⟩
  · rw [htokens, tags_body typeName hrows, length_formattedRows]
  · rw [htokens, cellTexts_preview typeName hrows, List.map_map]
    apply List.map_congr_left
    intro value _
    exact unescape_escape value.toList
  · rw [htokens, nameTexts_preview, List.map_flatMap]
    simp only [List.map_cons, List.map_nil, unescape_escape]

theorem previewBatchesToHtml_ok {typeName : DataType → String} {schema : List PreviewField}
    {batches : List (PreviewBatch ArrowError)}
    (h : ∀ batch ∈ batches, ∀ column ∈ batch.columns, ∃ formatter, column = .ok formatter) :
    ∃ html, previewBatchesToHtml typeName schema batches = .ok html := by
  have hmapM : ∀ columns : List (Except ArrowError (ℕ → String)),
      (∀ column ∈ columns, ∃ formatter, column = .ok formatter) →
      ∃ formatters, columns.mapM id = .ok formatters := by
    intro columns hcolumns
    induction columns with
    | nil => exact ⟨[], rfl⟩
    | cons column columns ih =>
      obtain ⟨⟨formatter, hcolumn⟩, hrest⟩ := List.forall_mem_cons.1 hcolumns
      obtain ⟨formatters, hformatters⟩ := ih hrest
      refine ⟨formatter :: formatters, ?_⟩
      rw [List.mapM_cons, hformatters, hcolumn]
      rfl
  have hfold : ∀ html, ∃ html', batches.foldlM (pushBatch schema) html = .ok html' := by
    induction batches with
    | nil => exact fun html => ⟨html, rfl⟩
    | cons batch batches ih =>
      intro html
      obtain ⟨hbatch, hrest⟩ := List.forall_mem_cons.1 h
      obtain ⟨formatters, hformatters⟩ := hmapM batch.columns hbatch
      obtain ⟨html', hhtml'⟩ := ih hrest
        ((List.range batch.numRows).foldl (pushRow schema formatters) html)
      refine ⟨html', ?_⟩
      rw [List.foldlM_cons, pushBatch, hformatters]
      exact hhtml'
  unfold previewBatchesToHtml
  dsimp only
  split
  · exact ⟨_, rfl⟩
  · obtain ⟨html', hhtml'⟩ := hfold (schema.foldl (pushHeader typeName)
      (previewHead ++ "<div class=\"df-wrap\"><table><thead><tr>") ++ "</tr></thead><tbody>")
    rw [hhtml']
    exact ⟨_, rfl⟩

theorem pushHtmlEscaped_injective (output : String) {value other : String}
    (h : pushHtmlEscaped output value = pushHtmlEscaped output other) : value = other := by
  have hchars := congrArg String.toList h
  rw [pushHtmlEscaped_toList, pushHtmlEscaped_toList] at hchars
  exact String.toList_inj.1 (escape_injective (List.append_cancel_left hchars))

/-- The structure of a preview does not depend on the names, types and values it shows. -/
theorem preview_structure_is_independent (typeName : DataType → String)
    (schema : List PreviewField) (batches : List (PreviewBatch ArrowError))
    (hcolumns : ∀ batch ∈ batches, batch.columns.length = schema.length) :
    ((∀ batch ∈ batches, ∀ column ∈ batch.columns, ∃ formatter, column = .ok formatter) →
      ∃ html, previewBatchesToHtml typeName schema batches = .ok html) ∧
    (∀ html, previewBatchesToHtml typeName schema batches = .ok html →
      PreviewStructure typeName schema batches html.toList) ∧
    (∀ output value other, pushHtmlEscaped output value = pushHtmlEscaped output other →
      value = other) ∧
    ∀ value, ∀ c ∈ ['<', '>', '"', '\''], c ∉ (pushHtmlEscaped "" value).toList := by
  refine ⟨previewBatchesToHtml_ok, fun html => previewStructure hcolumns,
    fun output _ _ => pushHtmlEscaped_injective output, ?_⟩
  intro value c hc
  rw [pushHtmlEscaped_toList]
  simp only [List.mem_cons, List.not_mem_nil, or_false] at hc
  exact not_mem_escape hc value.toList

/-- A table whose only value closes the cell and starts a script. -/
def scriptBatch : PreviewBatch Unit :=
  ⟨1, [.ok fun _ => "</td><script>alert(1)</script>&lt;"]⟩

theorem scriptBatch_structure :
    (∀ batch ∈ [scriptBatch],
      batch.columns.length = [PreviewField.mk "<b>" (.other "Utf8")].length) ∧
    ∃ html, previewBatchesToHtml (fun _ => "Utf8") [⟨"<b>", .other "Utf8"⟩] [scriptBatch] =
        .ok html ∧
      PreviewStructure (fun _ => "Utf8") [⟨"<b>", .other "Utf8"⟩] [scriptBatch] html.toList := by
  have hcolumns : ∀ batch ∈ [scriptBatch],
      batch.columns.length = [PreviewField.mk "<b>" (.other "Utf8")].length :=
    List.forall_mem_singleton.2 rfl
  have hformat : ∀ batch ∈ [scriptBatch], ∀ column ∈ batch.columns,
      ∃ formatter, column = .ok formatter :=
    List.forall_mem_singleton.2 (List.forall_mem_singleton.2 ⟨_, rfl⟩)
  obtain ⟨hok, hstructure, -⟩ := preview_structure_is_independent (fun _ => "Utf8")
    [⟨"<b>", .other "Utf8"⟩] [scriptBatch] hcolumns
  obtain ⟨html, hhtml⟩ := hok hformat
  exact ⟨hcolumns, html, hhtml, hstructure html hhtml⟩

end DeltaFunnel
