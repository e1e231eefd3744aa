import DeltaFunnel.Encoding.Varint
import DeltaFunnel.PerfettoProfile.RecordOrder

/-! The lines of a query output: they may come in any order, and records written out are read
back. -/

namespace DeltaFunnel
open Collections

section Lines
variable {decode : List UInt8 → Option CompactRecord} {lines lines' : List (List UInt8)}
  {start collected : CollectedRecords}

def recordsIn (decode : List UInt8 → Option CompactRecord) (lines : List (List UInt8)) :
    List CompactRecord := lines.filterMap fun line => (readRecord decode line).toOption

def CompactRecord.metadata? : CompactRecord → Option CompactMetadata
  | .metadata record => some record
  | _ => none

def CompactRecord.semantic? : CompactRecord → Option RankedSemantic
  | .semantic record => some record
  | _ => none

def CompactRecord.frame? : CompactRecord → Option CompactFrame
  | .frame record => some record
  | _ => none

def CompactRecord.functionSelf? : CompactRecord → Option CompactFunctionSelf
  | .functionSelf record => some record
  | _ => none

structure CollectedRecords.Bounded (collected : CollectedRecords) : Prop where
  semantics : collected.semantics.length ≤ maxRecordsPerCollection
  frames : collected.frames.length ≤ maxRecordsPerCollection
  functionSelf : collected.functionSelf.length ≤ maxRecordsPerCollection

/-- The records were added to what there was, each to its own collection. -/
structure CollectedRecords.Extends (start collected : CollectedRecords)
    (records : List CompactRecord) : Prop where
  metadata : collected.metadata.toList =
    start.metadata.toList ++ records.filterMap CompactRecord.metadata?
  semantics : collected.semantics = start.semantics ++ records.filterMap CompactRecord.semantic?
  frames : collected.frames = start.frames ++ records.filterMap CompactRecord.frame?
  functionSelf : collected.functionSelf =
    start.functionSelf ++ records.filterMap CompactRecord.functionSelf?

theorem pushBounded_eq_ok {α : Type} {records pushed : List α} {record : α}
    (hbound : records.length ≤ maxRecordsPerCollection)
    (h : pushBounded records record = .ok pushed) :
    pushed = records ++ [record] ∧ pushed.length ≤ maxRecordsPerCollection := by
  obtain ⟨⟨⟩, hroom, hpushed⟩ := except_bind_eq_ok.1 h
  obtain rfl := Except.ok.inj hpushed
  have hroom := failIf_eq_ok.1 hroom
  rw [List.length_append, List.length_singleton]
  exact ⟨rfl, by omega⟩

theorem pushBounded_isOk {α : Type} {records rest : List α} {record : α}
    (hroom : (records ++ record :: rest).length ≤ maxRecordsPerCollection) :
    pushBounded records record = .ok (records ++ [record]) := by
  rw [List.length_append, List.length_cons] at hroom
  exact except_bind_eq_ok.2 ⟨(), failIf_eq_ok.2 (by omega), rfl⟩

theorem addRecord_eq_ok {record : CompactRecord} (hbound : start.Bounded)
    (h : addRecord start record = .ok collected) :
    start.Extends collected [record] ∧ collected.Bounded := by
  cases record with
  | metadata record =>
    simp only [addRecord] at h
    split at h
    · cases h
    · next hnone =>
      obtain rfl := Except.ok.inj h
      have hnone : start.metadata = none := by simpa using hnone
      refine ⟨⟨?_, ?_, ?_, ?_⟩, hbound.semantics, hbound.frames, hbound.functionSelf⟩
      · rw [hnone]
        rfl
      · exact (List.append_nil _).symm
      · exact (List.append_nil _).symm
      · exact (List.append_nil _).symm
  | semantic record =>
    obtain ⟨pushed, hpushed, h⟩ := except_bind_eq_ok.1 h
    obtain rfl := Except.ok.inj h
    obtain ⟨rfl, hroom⟩ := pushBounded_eq_ok hbound.semantics hpushed
    exact ⟨⟨(List.append_nil _).symm, rfl, (List.append_nil _).symm, (List.append_nil _).symm⟩,
      hroom, hbound.frames, hbound.functionSelf⟩
  | frame record =>
    obtain ⟨pushed, hpushed, h⟩ := except_bind_eq_ok.1 h
    obtain rfl := Except.ok.inj h
    obtain ⟨rfl, hroom⟩ := pushBounded_eq_ok hbound.frames hpushed
    exact ⟨⟨(List.append_nil _).symm, (List.append_nil _).symm, rfl, (List.append_nil _).symm⟩,
      hbound.semantics, hroom, hbound.functionSelf⟩
  | functionSelf record =>
    obtain ⟨pushed, hpushed, h⟩ := except_bind_eq_ok.1 h
    obtain rfl := Except.ok.inj h
    obtain ⟨rfl, hroom⟩ := pushBounded_eq_ok hbound.functionSelf hpushed
    exact ⟨⟨(List.append_nil _).symm, (List.append_nil _).symm, (List.append_nil _).symm, rfl⟩,
      hbound.semantics, hbound.frames, hroom⟩

theorem addRecord_isOk {record : CompactRecord} {records : List CompactRecord}
    (hextends : start.Extends collected (record :: records)) (hroom : collected.Bounded) :
    ∃ next, addRecord start record = .ok next ∧ next.Extends collected records := by
  obtain ⟨hmetadata, hsemantics, hframes, hfunctionSelf⟩ := hextends
  cases record with
  | metadata record =>
    rcases hnone : start.metadata with _ | first
    · refine ⟨{ start with metadata := some record }, by simp [addRecord, hnone], ?_, hsemantics,
        hframes, hfunctionSelf⟩
      rw [hmetadata, hnone]
      rfl
    · -- A second metadata record would not fit into the option.
      have htwo : collected.metadata.toList =
          first :: record :: records.filterMap CompactRecord.metadata? := by
        rw [hmetadata, hnone]
        rfl
      cases hm : collected.metadata with
      | none => simp [hm] at htwo
      | some m => simp [hm] at htwo
  | semantic record =>
    have hfits : (start.semantics ++ record :: records.filterMap CompactRecord.semantic?).length ≤
        maxRecordsPerCollection := hsemantics ▸ hroom.semantics
    refine ⟨{ start with semantics := start.semantics ++ [record] }, except_bind_eq_ok.2
      ⟨_, pushBounded_isOk hfits, rfl⟩, hmetadata, ?_, hframes, hfunctionSelf⟩
    rw [hsemantics, List.append_assoc]
    rfl
  | frame record =>
    have hfits : (start.frames ++ record :: records.filterMap CompactRecord.frame?).length ≤
        maxRecordsPerCollection := hframes ▸ hroom.frames
    refine ⟨{ start with frames := start.frames ++ [record] }, except_bind_eq_ok.2
      ⟨_, pushBounded_isOk hfits, rfl⟩, hmetadata, hsemantics, ?_, hfunctionSelf⟩
    rw [hframes, List.append_assoc]
    rfl
  | functionSelf record =>
    have hfits : (start.functionSelf ++
        record :: records.filterMap CompactRecord.functionSelf?).length ≤
        maxRecordsPerCollection := hfunctionSelf ▸ hroom.functionSelf
    refine ⟨{ start with functionSelf := start.functionSelf ++ [record] }, except_bind_eq_ok.2
      ⟨_, pushBounded_isOk hfits, rfl⟩, hmetadata, hsemantics, hframes, ?_⟩
    rw [hfunctionSelf, List.append_assoc]
    rfl

theorem CollectedRecords.Extends.trans {next : CollectedRecords} {first rest : List CompactRecord}
    (h : start.Extends next first) (h' : next.Extends collected rest) :
    start.Extends collected (first ++ rest) where
  metadata := by rw [h'.metadata, h.metadata, List.filterMap_append, List.append_assoc]
  semantics := by rw [h'.semantics, h.semantics, List.filterMap_append, List.append_assoc]
  frames := by rw [h'.frames, h.frames, List.filterMap_append, List.append_assoc]
  functionSelf := by
    rw [h'.functionSelf, h.functionSelf, List.filterMap_append, List.append_assoc]

theorem CollectedRecords.Extends.nil_eq (h : start.Extends collected []) : start = collected := by
  obtain ⟨metadata, semantics, frames, functionSelf⟩ := start
  obtain ⟨metadata', semantics', frames', functionSelf'⟩ := collected
  obtain ⟨hmetadata, hsemantics, hframes, hfunctionSelf⟩ := h
  simp only [List.filterMap_nil, List.append_nil] at hmetadata hsemantics hframes hfunctionSelf
  have hmetadata : metadata = metadata' := by
    cases metadata with
    | none =>
      cases metadata' with
      | none => rfl
      | some m => cases hmetadata
    | some m =>
      cases metadata' with
      | none => cases hmetadata
      | some m' => rw [(List.cons.inj hmetadata).1]
  subst hmetadata hsemantics hframes hfunctionSelf
  rfl

theorem recordsIn_cons {line : List UInt8} {record : CompactRecord}
    (h : readRecord decode line = .ok record) :
    recordsIn decode (line :: lines) = record :: recordsIn decode lines := by
  unfold recordsIn
  rw [List.filterMap_cons, h]
  rfl

theorem foldlM_addLine_eq_ok (hbound : start.Bounded) :
    lines.foldlM (addLine decode) start = .ok collected ↔
      (∀ line ∈ lines, ∃ record, readRecord decode line = .ok record) ∧
        start.Extends collected (recordsIn decode lines) ∧ collected.Bounded := by
  induction lines generalizing start with
  | nil =>
    constructor
    · intro h
      obtain rfl : start = collected := Except.ok.inj h
      refine ⟨fun line hline => absurd hline List.not_mem_nil, ⟨?_, ?_, ?_, ?_⟩, hbound⟩
      · exact (List.append_nil _).symm
      · exact (List.append_nil _).symm
      · exact (List.append_nil _).symm
      · exact (List.append_nil _).symm
    · rintro ⟨-, hextends, -⟩
      rw [hextends.nil_eq]
      rfl
  | cons line lines ih =>
    rw [List.foldlM_cons, except_bind_eq_ok]
    constructor
    · rintro ⟨next, hstep, h⟩
      obtain ⟨record, hread, hadd⟩ := except_bind_eq_ok.1 hstep
      obtain ⟨hfirst, hnext⟩ := addRecord_eq_ok hbound hadd
      obtain ⟨hreads, hrest, hroom⟩ := (ih hnext).1 h
      refine ⟨List.forall_mem_cons.2 ⟨⟨record, hread⟩, hreads⟩, ?_, hroom⟩
      rw [recordsIn_cons hread]
      exact hfirst.trans hrest
    · rintro ⟨hreads, hextends, hroom⟩
      obtain ⟨⟨record, hread⟩, hreads⟩ := List.forall_mem_cons.1 hreads
      rw [recordsIn_cons hread] at hextends
      obtain ⟨next, hadd, hrest⟩ := addRecord_isOk hextends hroom
      obtain ⟨-, hnext⟩ := addRecord_eq_ok hbound hadd
      exact ⟨next, except_bind_eq_ok.2 ⟨record, hread, hadd⟩, (ih hnext).2 ⟨hreads, hrest, hroom⟩⟩

theorem CollectedRecords.Extends.perm {records records' : List CompactRecord} (hperm : records.Perm records')
    (h : (⟨none, [], [], []⟩ : CollectedRecords).Extends collected records) :
    ∃ collected', (⟨none, [], [], []⟩ : CollectedRecords).Extends collected' records' ∧
      collected'.metadata = collected.metadata ∧
      collected.semantics.Perm collected'.semantics ∧ collected.frames.Perm collected'.frames ∧
      collected.functionSelf.Perm collected'.functionSelf := by
  have hmetadata := hperm.filterMap CompactRecord.metadata?
  obtain ⟨hm, hs, hf, hfs⟩ := h
  rw [hs, hf, hfs]
  refine ⟨⟨collected.metadata, records'.filterMap CompactRecord.semantic?,
    records'.filterMap CompactRecord.frame?, records'.filterMap CompactRecord.functionSelf?⟩,
    ⟨?_, rfl, rfl, rfl⟩, rfl, hperm.filterMap _, hperm.filterMap _, hperm.filterMap _⟩
  rw [hm]
  simp only [Option.toList_none, List.nil_append] at hm ⊢
  rw [← hm] at hmetadata ⊢
  cases hmeta : collected.metadata with
  | none =>
    rw [hmeta] at hmetadata
    exact (List.nil_perm.1 hmetadata).symm
  | some m =>
    rw [hmeta] at hmetadata
    exact List.singleton_perm.1 hmetadata

theorem recordsIn_perm (hperm : lines.Perm lines') :
    (recordsIn decode lines).Perm (recordsIn decode lines') := hperm.filterMap _

theorem foldlM_addLine_perm (hperm : lines.Perm lines')
    (h : lines.foldlM (addLine decode) ⟨none, [], [], []⟩ = .ok collected) :
    ∃ collected', lines'.foldlM (addLine decode) ⟨none, [], [], []⟩ = .ok collected' ∧
      collected'.metadata = collected.metadata ∧
      collected.semantics.Perm collected'.semantics ∧ collected.frames.Perm collected'.frames ∧
      collected.functionSelf.Perm collected'.functionSelf := by
  have hstart : (⟨none, [], [], []⟩ : CollectedRecords).Bounded :=
    ⟨Nat.zero_le _, Nat.zero_le _, Nat.zero_le _⟩
  obtain ⟨hreads, hextends, hroom⟩ := (foldlM_addLine_eq_ok hstart).1 h
  obtain ⟨collected', hextends', hmetadata, hsemantics, hframes, hself⟩ :=
    hextends.perm (recordsIn_perm hperm)
  refine ⟨collected', (foldlM_addLine_eq_ok hstart).2 ⟨?_, hextends', ?_⟩, hmetadata, hsemantics,
    hframes, hself⟩
  · exact fun line hline => hreads line (hperm.mem_iff.2 hline)
  · exact ⟨hsemantics.length_eq ▸ hroom.semantics, hframes.length_eq ▸ hroom.frames,
      hself.length_eq ▸ hroom.functionSelf⟩

end Lines

section Rendered

def hexDigitByte (digit : UInt8) : UInt8 := if digit < 10 then digit + 48 else digit + 87

def hexPair (byte : UInt8) : List UInt8 := [hexDigitByte (byte >>> 4), hexDigitByte (byte &&& 15)]

def recordLine (bytes : List UInt8) : List UInt8 := 34 :: bytes.flatMap hexPair ++ [34]

def renderOutput (records : List (List UInt8)) : List UInt8 :=
  recordHeader ++ records.flatMap fun bytes => 10 :: recordLine bytes

theorem hexPair_spec (byte : UInt8) :
    hexDigitValue (hexDigitByte (byte >>> 4)) = some (byte >>> 4) ∧
      hexDigitValue (hexDigitByte (byte &&& 15)) = some (byte &&& 15) ∧
      ((byte >>> 4) <<< 4) ||| (byte &&& 15) = byte ∧ (10 : UInt8) ∉ hexPair byte := by
  revert byte
  apply Encoding.forall_byte
  decide +kernel

theorem decodeHexPairs_flatMap (bytes : List UInt8) :
    decodeHexPairs (bytes.flatMap hexPair) = .ok bytes := by
  induction bytes with
  | nil => rfl
  | cons byte bytes ih =>
    obtain ⟨hhigh, hlow, hjoin, -⟩ := hexPair_spec byte
    rw [List.flatMap_cons, hexPair, List.cons_append, List.cons_append, List.nil_append,
      decodeHexPairs, hhigh, hlow, ih, okOr, okOr]
    exact congrArg (fun b => Except.ok (b :: bytes)) hjoin

theorem length_flatMap_hexPair (bytes : List UInt8) :
    (bytes.flatMap hexPair).length = 2 * bytes.length := by
  induction bytes with
  | nil => rfl
  | cons byte bytes ih =>
    rw [List.flatMap_cons, List.length_append, ih, List.length_cons]
    show 2 + 2 * bytes.length = _
    omega

theorem unquote_recordLine (bytes : List UInt8) :
    unquote (recordLine bytes) = some (bytes.flatMap hexPair) := by
  rw [recordLine, List.cons_append, unquote, List.getLast?_concat, if_pos rfl,
    List.dropLast_concat]

theorem readRecord_recordLine (decode : List UInt8 → Option CompactRecord) {bytes : List UInt8}
    (hlength : 2 * bytes.length ≤ maxRecordHexChars) :
    readRecord decode (recordLine bytes) = okOr (decode bytes) malformedResult := by
  have hlen := length_flatMap_hexPair bytes
  have hsmall : failIf ((bytes.flatMap hexPair).length > maxRecordHexChars) resultTooLarge = .ok () :=
    failIf_eq_ok.2 (by omega)
  have heven : failIf ((bytes.flatMap hexPair).length % 2 ≠ 0) malformedResult = .ok () :=
    failIf_eq_ok.2 (by omega)
  rw [readRecord, unquote_recordLine, okOr]
  show (failIf _ _ >>= fun _ => decodeHex _ >>= _) = _
  rw [hsmall]
  show (decodeHex _ >>= _) = _
  rw [decodeHex, heven]
  show (decodeHexPairs _ >>= _) = _
  rw [decodeHexPairs_flatMap]
  rfl

theorem splitLines_of_not_mem {line : List UInt8} (hline : 10 ∉ line) :
    splitLines line = [line] := by
  induction line with
  | nil => rfl
  | cons byte line ih =>
    obtain ⟨hbyte, hline⟩ := not_or.1 (mt List.mem_cons.2 hline)
    rw [splitLines, if_neg (Ne.symm hbyte), ih hline]

theorem splitLines_append {line rest : List UInt8} (hline : 10 ∉ line) :
    splitLines (line ++ 10 :: rest) = line :: splitLines rest := by
  induction line with
  | nil => rfl
  | cons byte line ih =>
    obtain ⟨hbyte, hline⟩ := not_or.1 (mt List.mem_cons.2 hline)
    rw [List.cons_append, splitLines, if_neg (Ne.symm hbyte), ih hline]

theorem newline_not_mem_recordLine (bytes : List UInt8) : 10 ∉ recordLine bytes := by
  intro hmem
  rw [recordLine, List.mem_append, List.mem_cons, List.mem_flatMap, List.mem_singleton] at hmem
  rcases hmem with (hquote | ⟨byte, -, hbyte⟩) | hquote
  · exact absurd hquote (by decide)
  · exact (hexPair_spec byte).2.2.2 hbyte
  · exact absurd hquote (by decide)

theorem splitLines_render (records : List (List UInt8)) {line : List UInt8} (hline : 10 ∉ line) :
    splitLines (line ++ records.flatMap fun bytes => 10 :: recordLine bytes) =
      line :: records.map recordLine := by
  induction records generalizing line with
  | nil => rw [List.flatMap_nil, List.append_nil, splitLines_of_not_mem hline, List.map_nil]
  | cons bytes records ih =>
    rw [List.flatMap_cons, List.cons_append, splitLines_append hline,
      ih (newline_not_mem_recordLine bytes), List.map_cons]

theorem outputLines_render (records : List (List UInt8)) :
    outputLines (renderOutput records) = recordHeader :: records.map recordLine := by
  have hstrip : ∀ bytes, stripCarriageReturn (recordLine bytes) = recordLine bytes := by
    intro bytes
    rw [stripCarriageReturn, recordLine, List.getLast?_concat, if_neg (by decide)]
  have hsplit : splitLines (renderOutput records) = recordHeader :: records.map recordLine :=
    splitLines_render records (by decide)
  have hlines : (records.map recordLine).map stripCarriageReturn = records.map recordLine := by
    rw [List.map_map]
    exact List.map_congr_left fun bytes _ => hstrip bytes
  have hheader : stripCarriageReturn recordHeader = recordHeader := by decide
  rw [outputLines, hsplit, List.map_cons, hlines, hheader, List.filter_eq_self]
  intro line hline
  rcases List.mem_cons.1 hline with rfl | hline
  · decide
  · obtain ⟨bytes, -, rfl⟩ := List.mem_map.1 hline
    rfl

theorem outputLines_swap (first second : List UInt8) :
    (outputLines (renderOutput [first, second])).head? =
        (outputLines (renderOutput [second, first])).head? ∧
      (outputLines (renderOutput [first, second])).tail.Perm
        (outputLines (renderOutput [second, first])).tail := by
  rw [outputLines_render, outputLines_render]
  exact ⟨rfl, .swap ..⟩

end Rendered

section Outputs
variable {order order' : IterationOrder ReportMap} {decode : List UInt8 → Option CompactRecord}
  {output output' : List UInt8} {document : RankedProfileDocument}

theorem parseRankedReportOutput_perm
    (hheader : (outputLines output).head? = (outputLines output').head?)
    (hlines : (outputLines output).tail.Perm (outputLines output').tail)
    (h : parseRankedReportOutput order decode output = .ok document) :
    parseRankedReportOutput order' decode output' = .ok document := by
  obtain ⟨⟨⟩, hhead, h⟩ := except_bind_eq_ok.1 h
  obtain ⟨collected, hcollected, h⟩ := except_bind_eq_ok.1 h
  obtain ⟨metadata, hmetadata, h⟩ := except_bind_eq_ok.1 h
  obtain ⟨collected', hcollected', hmetadata', hsemantics, hframes, hself⟩ :=
    foldlM_addLine_perm hlines hcollected
  refine except_bind_eq_ok.2 ⟨(), ?_, except_bind_eq_ok.2 ⟨collected', hcollected',
    except_bind_eq_ok.2 ⟨metadata, ?_, buildDocument_perm hsemantics hframes hself h⟩⟩⟩
  · rwa [← hheader]
  · rwa [hmetadata']

theorem parseRankedReportOutput_render {first second : List UInt8} {metadata : CompactMetadata}
    {semantic : RankedSemantic} (hfirst : readRecord decode (recordLine first) =
      .ok (.metadata metadata))
    (hsecond : readRecord decode (recordLine second) = .ok (.semantic semantic)) :
    parseRankedReportOutput order decode (renderOutput [first, second]) =
      buildDocument order metadata [semantic] [] [] := by
  have hlines := outputLines_render [first, second]
  have hheader : failIf ((outputLines (renderOutput [first, second])).head? ≠ some recordHeader)
      malformedResult = .ok () := failIf_eq_ok.2 (by rw [hlines]; exact not_not.2 rfl)
  have hcollected : (outputLines (renderOutput [first, second])).tail.foldlM (addLine decode)
      ⟨none, [], [], []⟩ = .ok ⟨some metadata, [semantic], [], []⟩ := by
    rw [hlines, List.tail_cons, List.map_cons, List.map_cons, List.map_nil, List.foldlM_cons,
      addLine, hfirst]
    show (addLine decode ⟨some metadata, [], [], []⟩ (recordLine second) >>= _) = _
    rw [addLine, hsecond]
    rfl
  unfold parseRankedReportOutput
  dsimp only
  rw [hheader, hcollected]
  rfl

end Outputs

/-- Record lines may come in any order, and maps be iterated in any order: the same document is
accepted, and what is refused is refused. -/
theorem record_lines_may_come_in_any_order (decode : List UInt8 → Option CompactRecord)
    (order order' : IterationOrder ReportMap) (output output' : List UInt8)
    (hheader : (outputLines output).head? = (outputLines output').head?)
    (hlines : (outputLines output).tail.Perm (outputLines output').tail) :
    (∀ document, parseRankedReportOutput order decode output = .ok document ↔
      parseRankedReportOutput order' decode output' = .ok document) ∧
    ((∃ failure, parseRankedReportOutput order decode output = .error failure) ↔
      ∃ failure, parseRankedReportOutput order' decode output' = .error failure) := by
  have haccepted : ∀ document, parseRankedReportOutput order decode output = .ok document ↔
      parseRankedReportOutput order' decode output' = .ok document := fun document =>
    ⟨parseRankedReportOutput_perm hheader hlines,
      parseRankedReportOutput_perm hheader.symm hlines.symm⟩
  refine ⟨haccepted, ?_⟩
  cases hresult : parseRankedReportOutput order decode output with
  | ok document =>
    rw [(haccepted document).1 hresult]
  | error failure =>
    refine iff_of_true ⟨failure, rfl⟩ ?_
    cases hresult' : parseRankedReportOutput order' decode output' with
    | ok document =>
      rw [(haccepted document).2 hresult'] at hresult
      cases hresult
    | error failure' => exact ⟨failure', rfl⟩

def packed (groups : List (ℕ × ℕ)) : List UInt8 :=
  groups.flatMap fun group => (List.range group.1).map fun i =>
    UInt8.ofNat (group.2 >>> (8 * (group.1 - 1 - i)) % 256)

def operationMetadataText : List UInt8 := packed [
    (44, 0x7b227265636f72645f6b696e64223a226d65746164617461222c227265636f7264223a7b2263617074757265),
    (44, 0x5f636f6d706c657465223a747275652c2273656d616e7469635f636f6d706c657465223a747275652c226669),
    (44, 0x6e616c697a6174696f6e5f6f62736572766564223a747275652c22696e636f6d706c6574655f6f7065726174),
    (44, 0x696f6e5f726f6f745f636f756e74223a302c227472756e636174696f6e5f6d61726b65725f636f756e74223a),
    (44, 0x302c226d697373696e675f6964656e746974795f6669656c645f636f756e74223a302c226d697373696e675f),
    (44, 0x7465726d696e616c5f726573756c745f636f756e74223a302c2263726f7373696e675f776f726b65725f736c),
    (44, 0x6963655f636f756e74223a302c2263726f7373696e675f706c616e6e696e675f61637469766974795f736c69),
    (44, 0x63655f636f756e74223a302c2263726f7373696e675f657865637574696f6e5f61637469766974795f736c69),
    (44, 0x63655f636f756e74223a302c22696e76616c69645f706c616e6e696e675f61637469766974795f6869657261),
    (44, 0x726368795f636f756e74223a302c22696e76616c69645f657865637574696f6e5f61637469766974795f6869),
    (44, 0x657261726368795f636f756e74223a302c22706572665f73616d706c655f776974686f75745f63616c6c7369),
    (44, 0x74655f636f756e74223a302c22706572665f73616d706c65735f736b6970706564223a302c22627566666572),
    (44, 0x5f6c6f73735f636f756e74223a302c22646174615f736f757263655f6c6f73735f636f756e74223a302c2266),
    (44, 0x6c7573685f6661696c7572655f636f756e74223a302c22736368656d615f76657273696f6e223a332c227361),
    (44, 0x6d706c655f6672657175656e63795f687a223a3130302c2273616d706c65645f6370755f636f756e74223a34),
    (44, 0x2c2265786163745f74696d655f756e6974223a226e616e6f7365636f6e6473222c2273616d706c655f756e69),
    (44, 0x74223a2273616d706c6573222c22656c696769626c655f73616d706c655f636f756e74223a342c2264697265),
    (44, 0x63745f73616d706c655f636f756e74223a322c22616d626967756f75735f73616d706c655f636f756e74223a),
    (44, 0x312c22756e617474726962757465645f73616d706c655f636f756e74223a312c227265736f6c7665645f6675),
    (44, 0x6e6374696f6e5f73616d706c655f636f756e74223a302c22756e7265736f6c7665645f66756e6374696f6e5f),
    (44, 0x73616d706c655f636f756e74223a302c22756e77696e645f6572726f725f73616d706c655f636f756e74223a),
    (44, 0x312c226d697373696e675f63616c6c737461636b5f73616d706c655f636f756e74223a312c2274726163655f),
    (44, 0x70726f66696c65725f64726f707065645f73616d706c655f636f756e74223a302c2261756469745f6572726f),
    (12, 0x725f636f756e74223a307d7d)]

def operationSemanticText : List UInt8 := packed [
    (44, 0x7b227265636f72645f6b696e64223a2273656d616e746963222c227265636f7264223a7b2273656d616e7469),
    (44, 0x635f6964223a31302c22706172656e745f73656d616e7469635f6964223a6e756c6c2c226f7065726174696f),
    (44, 0x6e5f6964223a31302c226e616d65223a227772697465222c2273656d616e7469635f6b696e64223a226f7065),
    (44, 0x726174696f6e222c226f7065726174696f6e5f6b696e64223a6e756c6c2c2273746167655f63617465676f72),
    (44, 0x79223a6e756c6c2c2273746167655f6e616d65223a6e756c6c2c226163746976697479223a6e756c6c2c2273),
    (44, 0x746172745f6e73223a302c22656e645f6e73223a392c226475726174696f6e5f6e73223a392c2274696d655f),
    (44, 0x73656d616e74696373223a2277616c6c5f636c6f636b222c22726573756c74223a2273756363657373222c22),
    (44, 0x69735f636f6d706c657465223a747275652c2271756572795f657865637574696f6e5f6964223a6e756c6c2c),
    (44, 0x2271756572795f73636f7065223a6e756c6c2c2271756572795f6f776e6572223a6e756c6c2c22776f726b65),
    (44, 0x725f6c616e655f6964223a6e756c6c2c22776f726b65725f6b696e64223a6e756c6c2c226e6f64655f696422),
    (44, 0x3a6e756c6c2c22706172656e745f6e6f64655f6964223a6e756c6c2c226f70657261746f725f706172746974),
    (44, 0x696f6e223a6e756c6c2c22657865637574696f6e5f73747265616d5f6964223a6e756c6c2c2273746167655f),
    (44, 0x6f776e65725f6964223a6e756c6c2c226469726563745f73616d706c655f636f756e74223a322c22696e636c),
    (44, 0x75736976655f73616d706c655f636f756e74223a302c227265736f6c7665645f66756e6374696f6e5f73616d),
    (44, 0x706c655f636f756e74223a302c22756e7265736f6c7665645f66756e6374696f6e5f73616d706c655f636f75),
    (44, 0x6e74223a302c22756e77696e645f6572726f725f73616d706c655f636f756e74223a312c226d697373696e67),
    (28, 0x5f63616c6c737461636b5f73616d706c655f636f756e74223a317d7d)]

def operationDocument : RankedProfileDocument where
  metadata :=
    { RankedProfileDocument.planningDocument.metadata with
      eligibleSampleCount := 4, directSampleCount := 2, resolvedFunctionSampleCount := 0 }
  semantics :=
    [{ RankedProfileDocument.planningDocument.operation with inclusiveSampleCount := 2 }]
  functions := []

def operationDecode (bytes : List UInt8) : Option CompactRecord :=
  if bytes = operationMetadataText then
    some (.metadata { operationDocument.metadata with auditErrorCount := 0 })
  else if bytes = operationSemanticText then
    some (.semantic
      { RankedProfileDocument.planningDocument.operation with inclusiveSampleCount := 0 })
  else none

theorem operation_records_in_either_order :
    parseRankedReportOutput (.inserted ReportMap) operationDecode
        (renderOutput [operationMetadataText, operationSemanticText]) = .ok operationDocument ∧
      parseRankedReportOutput (.inserted ReportMap) operationDecode
        (renderOutput [operationSemanticText, operationMetadataText]) = .ok operationDocument := by
  have hmetadata : readRecord operationDecode (recordLine operationMetadataText) =
      .ok (.metadata { operationDocument.metadata with auditErrorCount := 0 }) := by
    rw [readRecord_recordLine _ (by decide +kernel), operationDecode, if_pos rfl]
    rfl
  have hsemantic : readRecord operationDecode (recordLine operationSemanticText) =
      .ok (.semantic { RankedProfileDocument.planningDocument.operation with
        inclusiveSampleCount := 0 }) := by
    rw [readRecord_recordLine _ (by decide +kernel), operationDecode, if_neg (by decide +kernel),
      if_pos rfl]
    rfl
  have hbuilt : buildDocument (.inserted ReportMap)
      { operationDocument.metadata with auditErrorCount := 0 }
      [{ RankedProfileDocument.planningDocument.operation with inclusiveSampleCount := 0 }] [] [] =
        .ok operationDocument := by decide
  have hfirst : parseRankedReportOutput (.inserted ReportMap) operationDecode
      (renderOutput [operationMetadataText, operationSemanticText]) = .ok operationDocument :=
    (parseRankedReportOutput_render hmetadata hsemantic).trans hbuilt
  obtain ⟨hhead, hperm⟩ := outputLines_swap operationMetadataText operationSemanticText
  have hsame := record_lines_may_come_in_any_order operationDecode (.inserted ReportMap)
    (.inserted ReportMap) _ _ hhead hperm
  exact ⟨hfirst, (hsame.1 operationDocument).1 hfirst⟩

end DeltaFunnel
