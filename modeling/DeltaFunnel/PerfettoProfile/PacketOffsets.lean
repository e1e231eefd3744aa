import DeltaFunnel.PerfettoProfile.VarintLoops

/-! Fields and packets read at offsets of a buffer, and framed into buffers. -/

namespace DeltaFunnel
namespace VarintLoops
open Encoding (VarintError)

theorem decodeVarint_advances {data : List UInt8} {offset value next : ℕ}
    (h : decodeVarint data offset = .ok (value, next)) :
    offset < next ∧ next ≤ data.length ∧
      Encoding.decodeVarint (data.drop offset) = .ok (value, data.drop next) := by
  rw [decodeVarint_eq] at h
  cases hfound : Encoding.decodeVarint (data.drop offset) with
  | error error =>
    rw [hfound] at h
    cases h
  | ok found =>
    rw [hfound] at h
    obtain ⟨rfl, rfl⟩ := Prod.mk.inj (Except.ok.inj h)
    have hrest : found.2 = (data.drop offset).drop ((data.drop offset).length - found.2.length) :=
      decodeRounds_drop hfound
    have hshorter : found.2.length < (data.drop offset).length :=
      Encoding.decodeVarint_shorter hfound
    rw [List.length_drop] at hshorter
    have hoffset : offset + (data.length - offset - found.2.length) =
        data.length - found.2.length := by omega
    rw [List.length_drop, List.drop_drop, hoffset] at hrest
    refine ⟨by omega, by omega, ?_⟩
    rw [← hrest]

/-- `offset.checked_add(length)`, kept when it is within the data. -/
def checkedEnd (data : List UInt8) (offset length : ℕ) : Option ℕ :=
  if offset + length < 2 ^ 64 ∧ offset + length ≤ data.length then some (offset + length) else none

def skipBytes (data : List UInt8) (offset length : ℕ) : TraceResult ℕ :=
  match checkedEnd data offset length with
  | none => .error (.invalidData "protobuf fixed-width field is truncated")
  | some next => .ok next

/-- A slice of the data. There is none where the range is out of it. -/
def slice? (data : List UInt8) (first last : ℕ) : Option (List UInt8) :=
  if first ≤ last ∧ last ≤ data.length then some ((data.drop first).take (last - first)) else none

/-- The field at an offset, with the offset behind it. The outer `none` is a slice out of range. -/
def nextField (data : List UInt8) (offset : ℕ) : Option (TraceResult (Field × ℕ)) :=
  match decodeVarint data offset with
  | .error error => some (.error (invalidVarint error))
  | .ok (tag, offset) =>
    let number := tag >>> 3
    if number = 0 ∨ number > 0x1fffffff then
      some (.error (.invalidData "protobuf field number is invalid"))
    else
      match tag &&& 7 with
      | 0 =>
        match decodeVarint data offset with
        | .error error => some (.error (invalidVarint error))
        | .ok (value, offset) => some (.ok (⟨number, some value, none⟩, offset))
      | 1 => some ((skipBytes data offset 8).map fun offset => (⟨number, none, none⟩, offset))
      | 2 =>
        match decodeVarint data offset with
        | .error error => some (.error (invalidVarint error))
        | .ok (length, offset) =>
          match checkedEnd data offset length with
          | none => some (.error (.invalidData "protobuf field is truncated"))
          | some next =>
            (slice? data offset next).map fun bytes => .ok (⟨number, none, some bytes⟩, next)
      | 5 => some ((skipBytes data offset 4).map fun offset => (⟨number, none, none⟩, offset))
      | _ => some (.error (.invalidData "protobuf wire type is unsupported"))

/-- The loop of `is_not_in_scope_sample` with the steps it may take. There is no answer where it
is still running or a slice is out of range. -/
def notInScopeLoop (sample : List UInt8) : ℕ → ℕ → Option ℕ → Option Bool
  | steps, offset, skippedReason =>
    if offset < sample.length then
      match steps with
      | 0 => none
      | steps + 1 =>
        match nextField sample offset with
        | none => none
        | some (.error _) => some false
        | some (.ok (field, offset)) =>
          if field.number = sampleSkippedReasonField then
            match field.varint with
            | none => some false
            | some value =>
              if skippedReason.isSome then some false
              else notInScopeLoop sample steps offset (some value)
          else if field.number ∈ [1, 2, 3, 5, 6, 7] ∧ field.varint.isSome then
            notInScopeLoop sample steps offset skippedReason
          else some false
    else some (skippedReason = some profilerSkipNotInScope)

def isNotInScopeSample (sample : List UInt8) : Option Bool :=
  notInScopeLoop sample sample.length 0 none

/-- What `inspect_packet` answers after its loop. -/
def answer (state : InspectState) : Option PacketAction :=
  match state.compressed with
  | some action => some (if state.fieldCount = 1 then action else .keepUncompressed)
  | none =>
    if state.onlySkipEnvelopeFields then
      match state.perfSample with
      | none => some .keep
      | some sample =>
        (isNotInScopeSample sample).map fun outOfScope => if outOfScope then .drop else .keep
    else some .keep

def inspectLoop (packet : Packet) : ℕ → ℕ → InspectState → Option (TraceResult PacketAction)
  | steps, offset, state =>
    if offset < packet.length then
      match steps with
      | 0 => none
      | steps + 1 =>
        match nextField packet offset with
        | none => none
        | some (.error error) => some (.error error)
        | some (.ok (field, offset)) =>
          match inspectField state field with
          | .inl action => some (.ok action)
          | .inr state => inspectLoop packet steps offset state
    else (answer state).map .ok

def inspectPacket (packet : Packet) : Option (TraceResult PacketAction) :=
  inspectLoop packet packet.length 0 ⟨0, none, none, true⟩

/-- A varint of the stream, with the texts of its errors. -/
def readVarintField (input : List UInt8) : TraceResult (Option (ℕ × List UInt8)) :=
  match readVarint input with
  | .ok found => .ok found
  | .error error => .error (invalidVarint error)

def readPacket (input : List UInt8) : TraceResult (Option (Packet × List UInt8)) := do
  match ← readVarintField input with
  | none => .ok none
  | some (tag, input) =>
    if tag ≠ tracePacketTag then
      .error (.invalidData "trace contains an unexpected outer protobuf field")
    else
      match ← readVarintField input with
      | none => .error (.invalidData "trace packet length is truncated")
      | some (length, input) =>
        if length > maxTracePacketBytes then
          .error (.invalidData "trace packet exceeds the 64 MiB limit")
        else if length ≤ input.length then
          .ok (some (input.take length, input.drop length))
        else .error (.invalidData "trace packet is truncated")

def appendTracePacket (output : List UInt8) (packet : Packet) : List UInt8 :=
  encodeVarint packet.length (output ++ [UInt8.ofNat tracePacketTag]) ++ packet

/-- There is no output where the prefix of eleven bytes is too short. -/
def writeTracePacket (output : List UInt8) (packet : Packet) : Option (List UInt8) :=
  let prefixBytes := (List.replicate 11 (0 : UInt8)).set 0 (UInt8.ofNat tracePacketTag)
  (encodeVarintInto packet.length (prefixBytes.drop 1)).map fun encoded =>
    output ++ (prefixBytes.take 1 ++ encoded.1).take (1 + encoded.2) ++ packet

theorem checkedEnd_eq_some {data : List UInt8} {offset length next : ℕ}
    (h : checkedEnd data offset length = some next) :
    next = offset + length ∧ next ≤ data.length := by
  unfold checkedEnd at h
  split_ifs at h with hend
  rw [← Option.some.inj h]
  exact ⟨rfl, hend.2⟩

theorem skipBytes_advances {data : List UInt8} {offset length next : ℕ}
    (h : skipBytes data offset length = .ok next) : offset ≤ next ∧ next ≤ data.length := by
  unfold skipBytes at h
  cases hend : checkedEnd data offset length with
  | none =>
    rw [hend] at h
    cases h
  | some found =>
    rw [hend] at h
    obtain rfl := Except.ok.inj h
    obtain ⟨rfl, hle⟩ := checkedEnd_eq_some hend
    exact ⟨Nat.le_add_right _ _, hle⟩

theorem map_skipBytes_advances {data : List UInt8} {offset length next : ℕ} {field found : Field}
    (h : (skipBytes data offset length).map (fun offset => (found, offset)) =
      .ok (field, next)) : offset ≤ next ∧ next ≤ data.length := by
  cases hskip : skipBytes data offset length with
  | error error =>
    rw [hskip] at h
    cases h
  | ok last =>
    rw [hskip] at h
    obtain ⟨-, rfl⟩ := Prod.mk.inj (Except.ok.inj h)
    exact skipBytes_advances hskip

theorem nextField_advances (data : List UInt8) (offset : ℕ) :
    ∃ result, nextField data offset = some result ∧ ∀ field next, result = .ok (field, next) →
      offset < next ∧ next ≤ data.length := by
  unfold nextField
  cases htag : decodeVarint data offset with
  | error error => exact ⟨_, rfl, fun field next h => by cases h⟩
  | ok found =>
    obtain ⟨tag, middle⟩ := found
    obtain ⟨hmiddle, -, -⟩ := decodeVarint_advances htag
    simp only
    -- every wire type that is read moves past the tag, and none moves past the end
    split_ifs with hnumber
    · exact ⟨_, rfl, fun field next h => by cases h⟩
    · split
      · cases hvalue : decodeVarint data middle with
        | error error => exact ⟨_, rfl, fun field next h => by cases h⟩
        | ok found =>
          obtain ⟨hlt, hle, -⟩ := decodeVarint_advances hvalue
          refine ⟨_, rfl, ?_⟩
          intro field next h
          obtain ⟨-, rfl⟩ := Prod.mk.inj (Except.ok.inj h)
          exact ⟨hmiddle.trans hlt, hle⟩
      · refine ⟨_, rfl, ?_⟩
        intro field next h
        obtain ⟨hle, hlast⟩ := map_skipBytes_advances h
        exact ⟨hmiddle.trans_le hle, hlast⟩
      · cases hlength : decodeVarint data middle with
        | error error => exact ⟨_, rfl, fun field next h => by cases h⟩
        | ok found =>
          obtain ⟨length, start⟩ := found
          obtain ⟨hlt, hle, -⟩ := decodeVarint_advances hlength
          simp only
          cases hend : checkedEnd data start length with
          | none => exact ⟨_, rfl, fun field next h => by cases h⟩
          | some last =>
            obtain ⟨heq, hlast⟩ := checkedEnd_eq_some hend
            have hslice : slice? data start last =
                some ((data.drop start).take (last - start)) := by
              unfold slice?
              rw [if_pos ⟨by omega, hlast⟩]
            simp only [hslice, Option.map_some]
            refine ⟨_, rfl, ?_⟩
            intro field next h
            obtain ⟨-, rfl⟩ := Prod.mk.inj (Except.ok.inj h)
            exact ⟨by omega, hlast⟩
      · refine ⟨_, rfl, ?_⟩
        intro field next h
        obtain ⟨hle, hlast⟩ := map_skipBytes_advances h
        exact ⟨hmiddle.trans_le hle, hlast⟩
      · exact ⟨_, rfl, fun field next h => by cases h⟩

theorem notInScopeLoop_ends {sample : List UInt8} {steps offset : ℕ}
    (hsteps : sample.length ≤ offset + steps) (skippedReason : Option ℕ) :
    ∃ outOfScope, notInScopeLoop sample steps offset skippedReason = some outOfScope := by
  induction steps generalizing offset skippedReason with
  | zero =>
    unfold notInScopeLoop
    rw [if_neg (by omega)]
    exact ⟨_, rfl⟩
  | succ steps ih =>
    unfold notInScopeLoop
    by_cases hoffset : offset < sample.length
    · obtain ⟨result, hresult, hadvance⟩ := nextField_advances sample offset
      rw [if_pos hoffset]
      simp only [hresult]
      cases result with
      | error error => exact ⟨false, rfl⟩
      | ok found =>
        obtain ⟨field, next⟩ := found
        obtain ⟨hlt, -⟩ := hadvance field next rfl
        have hnext : sample.length ≤ next + steps := by omega
        simp only
        split
        · cases field.varint with
          | none => exact ⟨false, rfl⟩
          | some value =>
            simp only
            split
            · exact ⟨false, rfl⟩
            · exact ih hnext _
        · split
          · exact ih hnext _
          · exact ⟨false, rfl⟩
    · rw [if_neg hoffset]
      exact ⟨_, rfl⟩

theorem isNotInScopeSample_ends (sample : List UInt8) :
    ∃ outOfScope, isNotInScopeSample sample = some outOfScope :=
  notInScopeLoop_ends (by omega) none

theorem answer_ends (state : InspectState) : ∃ action, answer state = some action := by
  unfold answer
  cases state.compressed with
  | some action => exact ⟨_, rfl⟩
  | none =>
    simp only
    split_ifs
    · cases state.perfSample with
      | none => exact ⟨_, rfl⟩
      | some sample =>
        obtain ⟨outOfScope, hsample⟩ := isNotInScopeSample_ends sample
        simp only [hsample, Option.map_some]
        exact ⟨_, rfl⟩
    · exact ⟨_, rfl⟩

theorem inspectLoop_ends {packet : Packet} {steps offset : ℕ}
    (hsteps : packet.length ≤ offset + steps) (state : InspectState) :
    ∃ result, inspectLoop packet steps offset state = some result := by
  obtain ⟨action, haction⟩ := answer_ends state
  induction steps generalizing offset state action with
  | zero =>
    unfold inspectLoop
    rw [if_neg (by omega), haction]
    exact ⟨_, rfl⟩
  | succ steps ih =>
    unfold inspectLoop
    by_cases hoffset : offset < packet.length
    · obtain ⟨result, hresult, hadvance⟩ := nextField_advances packet offset
      rw [if_pos hoffset]
      simp only [hresult]
      cases result with
      | error error => exact ⟨_, rfl⟩
      | ok found =>
        obtain ⟨field, next⟩ := found
        obtain ⟨hlt, -⟩ := hadvance field next rfl
        simp only
        cases inspectField state field with
        | inl action => exact ⟨_, rfl⟩
        | inr state =>
          obtain ⟨action, haction⟩ := answer_ends state
          exact ih (by omega) state action haction
    · rw [if_neg hoffset, haction]
      exact ⟨_, rfl⟩

theorem inspectPacket_ends (packet : Packet) :
    ∃ result, inspectPacket packet = some result :=
  inspectLoop_ends (by omega) _

theorem readVarintField_eq (input : List UInt8) :
    readVarintField input = DeltaFunnel.readVarint input := by
  unfold readVarintField DeltaFunnel.readVarint varintField
  rw [readVarint_eq]
  cases input with
  | nil => rfl
  | cons byte input =>
    rw [if_neg (List.cons_ne_nil byte input)]
    cases Encoding.decodeVarint (byte :: input) with
    | error error => rfl
    | ok found => rfl

theorem readPacket_eq (input : List UInt8) : readPacket input = DeltaFunnel.readPacket input := by
  have hread : readVarintField = DeltaFunnel.readVarint := funext readVarintField_eq
  unfold DeltaFunnel.readPacket
  rw [← hread]
  rfl

theorem appendTracePacket_eq (output : List UInt8) {packet : Packet}
    (h : packet.length < 2 ^ 64) :
    appendTracePacket output packet = output ++ framePacket packet := by
  unfold appendTracePacket framePacket
  rw [(encoders_agree h _ (List.replicate 10 0) rfl).1, List.append_assoc, List.append_assoc]
  rfl

theorem writeTracePacket_eq (output : List UInt8) {packet : Packet}
    (h : packet.length < 2 ^ 64) :
    writeTracePacket output packet = some (output ++ framePacket packet) := by
  have hinto := (encoders_agree h [] (List.replicate 10 0) rfl).2.2
  unfold writeTracePacket framePacket
  show (encodeVarintInto packet.length (List.replicate 10 0)).map _ = _
  rw [hinto, Option.map_some]
  have htake : (UInt8.ofNat tracePacketTag :: (Encoding.encodeVarint packet.length ++
      (List.replicate 10 0).drop (Encoding.encodeVarint packet.length).length)).take
        (1 + (Encoding.encodeVarint packet.length).length) =
      UInt8.ofNat tracePacketTag :: Encoding.encodeVarint packet.length := by
    rw [Nat.add_comm, List.take_succ_cons, List.take_left]
  show some (output ++ (UInt8.ofNat tracePacketTag :: (Encoding.encodeVarint packet.length ++
    (List.replicate 10 0).drop (Encoding.encodeVarint packet.length).length)).take
      (1 + (Encoding.encodeVarint packet.length).length) ++ packet) = _
  rw [htake, List.append_assoc]

theorem decodeVarint_append (before : List UInt8) {value : ℕ} (h : value < 2 ^ 64)
    (behind : List UInt8) :
    decodeVarint (before ++ Encoding.encodeVarint value ++ behind) before.length =
      .ok (value, before.length + (Encoding.encodeVarint value).length) := by
  have hdrop : (before ++ Encoding.encodeVarint value ++ behind).drop before.length =
      Encoding.encodeVarint value ++ behind := by
    rw [List.append_assoc, List.drop_left]
  rw [decodeVarint_eq, hdrop, Encoding.decodeVarint_encodeVarint h]
  simp only [Except.map, List.length_append]
  congr 2
  omega

theorem decodeVarint_eq_ok {data : List UInt8} {offset : ℕ} (hdata : data.drop offset ≠ [])
    {value next : ℕ} : decodeVarint data offset = .ok (value, next) ↔
      next ≤ data.length ∧
        readVarint (data.drop offset) = .ok (some (value, data.drop next)) := by
  constructor
  · intro h
    obtain ⟨-, hle, hfound⟩ := decodeVarint_advances h
    rw [readVarint_eq, if_neg hdata, hfound]
    exact ⟨hle, rfl⟩
  · intro h
    obtain ⟨hle, h⟩ := h
    rw [readVarint_eq, if_neg hdata] at h
    rw [decodeVarint_eq]
    cases hfound : Encoding.decodeVarint (data.drop offset) with
    | error error =>
      rw [hfound] at h
      cases h
    | ok found =>
      rw [hfound] at h
      have hpair := Option.some.inj (Except.ok.inj h)
      rw [hpair]
      simp only [Except.map, List.length_drop]
      congr 2
      omega

theorem decodeVarint_eq_error {data : List UInt8} {offset : ℕ} (hdata : data.drop offset ≠ [])
    {error : VarintError} : decodeVarint data offset = .error error ↔
      readVarint (data.drop offset) = .error error := by
  rw [readVarint_eq, if_neg hdata, decodeVarint_eq]
  cases Encoding.decodeVarint (data.drop offset) with
  | error found => simp [Except.map]
  | ok found => simp [Except.map]

theorem decodeVarint_exact (data : List UInt8) (offset : ℕ) :
    (decodeVarint data offset = .error .tooLong ↔ Encoding.Overlong 10 (data.drop offset)) ∧
      (decodeVarint data offset = .error .truncated ↔ Encoding.Truncated 10 (data.drop offset)) ∧
      ∀ value next, decodeVarint data offset = .ok (value, next) ↔ next ≤ data.length ∧
        Encoding.Reads 10 (data.drop offset) value (data.drop next) := by
  rw [← Encoding.decodeVarint_eq_tooLong, ← Encoding.decodeVarint_eq_truncated]
  simp only [← Encoding.decodeVarint_eq_ok]
  refine ⟨?_, ?_, ?_⟩
  · rw [decodeVarint_eq]
    cases Encoding.decodeVarint (data.drop offset) with
    | error found => simp only [Except.map, Except.error.injEq]
    | ok found => simp only [Except.map, reduceCtorEq]
  · rw [decodeVarint_eq]
    cases Encoding.decodeVarint (data.drop offset) with
    | error found => simp only [Except.map, Except.error.injEq]
    | ok found => simp only [Except.map, reduceCtorEq]
  · intro value next
    constructor
    · intro h
      exact (decodeVarint_advances h).2
    · intro h
      obtain ⟨hnext, hread⟩ := h
      have hdata : data.drop offset ≠ [] := by
        intro hempty
        rw [hempty] at hread
        cases hread
      refine (decodeVarint_eq_ok hdata).2 ⟨hnext, ?_⟩
      rw [readVarint_eq, if_neg hdata, hread]
      rfl

theorem readVarint_exact (input : List UInt8) :
    (readVarint input = .error .tooLong ↔ Encoding.Overlong 10 input) ∧
      (readVarint input = .error .truncated ↔ input ≠ [] ∧ Encoding.Truncated 10 input) ∧
      (readVarint input = .ok none ↔ input = []) ∧
      ∀ value rest, readVarint input = .ok (some (value, rest)) ↔
        Encoding.Reads 10 input value rest := by
  rw [← Encoding.decodeVarint_eq_tooLong, ← Encoding.decodeVarint_eq_truncated]
  simp only [← Encoding.decodeVarint_eq_ok]
  rw [readVarint_eq]
  by_cases hempty : input = []
  · rw [if_pos hempty, hempty]
    refine ⟨⟨nofun, nofun⟩, ⟨nofun, fun h => absurd rfl h.1⟩, ⟨fun _ => rfl, fun _ => rfl⟩, ?_⟩
    intro value rest
    exact ⟨nofun, nofun⟩
  · rw [if_neg hempty]
    cases Encoding.decodeVarint input with
    | error found => simp [Except.map, hempty]
    | ok found => simp [Except.map, hempty, Prod.ext_iff]

theorem varintField_drop (data : List UInt8) (offset : ℕ) :
    (∃ error, decodeVarint data offset = .error error ∧
      varintField (data.drop offset) = .error (invalidVarint error)) ∨
    ∃ value next, decodeVarint data offset = .ok (value, next) ∧ next ≤ data.length ∧
      varintField (data.drop offset) = .ok (value, data.drop next) := by
  cases h : decodeVarint data offset with
  | error error =>
    refine .inl ⟨error, rfl, ?_⟩
    rw [decodeVarint_eq] at h
    unfold varintField
    cases hfound : Encoding.decodeVarint (data.drop offset) with
    | error found =>
      rw [hfound] at h
      rw [← Except.error.inj h]
    | ok found =>
      rw [hfound] at h
      cases h
  | ok found =>
    obtain ⟨value, next⟩ := found
    obtain ⟨-, hle, hfound⟩ := decodeVarint_advances h
    refine .inr ⟨value, next, rfl, hle, ?_⟩
    exact varintField_eq_ok.2 hfound

theorem checkedEnd_eq {data : List UInt8} {offset length : ℕ} (hdata : data.length < 2 ^ 64)
    (hoffset : offset ≤ data.length) : checkedEnd data offset length =
      if length ≤ (data.drop offset).length then some (offset + length) else none := by
  unfold checkedEnd
  rw [List.length_drop]
  by_cases h : length ≤ data.length - offset
  · rw [if_pos h, if_pos ⟨by omega, by omega⟩]
  · rw [if_neg h, if_neg (fun hend => h (by omega))]

theorem nextField_eq {data : List UInt8} {offset : ℕ} (hdata : data.length < 2 ^ 64) :
    nextField data offset = some ((DeltaFunnel.nextField (data.drop offset)).map
      fun found => (found.1, data.length - found.2.length)) := by
  have hskip : ∀ {next length number : ℕ}, next ≤ data.length →
      (skipBytes data next length).map (fun offset => ((⟨number, none, none⟩ : Field), offset)) =
        ((DeltaFunnel.skipBytes (data.drop next) length).bind fun rest =>
          .ok ((⟨number, none, none⟩ : Field), rest)).map
            fun found => (found.1, data.length - found.2.length) := by
    intro next length number hnext
    unfold skipBytes DeltaFunnel.skipBytes
    rw [checkedEnd_eq hdata hnext]
    split_ifs with hlength
    · rw [List.length_drop] at hlength
      simp only [Except.map, Except.bind, List.length_drop]
      congr 2
      omega
    · rfl
  have htag := varintField_drop data offset
  unfold nextField DeltaFunnel.nextField
  obtain ⟨error, hcode, hfield⟩ | ⟨tag, middle, hcode, hmiddle, hfield⟩ := htag
  · rw [hcode, hfield]
    rfl
  rw [hcode, hfield]
  have hvalue := varintField_drop data middle
  simp only [bind, Except.bind]
  split_ifs with hnumber
  · rfl
  generalize tag &&& 7 = wire
  -- the wire types in order: 3 and 4 are refused, as is what is past 5
  rcases wire with _ | _ | _ | _ | _ | _ | wire
  · obtain ⟨error, hcode, hfield⟩ | ⟨value, next, hcode, hnext, hfield⟩ := hvalue
    · simp only [hcode, hfield, Except.map]
    · simp only [hcode, hfield, pure, Except.pure, Except.map, List.length_drop]
      congr 3
      omega
  · simp only
    rw [hskip hmiddle]
    rfl
  · obtain ⟨error, hcode, hfield⟩ | ⟨length, start, hcode, hstart, hfield⟩ := hvalue
    · simp only [hcode, hfield, Except.map]
    · simp only [hcode, hfield, checkedEnd_eq hdata hstart]
      split_ifs with hlength
      · have hle := hlength
        rw [List.length_drop] at hle
        have hslice : slice? data start (start + length) =
            some ((data.drop start).take length) := by
          unfold slice?
          rw [if_pos ⟨by omega, by omega⟩, Nat.add_sub_cancel_left]
        simp only [hslice, Option.map_some, pure, Except.pure, Except.map, List.length_drop]
        congr 3
        omega
      · rfl
  · rfl
  · rfl
  · simp only
    rw [hskip hmiddle]
    rfl
  · rfl

/-- Varints and packets are written and read alike by every encoder and decoder, and every scan of
untrusted bytes ends within them. -/
theorem framing_agrees_in_both_directions :
    (∀ value < 2 ^ 64, ∀ output slice : List UInt8, slice.length = 10 →
      encodeVarint value output = output ++ encodeVarint value [] ∧
      encodeVarintInto value slice = some (encodeVarint value [] ++
        slice.drop (varintLength value), varintLength value) ∧
      varintLength value = (encodeVarint value []).length ∧
      ∀ before behind : List UInt8,
        decodeVarint (before ++ encodeVarint value [] ++ behind) before.length =
          .ok (value, before.length + varintLength value) ∧
        readVarint (encodeVarint value [] ++ behind) = .ok (some (value, behind))) ∧
    (∀ data : List UInt8,
      (data = [] → readVarint data = .ok none ∧ decodeVarint data 0 = .error .truncated) ∧
      ∀ offset, data.drop offset ≠ [] →
        (∀ value next, decodeVarint data offset = .ok (value, next) ↔ next ≤ data.length ∧
          readVarint (data.drop offset) = .ok (some (value, data.drop next))) ∧
        ∀ error, decodeVarint data offset = .error error ↔
          readVarint (data.drop offset) = .error error) ∧
    (∀ (data : List UInt8) (offset : ℕ),
      (decodeVarint data offset = .error .tooLong ↔ Encoding.Overlong 10 (data.drop offset)) ∧
      (decodeVarint data offset = .error .truncated ↔ Encoding.Truncated 10 (data.drop offset)) ∧
      ∀ value next, decodeVarint data offset = .ok (value, next) ↔ next ≤ data.length ∧
        Encoding.Reads 10 (data.drop offset) value (data.drop next)) ∧
    (∀ input : List UInt8,
      (readVarint input = .error .tooLong ↔ Encoding.Overlong 10 input) ∧
      (readVarint input = .error .truncated ↔ input ≠ [] ∧ Encoding.Truncated 10 input) ∧
      (readVarint input = .ok none ↔ input = []) ∧
      ∀ value rest, readVarint input = .ok (some (value, rest)) ↔
        Encoding.Reads 10 input value rest) ∧
    (∀ (data : List UInt8) (offset : ℕ), ∃ result, nextField data offset = some result ∧
      ∀ field next, result = .ok (field, next) → offset < next ∧ next ≤ data.length) ∧
    (∀ packet : Packet, ∃ result, inspectPacket packet = some result) ∧
    (∀ sample : List UInt8, ∃ outOfScope, isNotInScopeSample sample = some outOfScope) ∧
    ∀ (packet : Packet) (rest : List UInt8), packet.length ≤ maxTracePacketBytes →
      readPacket (appendTracePacket [] packet ++ rest) = .ok (some (packet, rest)) ∧
      ∃ written, writeTracePacket [] packet = some written ∧
        readPacket (written ++ rest) = .ok (some (packet, rest)) := by
  refine ⟨?_, ?_, decodeVarint_exact, readVarint_exact, nextField_advances, inspectPacket_ends,
    isNotInScopeSample_ends, ?_⟩
  · intro value hvalue output slice hslice
    -- both encoders write the bytes of the library, which both decoders read back
    obtain ⟨hencode, hlength, hinto⟩ := encoders_agree hvalue output slice hslice
    have hempty : encodeVarint value [] = Encoding.encodeVarint value :=
      (encoders_agree hvalue [] slice hslice).1
    rw [hempty, hencode, hlength, hinto]
    refine ⟨rfl, rfl, rfl, ?_⟩
    intro before behind
    refine ⟨decodeVarint_append before hvalue behind, ?_⟩
    have hne : Encoding.encodeVarint value ++ behind ≠ [] := by
      intro h
      exact Encoding.encodeVarint_ne_nil value (List.append_eq_nil_iff.1 h).1
    rw [readVarint_eq, if_neg hne, Encoding.decodeVarint_encodeVarint hvalue]
    rfl
  · intro data
    constructor
    · intro hempty
      rw [hempty]
      exact ⟨rfl, rfl⟩
    · intro offset hdata
      exact ⟨fun value next => decodeVarint_eq_ok hdata,
        fun error => decodeVarint_eq_error hdata⟩
  · intro packet rest hpacket
    have hlength : packet.length < 2 ^ 64 := lt_of_le_of_lt hpacket (by decide)
    have hread := readPacket_append (readPacket_framePacket hpacket) rest
    rw [appendTracePacket_eq [] hlength, readPacket_eq]
    refine ⟨hread, framePacket packet, writeTracePacket_eq [] hlength, ?_⟩
    rw [readPacket_eq]
    exact hread

theorem small_packet_framing_agrees :
    readPacket (appendTracePacket [] [8, 1] ++ [10]) = .ok (some ([8, 1], [10])) ∧
      (∀ before behind : List UInt8,
        decodeVarint (before ++ encodeVarint (2 ^ 64 - 1) [] ++ behind) before.length =
          .ok (2 ^ 64 - 1, before.length + varintLength (2 ^ 64 - 1))) ∧
      (∀ last : UInt8, 1 < last →
        decodeVarint (List.replicate 9 0xff ++ [last]) 0 = .error .tooLong ∧
          readVarint (List.replicate 9 0xff ++ [last]) = .error .tooLong) ∧
      decodeVarint [8, 1, 0xff] 2 = .error .truncated ∧ decodeVarint [8, 1] 7 = .error .truncated := by
  obtain ⟨hvarints, -, hdecode, hread, -, -, -, hpackets⟩ := framing_agrees_in_both_directions
  have hannouncing : Encoding.Announcing (List.replicate 9 0xff) := by
    intro byte hbyte
    rw [List.eq_of_mem_replicate hbyte]
    decide
  refine ⟨(hpackets [8, 1] [10] (by decide)).1, ?_, ?_, ?_, ?_⟩
  · intro before behind
    have hlargest := hvarints (2 ^ 64 - 1) (by decide) [] (List.replicate 10 0) rfl
    exact (hlargest.2.2.2 before behind).1
  · intro last hlast
    have hoverlong : Encoding.Overlong 10 (List.replicate 9 0xff ++ [last]) :=
      ⟨_, last, [], rfl, hannouncing, rfl, hlast⟩
    exact ⟨(hdecode _ 0).1.2 hoverlong, (hread _).1.2 hoverlong⟩
  · exact (hdecode [8, 1, 0xff] 2).2.1.2
      ⟨by decide, Encoding.announcing_cons.2 ⟨by decide, Encoding.announcing_nil⟩⟩
  · exact (hdecode [8, 1] 7).2.1.2 ⟨by decide, Encoding.announcing_nil⟩

end VarintLoops
end DeltaFunnel
