import DeltaFunnel.Encoding.Varint
import DeltaFunnel.Support

/-! Removing samples that are out of scope from a trace, before it is analysed. -/

namespace DeltaFunnel
open Encoding

abbrev Packet : Type := List UInt8

inductive TraceError where
  | invalidData (message : String)
  | decoder
  deriving DecidableEq, Repr

abbrev TraceResult (α : Type) : Type := Except TraceError α

def tracePacketTag : ℕ := 1 <<< 3 ||| 2
def perfSampleField : ℕ := 66
def compressedPacketsField : ℕ := 50
def zstdCompressedPacketsField : ℕ := 133
def sampleSkippedReasonField : ℕ := 18
def profilerSkipNotInScope : ℕ := 4
def sequenceFlagsField : ℕ := 13
def sequenceNeedsIncrementalState : ℕ := 2
def previousPacketDroppedField : ℕ := 42
def firstPacketOnSequenceField : ℕ := 87
def timestampField : ℕ := 8
def timestampClockIdField : ℕ := 58
def trustedPacketSequenceIdField : ℕ := 10
def trustedPidField : ℕ := 79
def trustedUidField : ℕ := 3
def compressedChunkBytes : ℕ := 384 * 1024
def maxTracePacketBytes : ℕ := 64 * 1024 * 1024
def maxDecompressedChunkBytes : ℕ := 64 * 1024 * 1024

/-- The compression libraries. A decoder gives the bytes that its reader yields up to the end, and
none where the reader fails otherwise. -/
structure Codec where
  zlibEncode : List UInt8 → List UInt8
  zlibDecode : List UInt8 → Option (List UInt8)
  zstdDecode : List UInt8 → Option (List UInt8)
  zlibDecode_zlibEncode : ∀ data, zlibDecode (zlibEncode data) = some data
  /-- Deflate falls back to stored blocks, so that a chunk hardly grows. -/
  zlibEncode_length : ∀ data, data.length ≤ compressedChunkBytes →
    (zlibEncode data).length + 12 ≤ maxTracePacketBytes

def invalidVarint : VarintError → TraceError
  | .truncated => .invalidData "protobuf varint is truncated"
  | .tooLong => .invalidData "protobuf varint exceeds 64 bits"

/-- `decode_varint`, with the data after the varint in place of the offset. -/
def varintField (data : List UInt8) : TraceResult (ℕ × List UInt8) :=
  match decodeVarint data with
  | .ok result => .ok result
  | .error error => .error (invalidVarint error)

structure Field where
  number : ℕ
  varint : Option ℕ
  delimited : Option (List UInt8)
  deriving DecidableEq, Repr

def skipBytes (data : List UInt8) (length : ℕ) : TraceResult (List UInt8) :=
  if length ≤ data.length then .ok (data.drop length)
  else .error (.invalidData "protobuf fixed-width field is truncated")

/-- A length of 64 bits always fits a `usize`. -/
def nextField (data : List UInt8) : TraceResult (Field × List UInt8) := do
  let (tag, data) ← varintField data
  let number := tag >>> 3
  if number = 0 ∨ number > 0x1fffffff then
    .error (.invalidData "protobuf field number is invalid")
  else
    match tag &&& 7 with
    | 0 => do
      let (value, data) ← varintField data
      return (⟨number, some value, none⟩, data)
    | 1 => do
      let data ← skipBytes data 8
      return (⟨number, none, none⟩, data)
    | 2 => do
      let (length, data) ← varintField data
      if length ≤ data.length then
        return (⟨number, none, some (data.take length)⟩, data.drop length)
      else .error (.invalidData "protobuf field is truncated")
    | 5 => do
      let data ← skipBytes data 4
      return (⟨number, none, none⟩, data)
    | _ => .error (.invalidData "protobuf wire type is unsupported")

/-- The loop of `is_not_in_scope_sample`. A field takes at least a byte, so that the fuel is never
used up. -/
def notInScopeLoop : ℕ → List UInt8 → Option ℕ → Bool
  | _, [], skippedReason => skippedReason = some profilerSkipNotInScope
  | 0, _ :: _, _ => false
  | fuel + 1, byte :: bytes, skippedReason =>
    match nextField (byte :: bytes) with
    | .error _ => false
    | .ok (field, rest) =>
      if field.number = sampleSkippedReasonField then
        match field.varint with
        | none => false
        | some value =>
          if skippedReason.isSome then false else notInScopeLoop fuel rest (some value)
      else if field.number ∈ [1, 2, 3, 5, 6, 7] ∧ field.varint.isSome then
        notInScopeLoop fuel rest skippedReason
      else false

def isNotInScopeSample (sample : List UInt8) : Bool := notInScopeLoop sample.length sample none

inductive PacketAction where
  | keep
  | keepUncompressed
  | drop
  | deflate (compressed : List UInt8)
  | zstd (compressed : List UInt8)
  deriving DecidableEq, Repr

structure InspectState where
  fieldCount : ℕ
  compressed : Option PacketAction
  perfSample : Option (List UInt8)
  onlySkipEnvelopeFields : Bool

/-- A compressed field, `action` being what it asks for. -/
def inspectCompressed (state : InspectState) (action : List UInt8 → PacketAction)
    (delimited : Option (List UInt8)) : PacketAction ⊕ InspectState :=
  match delimited with
  | none => .inl .keep
  | some bytes =>
    if state.compressed.isSome then .inl .keepUncompressed
    else .inr { state with compressed := some (action bytes) }

def InspectState.require (state : InspectState) (condition : Bool) : InspectState :=
  { state with onlySkipEnvelopeFields := state.onlySkipEnvelopeFields && condition }

/-- One field: an answer for the whole packet, or the state to go on with. -/
def inspectField (state : InspectState) (field : Field) : PacketAction ⊕ InspectState :=
  let state := { state with fieldCount := state.fieldCount + 1 }
  if field.number = compressedPacketsField then
    inspectCompressed state .deflate field.delimited
  else if field.number = zstdCompressedPacketsField then
    inspectCompressed state .zstd field.delimited
  else if field.number = perfSampleField then
    match field.delimited with
    | none => .inr { state with onlySkipEnvelopeFields := false }
    | some bytes =>
      .inr (({ state with perfSample := some bytes } : InspectState).require
        state.perfSample.isNone)
  else if field.number = trustedPacketSequenceIdField then
    .inr (state.require field.varint.isSome)
  else if field.number = sequenceFlagsField then
    .inr (state.require (field.varint.any fun flags =>
      flags = 0 ∨ flags = sequenceNeedsIncrementalState))
  else if field.number = previousPacketDroppedField ∨
      field.number = firstPacketOnSequenceField then
    .inr (state.require (field.varint = some 0))
  else if field.number ∈ [trustedUidField, timestampField, timestampClockIdField,
      trustedPidField] then
    .inr (state.require field.varint.isSome)
  else .inr { state with onlySkipEnvelopeFields := false }

def InspectState.answer (state : InspectState) : PacketAction :=
  match state.compressed with
  | some action => if state.fieldCount = 1 then action else .keepUncompressed
  | none =>
    if state.onlySkipEnvelopeFields ∧ state.perfSample.any isNotInScopeSample then .drop else .keep

/-- The loop of `inspect_packet`. -/
def inspectLoop : ℕ → List UInt8 → InspectState → TraceResult PacketAction
  | _, [], state => .ok state.answer
  | 0, _ :: _, _ => .error (.invalidData "protobuf varint is truncated")
  | fuel + 1, byte :: bytes, state => do
    let (field, rest) ← nextField (byte :: bytes)
    match inspectField state field with
    | .inl action => .ok action
    | .inr state => inspectLoop fuel rest state

def inspectPacket (packet : Packet) : TraceResult PacketAction :=
  inspectLoop packet.length packet ⟨0, none, none, true⟩

/-- `read_varint`: the end of the input where a varint could start is no error. -/
def readVarint (input : List UInt8) : TraceResult (Option (ℕ × List UInt8)) :=
  if input.isEmpty then .ok none else (varintField input).map some

def readPacket (input : List UInt8) : TraceResult (Option (Packet × List UInt8)) := do
  match ← readVarint input with
  | none => .ok none
  | some (tag, input) =>
    if tag ≠ tracePacketTag then
      .error (.invalidData "trace contains an unexpected outer protobuf field")
    else
      match ← readVarint input with
      | none => .error (.invalidData "trace packet length is truncated")
      | some (length, input) =>
        if length > maxTracePacketBytes then
          .error (.invalidData "trace packet exceeds the 64 MiB limit")
        else if length ≤ input.length then
          .ok (some (input.take length, input.drop length))
        else .error (.invalidData "trace packet is truncated")

/-- A packet as `append_trace_packet` and `write_trace_packet` frame it. -/
def framePacket (packet : Packet) : List UInt8 :=
  UInt8.ofNat tracePacketTag :: encodeVarint packet.length ++ packet

def tracePacketFramedLength (packetLength : ℕ) : TraceResult ℕ :=
  let length := 1 + (encodeVarint packetLength).length + packetLength
  if length < 2 ^ 64 then .ok length
  else .error (.invalidData "trace packet framed length overflowed")

structure SanitizedTraceWriter where
  output : List UInt8
  chunk : List UInt8

namespace SanitizedTraceWriter

def new : SanitizedTraceWriter := ⟨[], []⟩

def writeTracePacket (writer : SanitizedTraceWriter) (packet : Packet) : SanitizedTraceWriter :=
  { writer with output := writer.output ++ framePacket packet }

def compressedWrapper (compressed : List UInt8) : Packet :=
  encodeVarint (compressedPacketsField <<< 3 ||| 2) ++ encodeVarint compressed.length ++ compressed

def flushChunk (codec : Codec) (writer : SanitizedTraceWriter) : SanitizedTraceWriter :=
  if writer.chunk.isEmpty then writer
  else
    { writer.writeTracePacket (compressedWrapper (codec.zlibEncode writer.chunk)) with chunk := [] }

def writePacket (codec : Codec) (writer : SanitizedTraceWriter) (packet : Packet) :
    TraceResult SanitizedTraceWriter := do
  let framedLength ← tracePacketFramedLength packet.length
  if framedLength > compressedChunkBytes then
    return (writer.flushChunk codec).writeTracePacket packet
  else
    let writer :=
      if writer.chunk.length + framedLength > compressedChunkBytes then writer.flushChunk codec
      else writer
    return { writer with chunk := writer.chunk ++ framePacket packet }

def writeUncompressedPacket (codec : Codec) (writer : SanitizedTraceWriter) (packet : Packet) :
    SanitizedTraceWriter := (writer.flushChunk codec).writeTracePacket packet

def finish (codec : Codec) (writer : SanitizedTraceWriter) : List UInt8 :=
  (writer.flushChunk codec).output

end SanitizedTraceWriter

/-- The loop of `sanitize_packets`, `onCompressed` being what it does with a compressed packet:
the result of its decoder is given. A packet takes at least two bytes, so that the fuel is never
used up. -/
def sanitizeLoop (codec : Codec)
    (onCompressed : Packet → Option (List UInt8) → SanitizedTraceWriter →
      TraceResult SanitizedTraceWriter) :
    ℕ → List UInt8 → SanitizedTraceWriter → TraceResult SanitizedTraceWriter
  | 0, _, _ => .error (.invalidData "trace packet is truncated")
  | fuel + 1, input, writer => do
    match ← readPacket input with
    | none => .ok writer
    | some (packet, input) => do
      let action ← inspectPacket packet
      let writer ← match action with
        | .keep => writer.writePacket codec packet
        | .keepUncompressed => .ok (writer.writeUncompressedPacket codec packet)
        | .drop => .ok writer
        | .deflate compressed => onCompressed packet (codec.zlibDecode compressed) writer
        | .zstd compressed => onCompressed packet (codec.zstdDecode compressed) writer
      sanitizeLoop codec onCompressed fuel input writer

/-- `sanitize_packets` inside a compressed chunk, where a compressed packet is kept as it is. -/
def sanitizeInside (codec : Codec) (input : List UInt8) (writer : SanitizedTraceWriter) :
    TraceResult SanitizedTraceWriter :=
  sanitizeLoop codec (fun packet _ writer => .ok (writer.writeUncompressedPacket codec packet))
    (input.length + 1) input writer

/-- Only one byte more than the limit is taken from the decoder. -/
def sanitizeCompressedPackets (codec : Codec) (decoded : Option (List UInt8))
    (writer : SanitizedTraceWriter) : TraceResult SanitizedTraceWriter :=
  match decoded with
  | none => .error .decoder
  | some data => do
    let writer ← sanitizeInside codec (data.take (maxDecompressedChunkBytes + 1)) writer
    if data.length ≥ maxDecompressedChunkBytes + 1 then
      .error (.invalidData "decompressed packet chunk exceeds the 64 MiB limit")
    else .ok writer

def sanitizePackets (codec : Codec) (input : List UInt8) (writer : SanitizedTraceWriter) :
    TraceResult SanitizedTraceWriter :=
  sanitizeLoop codec (fun _ decoded writer => sanitizeCompressedPackets codec decoded writer)
    (input.length + 1) input writer

def sanitizeTrace (codec : Codec) (input : List UInt8) : TraceResult (List UInt8) := do
  let writer ← sanitizePackets codec input .new
  return writer.finish codec

end DeltaFunnel
