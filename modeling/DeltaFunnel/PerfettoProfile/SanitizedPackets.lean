import DeltaFunnel.PerfettoProfile.PacketScan

/-! What sanitizing does to a trace: the packets that are not dropped come out as they went in,
though in other chunks. -/

namespace DeltaFunnel
open Encoding

def Codec.contents (codec : Codec) (packet : Packet) : Option (List UInt8) :=
  match inspectPacket packet with
  | .ok (.deflate compressed) => codec.zlibDecode compressed
  | .ok (.zstd compressed) => codec.zstdDecode compressed
  | _ => none

def Codec.Opens (codec : Codec) (packet : Packet) (inside : List Packet) : Prop :=
  ∃ data, codec.contents packet = some data ∧ Reads data inside

theorem Codec.Opens.unique {codec : Codec} {packet : Packet} {inside others : List Packet}
    (h : codec.Opens packet inside) (hothers : codec.Opens packet others) : inside = others := by
  obtain ⟨data, hdata, hreads⟩ := h
  obtain ⟨bytes, hbytes, hother⟩ := hothers
  rw [hdata] at hbytes
  obtain rfl := Option.some.inj hbytes
  exact hreads.unique hother

/-- The packets are `leaves` when every compressed packet gives way to those inside it, to any
depth, and those that are dropped are left out, to the given depth. A packet that does not
decompress into packets is a leaf. -/
inductive Expands (codec : Codec) : ℕ → List Packet → List Packet → Prop
  | nil (depth : ℕ) : Expands codec depth [] []
  | drop {depth : ℕ} {packet : Packet} {packets leaves : List Packet}
      (hdrop : inspectPacket packet = .ok .drop) (hrest : Expands codec (depth + 1) packets leaves) :
      Expands codec (depth + 1) (packet :: packets) leaves
  | leaf {depth : ℕ} {packet : Packet} {packets leaves : List Packet}
      (hkept : depth = 0 ∨ inspectPacket packet ≠ .ok .drop)
      (hclosed : ∀ inside, ¬codec.Opens packet inside)
      (hrest : Expands codec depth packets leaves) :
      Expands codec depth (packet :: packets) (packet :: leaves)
  | opened {depth : ℕ} {packet : Packet} {inside packets within leaves : List Packet}
      (hopens : codec.Opens packet inside) (hinside : Expands codec (depth - 1) inside within)
      (hrest : Expands codec depth packets leaves) :
      Expands codec depth (packet :: packets) (within ++ leaves)

variable {codec : Codec}

theorem not_opens_of_drop {packet : Packet} (h : inspectPacket packet = .ok .drop)
    (inside : List Packet) : ¬codec.Opens packet inside := by
  rintro ⟨data, hdata, -⟩
  unfold Codec.contents at hdata
  rw [h] at hdata
  cases hdata

def ExpandsOne (codec : Codec) (depth : ℕ) (packet : Packet) (leaves : List Packet) : Prop :=
  (0 < depth ∧ inspectPacket packet = .ok .drop ∧ leaves = []) ∨
    ((depth = 0 ∨ inspectPacket packet ≠ .ok .drop) ∧
      (∀ inside, ¬codec.Opens packet inside) ∧ leaves = [packet]) ∨
    ∃ inside, codec.Opens packet inside ∧ Expands codec (depth - 1) inside leaves

theorem expands_nil_iff {depth : ℕ} {leaves : List Packet} :
    Expands codec depth [] leaves ↔ leaves = [] := by
  constructor
  · intro h
    cases h with
    | nil => rfl
  · rintro rfl
    exact .nil depth

theorem expands_cons_iff {depth : ℕ} {packet : Packet} {packets leaves : List Packet} :
    Expands codec depth (packet :: packets) leaves ↔
      ∃ within later, ExpandsOne codec depth packet within ∧ Expands codec depth packets later ∧
        leaves = within ++ later := by
  constructor
  · intro h
    cases h with
    | drop hdrop hrest => exact ⟨[], leaves, .inl ⟨Nat.succ_pos _, hdrop, rfl⟩, hrest, rfl⟩
    | leaf hkept hclosed hrest => exact ⟨[packet], _, .inr (.inl ⟨hkept, hclosed, rfl⟩), hrest, rfl⟩
    | opened hopens hinside hrest => exact ⟨_, _, .inr (.inr ⟨_, hopens, hinside⟩), hrest, rfl⟩
  · rintro ⟨within, later, hone, hrest, rfl⟩
    rcases hone with ⟨hdepth, hdrop, rfl⟩ | ⟨hkept, hclosed, rfl⟩ | ⟨inside, hopens, hinside⟩
    · obtain ⟨depth, rfl⟩ := Nat.exists_eq_succ_of_ne_zero hdepth.ne'
      exact .drop hdrop hrest
    · exact .leaf hkept hclosed hrest
    · exact .opened hopens hinside hrest

theorem expands_append_iff {depth : ℕ} {packets others leaves : List Packet} :
    Expands codec depth (packets ++ others) leaves ↔
      ∃ first second, Expands codec depth packets first ∧ Expands codec depth others second ∧
        leaves = first ++ second := by
  induction packets generalizing leaves with
  | nil =>
    simp only [List.nil_append, expands_nil_iff]
    constructor
    · exact fun h => ⟨[], leaves, rfl, h, rfl⟩
    · rintro ⟨first, second, rfl, h, rfl⟩
      exact h
  | cons packet packets ih =>
    simp only [List.cons_append, expands_cons_iff, ih]
    constructor
    · rintro ⟨within, later, hone, ⟨first, second, hfirst, hsecond, rfl⟩, rfl⟩
      exact ⟨within ++ first, second, ⟨within, first, hone, hfirst, rfl⟩, hsecond,
        (List.append_assoc ..).symm⟩
    · rintro ⟨_, second, ⟨within, first, hone, hfirst, rfl⟩, hsecond, rfl⟩
      exact ⟨within, first ++ second, hone, ⟨first, second, hfirst, hsecond, rfl⟩,
        List.append_assoc ..⟩

theorem expands_singleton_iff {depth : ℕ} {packet : Packet} {leaves : List Packet} :
    Expands codec depth [packet] leaves ↔ ExpandsOne codec depth packet leaves := by
  simp only [expands_cons_iff, expands_nil_iff]
  constructor
  · rintro ⟨within, later, hone, rfl, rfl⟩
    rwa [List.append_nil]
  · exact fun hone => ⟨leaves, [], hone, rfl, (List.append_nil _).symm⟩

/-- What is left of `packets` is what `kept` holds, nothing dropped from it. -/
def SameLeaves (codec : Codec) (depth : ℕ) (packets : List Packet) (kept : List Packet) : Prop :=
  ∀ leaves, Expands codec depth packets leaves ↔ Expands codec 0 kept leaves

theorem SameLeaves.append {depth : ℕ} {packets others kept more : List Packet}
    (h : SameLeaves codec depth packets kept) (hmore : SameLeaves codec depth others more) :
    SameLeaves codec depth (packets ++ others) (kept ++ more) := by
  intro leaves
  rw [expands_append_iff, expands_append_iff]
  simp only [h _, hmore _]

theorem sameLeaves_refl (packets : List Packet) : SameLeaves codec 0 packets packets :=
  fun _ => Iff.rfl

theorem sameLeaves_drop {depth : ℕ} {packet : Packet} (hdepth : 0 < depth)
    (hdrop : inspectPacket packet = .ok .drop) : SameLeaves codec depth [packet] [] := by
  intro leaves
  rw [expands_singleton_iff, expands_nil_iff]
  constructor
  · rintro (⟨-, -, hleaves⟩ | ⟨hkept, -, -⟩ | ⟨inside, hopens, -⟩)
    · exact hleaves
    · exact absurd hdrop (hkept.resolve_left hdepth.ne')
    · exact absurd hopens (not_opens_of_drop hdrop inside)
  · exact fun hleaves => .inl ⟨hdepth, hdrop, hleaves⟩

/-- A packet that is not dropped and not opened here gives the same at every depth of at most one. -/
theorem sameLeaves_keep {depth : ℕ} {packet : Packet} (hkept : inspectPacket packet ≠ .ok .drop)
    (hclosed : depth ≤ 1 ∨ ∀ inside, ¬codec.Opens packet inside) :
    SameLeaves codec depth [packet] [packet] := by
  intro leaves
  rw [expands_singleton_iff, expands_singleton_iff]
  constructor
  · rintro (⟨-, hdrop, -⟩ | ⟨-, hclosed, hleaves⟩ | ⟨inside, hopens, hinside⟩)
    · exact absurd hdrop hkept
    · exact .inr (.inl ⟨.inl rfl, hclosed, hleaves⟩)
    · rcases hclosed with hdepth | hclosed
      · rw [Nat.sub_eq_zero_of_le hdepth] at hinside
        exact .inr (.inr ⟨inside, hopens, hinside⟩)
      · exact absurd hopens (hclosed inside)
  · rintro (⟨hdepth, -, -⟩ | ⟨-, hclosed, hleaves⟩ | ⟨inside, hopens, hinside⟩)
    · exact absurd hdepth (Nat.lt_irrefl 0)
    · exact .inr (.inl ⟨.inr hkept, hclosed, hleaves⟩)
    · rcases hclosed with hdepth | hclosed
      · refine .inr (.inr ⟨inside, hopens, ?_⟩)
        rw [Nat.sub_eq_zero_of_le hdepth]
        exact hinside
      · exact absurd hopens (hclosed inside)

theorem sameLeaves_open {depth : ℕ} {packet : Packet} {inside kept : List Packet}
    (hopens : codec.Opens packet inside) (hinside : SameLeaves codec (depth - 1) inside kept) :
    SameLeaves codec depth [packet] kept := by
  intro leaves
  rw [expands_singleton_iff, ← hinside leaves]
  constructor
  · rintro (⟨-, hdrop, -⟩ | ⟨-, hclosed, -⟩ | ⟨others, hothers, hleaves⟩)
    · exact absurd hopens (not_opens_of_drop hdrop inside)
    · exact absurd hopens (hclosed inside)
    · rwa [hopens.unique hothers]
  · exact fun hleaves => .inr (.inr ⟨inside, hopens, hleaves⟩)

theorem inspectLoop_one {fuel : ℕ} {data : List UInt8} {field : Field} {state : InspectState}
    (hfield : nextField data = .ok (field, [])) (hfuel : data.length ≤ fuel) :
    inspectLoop fuel data state =
      match inspectField state field with
      | .inl action => .ok action
      | .inr after => .ok after.answer := by
  have hlength : 0 < data.length := nextField_shorter hfield
  obtain ⟨fuel, rfl⟩ := Nat.exists_eq_succ_of_ne_zero (hlength.trans_le hfuel).ne'
  obtain ⟨byte, bytes, rfl⟩ := List.exists_cons_of_length_pos hlength
  rw [inspectLoop, hfield]
  show (match inspectField state field with
    | .inl action => Except.ok action
    | .inr after => inspectLoop fuel [] after) = _
  cases inspectField state field with
  | inl action => rfl
  | inr after =>
    cases fuel with
    | zero => rfl
    | succ fuel => rfl

theorem nextField_compressedWrapper {compressed : List UInt8} (h : compressed.length < 2 ^ 64) :
    nextField (SanitizedTraceWriter.compressedWrapper compressed) =
      .ok (⟨compressedPacketsField, none, some compressed⟩, []) := by
  have hsmall : compressedPacketsField <<< 3 ||| 2 < 2 ^ 64 := by decide
  have htag : varintField (SanitizedTraceWriter.compressedWrapper compressed) =
      .ok (compressedPacketsField <<< 3 ||| 2, encodeVarint compressed.length ++ compressed) := by
    rw [varintField_eq_ok, SanitizedTraceWriter.compressedWrapper, List.append_assoc]
    exact decodeVarint_encodeVarint hsmall _
  have hlength : varintField (encodeVarint compressed.length ++ compressed) =
      .ok (compressed.length, compressed) :=
    varintField_eq_ok.2 (decodeVarint_encodeVarint h _)
  unfold nextField
  refine except_bind_eq_ok.2 ⟨_, htag, ?_⟩
  have hnumber : (compressedPacketsField <<< 3 ||| 2) >>> 3 = compressedPacketsField := by decide
  have htype : (compressedPacketsField <<< 3 ||| 2) &&& 7 = 2 := by decide
  simp only [hnumber, htype]
  rw [if_neg (by decide)]
  refine except_bind_eq_ok.2 ⟨_, hlength, ?_⟩
  simp only [le_refl, if_true, List.take_length, List.drop_length]
  rfl

theorem inspectPacket_compressedWrapper {compressed : List UInt8}
    (h : compressed.length < 2 ^ 64) :
    inspectPacket (SanitizedTraceWriter.compressedWrapper compressed) = .ok (.deflate compressed) := by
  rw [inspectPacket, inspectLoop_one (nextField_compressedWrapper h) le_rfl]
  rfl

theorem length_compressedWrapper_le (compressed : List UInt8) :
    (SanitizedTraceWriter.compressedWrapper compressed).length ≤ compressed.length + 12 := by
  have htag : (encodeVarint (compressedPacketsField <<< 3 ||| 2)).length = 2 := by decide
  have hlength := length_encodeVarint compressed.length
  rw [SanitizedTraceWriter.compressedWrapper, List.length_append, List.length_append, htag]
  omega

/-- The writer has written `items`: what it gave out and what waits in its chunk say the same. -/
structure Wrote (codec : Codec) (writer : SanitizedTraceWriter) (items outs waiting : List Packet) :
    Prop where
  output : Reads writer.output outs
  chunk : Reads writer.chunk waiting
  chunk_length : writer.chunk.length ≤ compressedChunkBytes
  same : SameLeaves codec 0 (outs ++ waiting) items

def HasWritten (codec : Codec) (writer : SanitizedTraceWriter) (items : List Packet) : Prop :=
  ∃ outs waiting, Wrote codec writer items outs waiting

theorem hasWritten_new : HasWritten codec .new [] :=
  ⟨[], [], .done, .done, Nat.zero_le _, sameLeaves_refl []⟩

theorem Wrote.flushChunk {writer : SanitizedTraceWriter} {items outs waiting : List Packet}
    (h : Wrote codec writer items outs waiting) :
    ∃ outs', Wrote codec (writer.flushChunk codec) items outs' [] ∧
      (writer.flushChunk codec).chunk = [] := by
  unfold SanitizedTraceWriter.flushChunk
  split
  · next hempty =>
    have hchunk : writer.chunk = [] := List.isEmpty_iff.1 hempty
    have hwaiting : waiting = [] := by
      have hreads := h.chunk
      rw [hchunk] at hreads
      exact hreads.unique .done
    subst hwaiting
    exact ⟨outs, h, hchunk⟩
  · next hfull =>
    have hbound := codec.zlibEncode_length writer.chunk h.chunk_length
    have hlimit : (SanitizedTraceWriter.compressedWrapper
        (codec.zlibEncode writer.chunk)).length ≤ maxTracePacketBytes :=
      (length_compressedWrapper_le _).trans hbound
    have hsmall : (codec.zlibEncode writer.chunk).length < 2 ^ 64 := by
      have hmax : maxTracePacketBytes < 2 ^ 64 := by decide
      omega
    have hopens : codec.Opens (SanitizedTraceWriter.compressedWrapper
        (codec.zlibEncode writer.chunk)) waiting := by
      refine ⟨writer.chunk, ?_, h.chunk⟩
      unfold Codec.contents
      rw [inspectPacket_compressedWrapper hsmall]
      exact codec.zlibDecode_zlibEncode writer.chunk
    refine ⟨outs ++ [_], ⟨h.output.append (.framePacket hlimit), .done, Nat.zero_le _, ?_⟩, rfl⟩
    rw [List.append_nil]
    intro leaves
    rw [← h.same leaves]
    exact (sameLeaves_refl outs).append (sameLeaves_open hopens (sameLeaves_refl waiting)) leaves

theorem HasWritten.writeUncompressedPacket {writer : SanitizedTraceWriter} {items : List Packet}
    (h : HasWritten codec writer items) {packet : Packet}
    (hpacket : packet.length ≤ maxTracePacketBytes) :
    HasWritten codec (writer.writeUncompressedPacket codec packet) (items ++ [packet]) := by
  obtain ⟨outs, waiting, hwrote⟩ := h
  obtain ⟨outs', hflushed, hchunk⟩ := hwrote.flushChunk
  refine ⟨outs' ++ [packet], [], hflushed.output.append (.framePacket hpacket), hflushed.chunk,
    hflushed.chunk_length, ?_⟩
  rw [List.append_nil]
  have hsame := hflushed.same
  rw [List.append_nil] at hsame
  exact hsame.append (sameLeaves_refl [packet])

theorem length_framePacket (packet : Packet) :
    (framePacket packet).length = 1 + (encodeVarint packet.length).length + packet.length := by
  rw [framePacket, List.cons_append, List.length_cons, List.length_append]
  omega

theorem HasWritten.append_chunk {writer : SanitizedTraceWriter} {items : List Packet}
    (h : HasWritten codec writer items) {packet : Packet}
    (hpacket : packet.length ≤ maxTracePacketBytes)
    (hfits : writer.chunk.length + (framePacket packet).length ≤ compressedChunkBytes) :
    HasWritten codec { writer with chunk := writer.chunk ++ framePacket packet }
      (items ++ [packet]) := by
  obtain ⟨outs, waiting, hwrote⟩ := h
  refine ⟨outs, waiting ++ [packet], hwrote.output, hwrote.chunk.append (.framePacket hpacket),
    ?_, ?_⟩
  · rw [List.length_append]
    exact hfits
  · rw [← List.append_assoc]
    exact hwrote.same.append (sameLeaves_refl [packet])

theorem HasWritten.writePacket {writer after : SanitizedTraceWriter} {items : List Packet}
    (h : HasWritten codec writer items) {packet : Packet}
    (hpacket : packet.length ≤ maxTracePacketBytes)
    (hwrite : writer.writePacket codec packet = .ok after) :
    HasWritten codec after (items ++ [packet]) := by
  unfold SanitizedTraceWriter.writePacket at hwrite
  obtain ⟨framed, hframed, hwrite⟩ := except_bind_eq_ok.1 hwrite
  have hlength : framed = (framePacket packet).length := by
    unfold tracePacketFramedLength at hframed
    dsimp only at hframed
    split at hframed
    · rw [length_framePacket]
      exact (Except.ok.inj hframed).symm
    · cases hframed
  split at hwrite
  · obtain rfl := Except.ok.inj hwrite
    exact h.writeUncompressedPacket hpacket
  · next hsmall =>
    obtain rfl := Except.ok.inj hwrite
    rw [hlength] at hsmall ⊢
    split
    · obtain ⟨outs, waiting, hwrote⟩ := h
      obtain ⟨outs', hflushed, hchunk⟩ := hwrote.flushChunk
      refine HasWritten.append_chunk ⟨outs', [], hflushed⟩ hpacket ?_
      rw [hchunk, List.length_nil, Nat.zero_add]
      exact not_lt.1 hsmall
    · next hfits => exact h.append_chunk hpacket (not_lt.1 hfits)

theorem HasWritten.finish {writer : SanitizedTraceWriter} {items : List Packet}
    (h : HasWritten codec writer items) :
    ∃ outs, Reads (writer.finish codec) outs ∧ SameLeaves codec 0 outs items := by
  obtain ⟨outs, waiting, hwrote⟩ := h
  obtain ⟨outs', hflushed, -⟩ := hwrote.flushChunk
  have hsame := hflushed.same
  rw [List.append_nil] at hsame
  exact ⟨outs', hflushed.output, hsame⟩

section Loop

variable {depth : ℕ} {onCompressed : Packet → Option (List UInt8) → SanitizedTraceWriter →
  TraceResult SanitizedTraceWriter}

def actOn (codec : Codec)
    (onCompressed : Packet → Option (List UInt8) → SanitizedTraceWriter →
      TraceResult SanitizedTraceWriter)
    (packet : Packet) (writer : SanitizedTraceWriter) :
    PacketAction → TraceResult SanitizedTraceWriter
  | .keep => writer.writePacket codec packet
  | .keepUncompressed => .ok (writer.writeUncompressedPacket codec packet)
  | .drop => .ok writer
  | .deflate compressed => onCompressed packet (codec.zlibDecode compressed) writer
  | .zstd compressed => onCompressed packet (codec.zstdDecode compressed) writer

theorem sanitizeLoop_succ (fuel : ℕ) (input : List UInt8) (writer : SanitizedTraceWriter) :
    sanitizeLoop codec onCompressed (fuel + 1) input writer = (do
      match ← readPacket input with
      | none => .ok writer
      | some (packet, input) =>
        let action ← inspectPacket packet
        let writer ← actOn codec onCompressed packet writer action
        sanitizeLoop codec onCompressed fuel input writer) := by
  rw [sanitizeLoop]
  congr 1
  funext found
  rcases found with _ | ⟨packet, rest⟩
  · rfl
  · show (inspectPacket packet >>= _) = (inspectPacket packet >>= _)
    congr 1
    funext action
    cases action <;> rfl

/-- What a handler of compressed packets does is what the packet gives at `depth`. -/
def HandlesCompressed (codec : Codec) (depth : ℕ)
    (onCompressed : Packet → Option (List UInt8) → SanitizedTraceWriter →
      TraceResult SanitizedTraceWriter) : Prop :=
  ∀ packet writer after items, inspectPacket packet ≠ .ok .drop →
    packet.length ≤ maxTracePacketBytes → HasWritten codec writer items →
    onCompressed packet (codec.contents packet) writer = .ok after →
    ∃ kept, HasWritten codec after (items ++ kept) ∧ SameLeaves codec depth [packet] kept

theorem not_opens_of_contents {packet : Packet} (h : codec.contents packet = none)
    (inside : List Packet) : ¬codec.Opens packet inside := by
  rintro ⟨data, hdata, -⟩
  rw [h] at hdata
  cases hdata

theorem HasWritten.actOn (hdepth : 0 < depth)
    (hcompressed : HandlesCompressed codec depth onCompressed)
    {writer after : SanitizedTraceWriter} {items : List Packet} (h : HasWritten codec writer items)
    {packet : Packet} {action : PacketAction} (hpacket : packet.length ≤ maxTracePacketBytes)
    (haction : inspectPacket packet = .ok action)
    (hstep : DeltaFunnel.actOn codec onCompressed packet writer action = .ok after) :
    ∃ kept, HasWritten codec after (items ++ kept) ∧ SameLeaves codec depth [packet] kept := by
  by_cases hdrop : action = .drop
  · subst hdrop
    obtain rfl := Except.ok.inj hstep
    refine ⟨[], ?_, sameLeaves_drop hdepth haction⟩
    rw [List.append_nil]
    exact h
  have hkept : inspectPacket packet ≠ .ok .drop := by
    rw [haction]
    exact fun h => hdrop (Except.ok.inj h)
  cases action with
  | keep =>
    have hcontents : codec.contents packet = none := by rw [Codec.contents, haction]
    exact ⟨[packet], h.writePacket hpacket hstep,
      sameLeaves_keep hkept (.inr (not_opens_of_contents hcontents))⟩
  | keepUncompressed =>
    have hcontents : codec.contents packet = none := by rw [Codec.contents, haction]
    obtain rfl := Except.ok.inj hstep
    exact ⟨[packet], h.writeUncompressedPacket hpacket,
      sameLeaves_keep hkept (.inr (not_opens_of_contents hcontents))⟩
  | drop => exact absurd rfl hdrop
  | deflate compressed =>
    have hcontents : codec.contents packet = codec.zlibDecode compressed := by
      rw [Codec.contents, haction]
    refine hcompressed packet writer after items hkept hpacket h ?_
    rw [hcontents]
    exact hstep
  | zstd compressed =>
    have hcontents : codec.contents packet = codec.zstdDecode compressed := by
      rw [Codec.contents, haction]
    refine hcompressed packet writer after items hkept hpacket h ?_
    rw [hcontents]
    exact hstep

theorem HasWritten.sanitizeLoop (hdepth : 0 < depth)
    (hcompressed : HandlesCompressed codec depth onCompressed) {fuel : ℕ} {input : List UInt8}
    {writer after : SanitizedTraceWriter} {items : List Packet} (h : HasWritten codec writer items)
    (hrun : DeltaFunnel.sanitizeLoop codec onCompressed fuel input writer = .ok after) :
    ∃ packets kept, Reads input packets ∧ HasWritten codec after (items ++ kept) ∧
      SameLeaves codec depth packets kept := by
  induction fuel generalizing input writer items with
  | zero => cases hrun
  | succ fuel ih =>
    rw [sanitizeLoop_succ] at hrun
    obtain ⟨found, hread, hrun⟩ := except_bind_eq_ok.1 hrun
    cases found with
    | none =>
      obtain rfl := readPacket_eq_none.1 hread
      obtain rfl := Except.ok.inj hrun
      refine ⟨[], [], .done, ?_, fun leaves => ?_⟩
      · rwa [List.append_nil]
      · rw [expands_nil_iff, expands_nil_iff]
    | some found =>
      obtain ⟨packet, rest⟩ := found
      obtain ⟨action, haction, hrun⟩ := except_bind_eq_ok.1 hrun
      obtain ⟨between, hstep, hrun⟩ := except_bind_eq_ok.1 hrun
      obtain ⟨first, hfirst, hone⟩ :=
        h.actOn hdepth hcompressed (readPacket_length hread) haction hstep
      obtain ⟨packets, kept, hreads, hwritten, hsame⟩ := ih hfirst hrun
      refine ⟨packet :: packets, first ++ kept, .next hread hreads, ?_, hone.append hsame⟩
      rwa [← List.append_assoc]

end Loop

theorem handlesCompressed_inside :
    HandlesCompressed codec 1 fun packet _ writer =>
      .ok (writer.writeUncompressedPacket codec packet) := by
  intro packet writer after items hkept hpacket h hstep
  obtain rfl := Except.ok.inj hstep
  exact ⟨[packet], h.writeUncompressedPacket hpacket, sameLeaves_keep hkept (.inl le_rfl)⟩

theorem sanitizeCompressedPackets_eq_ok {decoded : Option (List UInt8)}
    {writer after : SanitizedTraceWriter}
    (h : sanitizeCompressedPackets codec decoded writer = .ok after) :
    ∃ data, decoded = some data ∧ sanitizeInside codec data writer = .ok after := by
  cases decoded with
  | none => cases h
  | some data =>
    unfold sanitizeCompressedPackets at h
    obtain ⟨inside, hinside, h⟩ := except_bind_eq_ok.1 h
    split at h
    · cases h
    · next hlimit =>
      obtain rfl := Except.ok.inj h
      rw [List.take_of_length_le (Nat.le_of_lt (not_le.1 hlimit))] at hinside
      exact ⟨data, rfl, hinside⟩

theorem handlesCompressed_top :
    HandlesCompressed codec 2 fun _ decoded writer =>
      sanitizeCompressedPackets codec decoded writer := by
  intro packet writer after items hkept hpacket h hstep
  obtain ⟨data, hdata, hinside⟩ := sanitizeCompressedPackets_eq_ok hstep
  obtain ⟨packets, kept, hreads, hwritten, hsame⟩ :=
    h.sanitizeLoop Nat.one_pos handlesCompressed_inside hinside
  exact ⟨kept, hwritten, sameLeaves_open ⟨data, hdata, hreads⟩ hsame⟩

theorem sanitizeTrace_sameLeaves {input output : List UInt8}
    (h : sanitizeTrace codec input = .ok output) :
    ∃ ins outs, Reads input ins ∧ Reads output outs ∧
      ∀ leaves, Expands codec 0 outs leaves ↔ Expands codec 2 ins leaves := by
  unfold sanitizeTrace at h
  obtain ⟨writer, hrun, h⟩ := except_bind_eq_ok.1 h
  obtain rfl := Except.ok.inj h
  obtain ⟨ins, kept, hreads, hwritten, hsame⟩ :=
    hasWritten_new.sanitizeLoop Nat.two_pos handlesCompressed_top hrun
  obtain ⟨outs, houts, hleaves⟩ := hwritten.finish
  refine ⟨ins, outs, hreads, houts, fun leaves => ?_⟩
  rw [hleaves leaves, hsame leaves, List.nil_append]

/-- No packet inside a compressed one is compressed again. -/
def NoNestedChunk (codec : Codec) (packets : List Packet) : Prop :=
  ∀ packet ∈ packets, ∀ inside, codec.Opens packet inside → ∀ inner ∈ inside,
    ∀ compressed, inspectPacket inner ≠ .ok (.deflate compressed) ∧
      inspectPacket inner ≠ .ok (.zstd compressed)

theorem contents_eq_none {packet : Packet}
    (h : ∀ compressed, inspectPacket packet ≠ .ok (.deflate compressed) ∧
      inspectPacket packet ≠ .ok (.zstd compressed)) : codec.contents packet = none := by
  unfold Codec.contents
  split
  · next compressed haction => exact absurd haction (h compressed).1
  · next compressed haction => exact absurd haction (h compressed).2
  · rfl

theorem expands_closed {depth : ℕ} (hdepth : 0 < depth) {packets : List Packet}
    (h : ∀ packet ∈ packets, ∀ inside, ¬codec.Opens packet inside) :
    ∃ leaves, Expands codec depth packets leaves ∧
      ∀ leaf ∈ leaves, inspectPacket leaf ≠ .ok .drop := by
  induction packets with
  | nil => exact ⟨[], .nil depth, fun leaf hleaf => absurd hleaf List.not_mem_nil⟩
  | cons packet packets ih =>
    obtain ⟨hpacket, hpackets⟩ := List.forall_mem_cons.1 h
    obtain ⟨leaves, hleaves, hkept⟩ := ih hpackets
    by_cases hdrop : inspectPacket packet = .ok .drop
    · exact ⟨leaves, expands_cons_iff.2 ⟨[], leaves, .inl ⟨hdepth, hdrop, rfl⟩, hleaves, rfl⟩,
        hkept⟩
    · exact ⟨packet :: leaves, .leaf (.inr hdrop) hpacket hleaves,
        List.forall_mem_cons.2 ⟨hdrop, hkept⟩⟩

theorem expands_of_noNestedChunk {packets : List Packet} (h : NoNestedChunk codec packets) :
    ∃ leaves, Expands codec 2 packets leaves ∧
      ∀ leaf ∈ leaves, inspectPacket leaf ≠ .ok .drop := by
  induction packets with
  | nil => exact ⟨[], .nil 2, fun leaf hleaf => absurd hleaf List.not_mem_nil⟩
  | cons packet packets ih =>
    obtain ⟨hpacket, hpackets⟩ := List.forall_mem_cons.1 h
    obtain ⟨leaves, hleaves, hkept⟩ := ih hpackets
    by_cases hopens : ∃ inside, codec.Opens packet inside
    · obtain ⟨inside, hopens⟩ := hopens
      have hclosed : ∀ inner ∈ inside, ∀ deeper, ¬codec.Opens inner deeper := by
        intro inner hinner deeper
        exact not_opens_of_contents (contents_eq_none (hpacket inside hopens inner hinner)) deeper
      obtain ⟨within, hwithin, hinside⟩ := expands_closed Nat.one_pos hclosed
      refine ⟨within ++ leaves, .opened hopens hwithin hleaves, fun leaf hleaf => ?_⟩
      rcases List.mem_append.1 hleaf with hleaf | hleaf
      · exact hinside leaf hleaf
      · exact hkept leaf hleaf
    · have hclosed : ∀ other ∈ [packet], ∀ inside, ¬codec.Opens other inside := by
        intro other hother inside hinside
        rw [List.mem_singleton] at hother
        subst hother
        exact hopens ⟨inside, hinside⟩
      obtain ⟨within, hwithin, hone⟩ := expands_closed Nat.two_pos hclosed
      refine ⟨within ++ leaves, ?_, fun leaf hleaf => ?_⟩
      · exact expands_append_iff.2 ⟨within, leaves, hwithin, hleaves, rfl⟩
      · rcases List.mem_append.1 hleaf with hleaf | hleaf
        · exact hone leaf hleaf
        · exact hkept leaf hleaf

/-- Sanitizing only removes samples that are out of scope: a trace and what comes out of it have
the same leaves, in order and byte for byte, but for the packets that are dropped, and these are
known by their fields. Where no chunk is nested, none of them is left. -/
theorem sanitizeTrace_removes_only_out_of_scope {codec : Codec} {input output : List UInt8}
    (h : sanitizeTrace codec input = .ok output) :
    (∃ ins outs, Reads input ins ∧ Reads output outs ∧
        (∀ leaves, Expands codec 0 outs leaves ↔ Expands codec 2 ins leaves) ∧
        (NoNestedChunk codec ins → ∃ leaves, Expands codec 0 outs leaves ∧
          ∀ leaf ∈ leaves, inspectPacket leaf ≠ .ok .drop)) ∧
      ∀ packet, inspectPacket packet = .ok .drop ↔
        ∃ fields sample, DroppablePacket packet fields sample := by
  refine ⟨?_, inspectPacket_drop_iff⟩
  obtain ⟨ins, outs, hins, houts, hsame⟩ := sanitizeTrace_sameLeaves h
  refine ⟨ins, outs, hins, houts, hsame, fun hnested => ?_⟩
  obtain ⟨leaves, hleaves, hkept⟩ := expands_of_noNestedChunk hnested
  exact ⟨leaves, (hsame leaves).2 hleaves, hkept⟩

def mixedChunk : List UInt8 := [10, 2, 64, 7, 10, 6, 146, 4, 3, 144, 1, 4]

def mixedChunkZlib : List UInt8 :=
  [120, 156, 227, 98, 114, 96, 231, 98, 155, 196, 194, 60, 129, 145, 5, 0, 9, 21, 1, 146]

def timestampChunk : List UInt8 := [10, 2, 64, 7, 10, 2, 64, 9]

def timestampChunkZlib : List UInt8 :=
  [120, 156, 227, 98, 114, 96, 231, 98, 114, 224, 4, 0, 2, 192, 0, 169]

/-- Zlib on the two chunks; other data is marked as stored. -/
def sampleCodec : Codec where
  zlibEncode data :=
    if data = mixedChunk then mixedChunkZlib
    else if data = timestampChunk then timestampChunkZlib
    else 0 :: data
  zlibDecode
    | 0 :: data => some data
    | data =>
      if data = mixedChunkZlib then some mixedChunk
      else if data = timestampChunkZlib then some timestampChunk
      else none
  zstdDecode _ := none
  zlibDecode_zlibEncode data := by
    by_cases hmixed : data = mixedChunk
    · subst hmixed
      decide
    · by_cases htimes : data = timestampChunk
      · subst htimes
        decide
      · rw [if_neg hmixed, if_neg htimes]
        rfl
  zlibEncode_length data h := by
    have hlimit : compressedChunkBytes + 1 + 12 ≤ maxTracePacketBytes := by decide
    split
    · decide
    · split
      · decide
      · rw [List.length_cons]
        omega

def sampleTrace : List UInt8 :=
  framePacket (SanitizedTraceWriter.compressedWrapper mixedChunkZlib) ++
    framePacket [146, 4, 3, 144, 1, 4] ++ framePacket [64, 9]

theorem sampleTrace_removes_only_out_of_scope :
    ∃ output, sanitizeTrace sampleCodec sampleTrace = .ok output ∧
      (∃ ins outs, Reads sampleTrace ins ∧ Reads output outs ∧
        (∀ leaves, Expands sampleCodec 0 outs leaves ↔ Expands sampleCodec 2 ins leaves) ∧
        (NoNestedChunk sampleCodec ins → ∃ leaves, Expands sampleCodec 0 outs leaves ∧
          ∀ leaf ∈ leaves, inspectPacket leaf ≠ .ok .drop)) := by
  have h : sanitizeTrace sampleCodec sampleTrace =
      .ok (framePacket (SanitizedTraceWriter.compressedWrapper timestampChunkZlib)) := by
    decide
  exact ⟨_, h, (sanitizeTrace_removes_only_out_of_scope h).1⟩

end DeltaFunnel
