import DeltaFunnel.Encoding.FixedFields
import DeltaFunnel.PerfettoProfile.ReportAggregate

/-! The binary artifact of a ranked profile: its fixed header, and reading and writing it. -/

namespace DeltaFunnel
namespace ProfileArtifact
open Collections Encoding

def magic : List UInt8 := [0x44, 0x46, 0x50, 0x52, 0x4f, 0x46, 0, 0]
def artifactVersion : ℕ := 1
def headerLength : ℕ := 64
def rkyvFormatConfig : ℕ := 1
def maxArtifactBytes : ℕ := 512 * 1024 * 1024

def magicRange : ByteRange := ⟨0, 8⟩
def artifactVersionRange : ByteRange := ⟨8, 10⟩
def headerLengthRange : ByteRange := ⟨10, 12⟩
def schemaVersionRange : ByteRange := ⟨12, 16⟩
def rkyvConfigRange : ByteRange := ⟨16, 20⟩
def reservedWordRange : ByteRange := ⟨20, 24⟩
def payloadOffsetRange : ByteRange := ⟨24, 32⟩
def payloadLengthRange : ByteRange := ⟨32, 40⟩
def reservedTailRange : ByteRange := ⟨40, 64⟩

def inputFailure (kind message : String) : RankedReportFailure := ⟨.input, kind, message⟩

def outputFailure (kind message : String) : RankedReportFailure := ⟨.output, kind, message⟩

def artifactTooLarge : RankedReportFailure :=
  inputFailure "artifact_too_large" "artifact exceeds the 512 MiB safety limit"

def serializedArtifactTooLarge : RankedReportFailure :=
  ⟨.serialization, "artifact_too_large", "serialized artifact exceeds the 512 MiB safety limit"⟩

abbrev Header : Type := { bytes : List UInt8 // bytes.length = headerLength }

/-- `copy_from_slice` on a range of a header. -/
def Header.write (header : Header) (range : ByteRange) (field : List UInt8)
    (h : range.start ≤ range.stop ∧ range.stop ≤ headerLength ∧
      field.length = range.stop - range.start) : Header :=
  ⟨overwrite header.1 range field, by
    rw [overwrite_length h.1 (by rw [header.2]; exact h.2.1) h.2.2, header.2]⟩

def Header.zeros : Header := ⟨List.replicate headerLength 0, List.length_replicate⟩

def Header.set (header : Header) (index : ℕ) (byte : UInt8) : Header :=
  ⟨header.1.set index byte, by rw [List.length_set, header.2]⟩

def encodeHeader (payloadLength : ℕ) : Header :=
  Header.zeros
    |>.write magicRange magic (by decide)
    |>.write artifactVersionRange (toLeBytes 2 artifactVersion) (by decide)
    |>.write headerLengthRange (toLeBytes 2 headerLength) (by decide)
    |>.write schemaVersionRange (toLeBytes 4 rankedProfileSchemaVersion) (by decide)
    |>.write rkyvConfigRange (toLeBytes 4 rkyvFormatConfig) (by decide)
    |>.write payloadOffsetRange (toLeBytes 8 headerLength) (by decide)
    |>.write payloadLengthRange (toLeBytes 8 payloadLength) (by
      rw [toLeBytes_length]
      decide)

/-- `read_u16`, `read_u32` and `read_u64`, by the width of the range. -/
def readUint (header : Header) (range : ByteRange) : ℕ := fromLeBytes (part header.1 range)

/-- `usize::try_from` on a platform of 64 bits. -/
def toUsize (value : ℕ) : Option ℕ := if value < 2 ^ 64 then some value else none

def checkedAddUsize (a b : ℕ) : Option ℕ := toUsize (a + b)

/-- `alignment` is that of the archived document. -/
def parseHeader (alignment : ℕ) (header : Header) (fileLength : ℕ) :
    Except RankedReportFailure ByteRange := do
  failIf (part header.1 magicRange ≠ magic)
    (inputFailure "invalid_artifact_magic" "input is not a Delta Funnel ranked profile artifact")
  failIf (readUint header artifactVersionRange ≠ artifactVersion)
    (inputFailure "unsupported_artifact_version" "artifact format version is not supported")
  failIf (readUint header headerLengthRange ≠ headerLength)
    (inputFailure "invalid_artifact_header" "artifact header length is invalid")
  failIf (readUint header schemaVersionRange ≠ rankedProfileSchemaVersion)
    (inputFailure "unsupported_ranked_schema" "ranked profile schema version is not supported")
  failIf (readUint header rkyvConfigRange ≠ rkyvFormatConfig)
    (inputFailure "unsupported_rkyv_config" "artifact rkyv format configuration is not supported")
  failIf ((part header.1 reservedWordRange ++ part header.1 reservedTailRange).any (· ≠ 0) = true)
    (inputFailure "invalid_artifact_header" "artifact header has nonzero reserved bytes")
  let payloadOffset ← okOr (toUsize (readUint header payloadOffsetRange))
    (inputFailure "artifact_length_overflow" "artifact payload offset does not fit this platform")
  failIf (payloadOffset % alignment ≠ 0)
    (inputFailure "invalid_payload_alignment" "artifact payload is not correctly aligned")
  failIf (payloadOffset ≠ headerLength)
    (inputFailure "invalid_payload_offset" "artifact payload offset is invalid")
  let payloadLength ← okOr (toUsize (readUint header payloadLengthRange))
    (inputFailure "artifact_length_overflow" "artifact payload length does not fit this platform")
  let expectedLength ← okOr (checkedAddUsize payloadOffset payloadLength)
    (inputFailure "artifact_length_overflow" "artifact payload range overflows")
  failIf (expectedLength > maxArtifactBytes) artifactTooLarge
  failIf (expectedLength > fileLength)
    (inputFailure "truncated_artifact" "artifact payload is truncated")
  failIf (expectedLength < fileLength)
    (inputFailure "trailing_artifact_bytes" "artifact has bytes after its declared payload")
  .ok ⟨payloadOffset, expectedLength⟩

/-- The archive library at the document type. `access` checks the bytes and gives the archived
document, that `deserialize` then materializes. -/
structure Archiver where
  Archived : Type
  alignment : ℕ
  toBytes : RankedProfileDocument → Option (List UInt8)
  access : List UInt8 → Option Archived
  /-- The checks are one definition for both representations. -/
  view : Archived → RankedProfileDocument
  deserialize : Archived → Option RankedProfileDocument

/-- A file as it was opened: the length it reports and the bytes that reading it yields. -/
structure ProfileFile where
  reportedLength : ℕ
  contents : List UInt8
  deriving DecidableEq, Repr

def readExact (contents : List UInt8) (length : ℕ) :
    Except RankedReportFailure { bytes : List UInt8 // bytes.length = length } :=
  if h : length ≤ contents.length then .ok ⟨contents.take length, List.length_take_of_le h⟩
  else .error (inputFailure "artifact_unreadable" "artifact could not be read")

variable (archiver : Archiver) (order : IterationOrder ReportMap)
  (describe : RankedProfileValidationError → String)

def validateFor (phase : RankedReportFailurePhase) (document : RankedProfileDocument) :
    Except RankedReportFailure Unit :=
  match document.validate order with
  | .ok () => .ok ()
  | .error error => .error ⟨phase, "invalid_ranked_profile", describe error⟩

def readRankedProfileArtifact (file : Option ProfileFile) :
    Except RankedReportFailure RankedProfileDocument := do
  let file ← okOr file
    (inputFailure "artifact_unreadable" "artifact could not be read")
  let fileLength ← okOr (toUsize file.reportedLength) artifactTooLarge
  failIf (fileLength > maxArtifactBytes) artifactTooLarge
  failIf (fileLength < headerLength)
    (inputFailure "truncated_artifact" "artifact is shorter than its fixed header")
  let header ← readExact file.contents headerLength
  let payload ← parseHeader archiver.alignment header fileLength
  let rest ← readExact (file.contents.drop headerLength) (fileLength - headerLength)
  failIf (file.contents.drop fileLength ≠ [])
    (inputFailure "artifact_changed_while_reading" "artifact changed while it was being read")
  let archived ← okOr (archiver.access (part (header.1 ++ rest.1) payload))
    (inputFailure "invalid_archive" "artifact payload is not a valid archive")
  validateFor order describe .input (archiver.view archived)
  okOr (archiver.deserialize archived)
    (inputFailure "artifact_deserialize_failed" "artifact payload could not be materialized")

/-- What the steps of the file system answer while an artifact is written. -/
structure OutputFaults where
  createParent : Bool
  createTemporary : Bool
  write : Bool
  persist : Bool
  deriving DecidableEq, Repr

def writeRankedProfileArtifact (faults : OutputFaults) (document : RankedProfileDocument) :
    Except RankedReportFailure (List UInt8) := do
  validateFor order describe .aggregateValidation document
  let payload ← okOr (archiver.toBytes document)
    ⟨.serialization, "artifact_serialize_failed",
      "ranked profile artifact could not be serialized"⟩
  let length ← okOr (checkedAddUsize headerLength payload.length) serializedArtifactTooLarge
  failIf (length > maxArtifactBytes) serializedArtifactTooLarge
  let header := encodeHeader payload.length
  failIf (faults.createParent = true)
    (outputFailure "create_parent_failed" "artifact output directory could not be created")
  failIf (faults.createTemporary = true)
    (outputFailure "create_temporary_failed" "temporary artifact file could not be created")
  failIf (faults.write = true)
    (outputFailure "write_failed" "temporary artifact file could not be written")
  failIf (faults.persist = true)
    (outputFailure "persist_failed" "completed artifact could not be persisted")
  .ok (header.1 ++ payload)

theorem failIf_bind_eq_ok {α : Type} {condition : Prop} [Decidable condition]
    {failure : RankedReportFailure} {next : Unit → Except RankedReportFailure α} {result : α} :
    (failIf condition failure >>= next) = .ok result ↔ ¬condition ∧ next () = .ok result := by
  rw [except_bind_eq_ok]
  constructor
  · intro h
    obtain ⟨_, hpass, hnext⟩ := h
    exact ⟨failIf_eq_ok.1 hpass, hnext⟩
  · intro h
    exact ⟨(), failIf_eq_ok.2 h.1, h.2⟩

theorem okOr_bind_eq_ok {α β : Type} {value : Option α} {failure : RankedReportFailure}
    {next : α → Except RankedReportFailure β} {result : β} :
    (okOr value failure >>= next) = .ok result ↔
      ∃ found, value = some found ∧ next found = .ok result := by
  rw [except_bind_eq_ok]
  simp only [okOr_eq_ok]

theorem toUsize_eq_some {value found : ℕ} :
    toUsize value = some found ↔ value < 2 ^ 64 ∧ value = found := by
  unfold toUsize
  rw [Option.ite_none_right_eq_some, Option.some.injEq]

namespace Header

variable {header : Header} {range other : ByteRange} {field : List UInt8}
  {h : range.start ≤ range.stop ∧ range.stop ≤ headerLength ∧
    field.length = range.stop - range.start}

theorem part_write : part (header.write range field h).1 range = field :=
  part_overwrite h.1 (by rw [header.2]; exact h.2.1) h.2.2

theorem part_write_before (hother : other.stop ≤ range.start) :
    part (header.write range field h).1 other = part header.1 other :=
  part_overwrite_before hother (by rw [header.2]; exact h.1.trans h.2.1)

theorem part_write_behind (hother : range.stop ≤ other.start) :
    part (header.write range field h).1 other = part header.1 other :=
  part_overwrite_behind hother h.1 (by rw [header.2]; exact h.2.1) h.2.2

theorem part_zeros (h : range.stop ≤ headerLength) :
    part Header.zeros.1 range = List.replicate (range.stop - range.start) 0 :=
  part_replicate 0 h

end Header

theorem encodeHeader_parts (payloadLength : ℕ) :
    part (encodeHeader payloadLength).1 magicRange = magic ∧
    part (encodeHeader payloadLength).1 artifactVersionRange = toLeBytes 2 artifactVersion ∧
    part (encodeHeader payloadLength).1 headerLengthRange = toLeBytes 2 headerLength ∧
    part (encodeHeader payloadLength).1 schemaVersionRange =
      toLeBytes 4 rankedProfileSchemaVersion ∧
    part (encodeHeader payloadLength).1 rkyvConfigRange = toLeBytes 4 rkyvFormatConfig ∧
    part (encodeHeader payloadLength).1 reservedWordRange = List.replicate 4 0 ∧
    part (encodeHeader payloadLength).1 payloadOffsetRange = toLeBytes 8 headerLength ∧
    part (encodeHeader payloadLength).1 payloadLengthRange = toLeBytes 8 payloadLength ∧
    part (encodeHeader payloadLength).1 reservedTailRange = List.replicate 24 0 := by
  unfold encodeHeader
  refine ⟨?_, ?_, ?_, ?_, ?_, ?_, ?_, ?_, ?_⟩
  · iterate 6 rw [Header.part_write_before (by decide)]
    exact Header.part_write
  · iterate 5 rw [Header.part_write_before (by decide)]
    exact Header.part_write
  · iterate 4 rw [Header.part_write_before (by decide)]
    exact Header.part_write
  · iterate 3 rw [Header.part_write_before (by decide)]
    exact Header.part_write
  · iterate 2 rw [Header.part_write_before (by decide)]
    exact Header.part_write
  · iterate 2 rw [Header.part_write_before (by decide)]
    iterate 5 rw [Header.part_write_behind (by decide)]
    exact Header.part_zeros (by decide)
  · rw [Header.part_write_before (by decide)]
    exact Header.part_write
  · exact Header.part_write
  · iterate 7 rw [Header.part_write_behind (by decide)]
    exact Header.part_zeros (by decide)

theorem parseHeader_eq_ok {alignment fileLength : ℕ} {header : Header} {range : ByteRange} :
    parseHeader alignment header fileLength = .ok range ↔
      part header.1 magicRange = magic ∧
      readUint header artifactVersionRange = artifactVersion ∧
      readUint header headerLengthRange = headerLength ∧
      readUint header schemaVersionRange = rankedProfileSchemaVersion ∧
      readUint header rkyvConfigRange = rkyvFormatConfig ∧
      (∀ byte ∈ part header.1 reservedWordRange ++ part header.1 reservedTailRange, byte = 0) ∧
      readUint header payloadOffsetRange = headerLength ∧
      headerLength % alignment = 0 ∧
      headerLength + readUint header payloadLengthRange = fileLength ∧
      fileLength ≤ maxArtifactBytes ∧
      range = ⟨headerLength, fileLength⟩ := by
  have hsmall : maxArtifactBytes < 2 ^ 64 := by decide
  unfold parseHeader checkedAddUsize
  simp only [failIf_bind_eq_ok, okOr_bind_eq_ok, toUsize_eq_some, ne_eq, not_not,
    List.any_eq_true, decide_eq_true_eq, not_exists, not_and, not_lt, gt_iff_lt]
  constructor
  · intro h
    obtain ⟨hmagic, hversion, hlength, hschema, hconfig, hreserved, offset, ⟨-, rfl⟩, halign,
      hoffset, length, ⟨-, rfl⟩, expected, ⟨-, rfl⟩, hlarge, hfile, htrailing, hrange⟩ := h
    rw [hoffset] at halign hlarge hfile htrailing hrange
    have htotal := le_antisymm hfile htrailing
    rw [htotal] at hlarge hrange
    exact ⟨hmagic, hversion, hlength, hschema, hconfig, hreserved, hoffset, halign, htotal,
      hlarge, (Except.ok.inj hrange).symm⟩
  · intro h
    obtain ⟨hmagic, hversion, hlength, hschema, hconfig, hreserved, hoffset, halign, htotal,
      hlarge, rfl⟩ := h
    refine ⟨hmagic, hversion, hlength, hschema, hconfig, hreserved, headerLength,
      ⟨by rw [hoffset]; decide, hoffset⟩, halign, rfl, readUint header payloadLengthRange,
      ⟨by omega, rfl⟩, fileLength, ⟨by omega, htotal⟩, hlarge, le_refl _, le_refl _, rfl⟩

theorem eq_replicate_zero {bytes : List UInt8} {count : ℕ} (hlength : bytes.length = count)
    (h : ∀ byte ∈ bytes, byte = 0) : bytes = List.replicate count 0 := by
  rw [← hlength]
  exact List.eq_replicate_of_mem h

theorem Header.ext_parts {header other : Header}
    (hmagic : part header.1 magicRange = part other.1 magicRange)
    (hversion : part header.1 artifactVersionRange = part other.1 artifactVersionRange)
    (hlength : part header.1 headerLengthRange = part other.1 headerLengthRange)
    (hschema : part header.1 schemaVersionRange = part other.1 schemaVersionRange)
    (hconfig : part header.1 rkyvConfigRange = part other.1 rkyvConfigRange)
    (hword : part header.1 reservedWordRange = part other.1 reservedWordRange)
    (hoffset : part header.1 payloadOffsetRange = part other.1 payloadOffsetRange)
    (hpayload : part header.1 payloadLengthRange = part other.1 payloadLengthRange)
    (htail : part header.1 reservedTailRange = part other.1 reservedTailRange) :
    header = other := by
  have h := part_congr (by decide) (by decide) hmagic hversion
  have h := part_congr (by decide) (by decide) h hlength
  have h := part_congr (by decide) (by decide) h hschema
  have h := part_congr (by decide) (by decide) h hconfig
  have h := part_congr (by decide) (by decide) h hword
  have h := part_congr (by decide) (by decide) h hoffset
  have h := part_congr (by decide) (by decide) h hpayload
  have h := part_congr (by decide) (by decide) h htail
  apply Subtype.ext
  have hall := part_all header.2
  have hother := part_all other.2
  rw [← hall, ← hother]
  exact h

theorem readUint_eq_iff {header : Header} {range : ByteRange} {value : ℕ}
    (hstop : range.stop ≤ headerLength) (hvalue : value < 256 ^ (range.stop - range.start)) :
    readUint header range = value ↔
      part header.1 range = toLeBytes (range.stop - range.start) value :=
  fromLeBytes_eq_iff (part_length (by rw [header.2]; exact hstop)) hvalue

/-- The alignment of the buffer that an artifact is read into. -/
def bufferAlignment : ℕ := 16

theorem parseHeader_eq_ok_iff {alignment : ℕ} (halignment : alignment ∣ bufferAlignment)
    (header : Header) (fileLength : ℕ) (range : ByteRange) :
    parseHeader alignment header fileLength = .ok range ↔
      headerLength ≤ fileLength ∧ fileLength ≤ maxArtifactBytes ∧
        header = encodeHeader (fileLength - headerLength) ∧
        range = ⟨headerLength, fileLength⟩ := by
  have haligned : headerLength % alignment = 0 :=
    Nat.mod_eq_zero_of_dvd (halignment.trans (by decide))
  obtain ⟨hmagic, hversion, hlength, hschema, hconfig, hword, hoffset, hpayload, htail⟩ :=
    encodeHeader_parts (fileLength - headerLength)
  rw [parseHeader_eq_ok, readUint_eq_iff (by decide) (by decide),
    readUint_eq_iff (by decide) (by decide), readUint_eq_iff (by decide) (by decide),
    readUint_eq_iff (by decide) (by decide), readUint_eq_iff (by decide) (by decide)]
  constructor
  · intro h
    obtain ⟨hmagic', hversion', hlength', hschema', hconfig', hreserved, hoffset', -, htotal,
      hlarge, hrange⟩ := h
    have hdeclared : readUint header payloadLengthRange = fileLength - headerLength := by omega
    have hsmall : fileLength - headerLength < 256 ^ 8 :=
      lt_of_le_of_lt ((Nat.sub_le _ _).trans hlarge) (by decide)
    rw [readUint_eq_iff (by decide) hsmall] at hdeclared
    have hword' : part header.1 reservedWordRange = List.replicate 4 0 := by
      apply eq_replicate_zero (part_length (by rw [header.2]; decide))
      intro byte hbyte
      exact hreserved byte (List.mem_append_left _ hbyte)
    have htail' : part header.1 reservedTailRange = List.replicate 24 0 := by
      apply eq_replicate_zero (part_length (by rw [header.2]; decide))
      intro byte hbyte
      exact hreserved byte (List.mem_append_right _ hbyte)
    refine ⟨by omega, hlarge, ?_, hrange⟩
    exact Header.ext_parts (hmagic'.trans hmagic.symm) (hversion'.trans hversion.symm)
      (hlength'.trans hlength.symm) (hschema'.trans hschema.symm) (hconfig'.trans hconfig.symm)
      (hword'.trans hword.symm) (hoffset'.trans hoffset.symm) (hdeclared.trans hpayload.symm)
      (htail'.trans htail.symm)
  · intro h
    obtain ⟨hle, hlarge, rfl, hrange⟩ := h
    have hsmall : fileLength - headerLength < 256 ^ 8 :=
      lt_of_le_of_lt ((Nat.sub_le _ _).trans hlarge) (by decide)
    have hdeclared : readUint (encodeHeader (fileLength - headerLength)) payloadLengthRange =
        fileLength - headerLength :=
      (readUint_eq_iff (by decide) hsmall).2 hpayload
    refine ⟨hmagic, hversion, hlength, hschema, hconfig, ?_, hoffset, haligned, by omega, hlarge,
      hrange⟩
    intro byte hbyte
    rw [hword, htail, List.replicate_append_replicate] at hbyte
    exact List.eq_of_mem_replicate hbyte

/-- The header that an artifact starts with is exactly the one that its length determines. -/
theorem artifact_header_is_exact {alignment : ℕ} (halignment : alignment ∣ bufferAlignment) :
    (∀ header fileLength range, parseHeader alignment header fileLength = .ok range ↔
      headerLength ≤ fileLength ∧ fileLength ≤ maxArtifactBytes ∧
        header = encodeHeader (fileLength - headerLength) ∧
        range = ⟨headerLength, fileLength⟩) ∧
    (∀ payloadLength, headerLength + payloadLength ≤ maxArtifactBytes →
      parseHeader alignment (encodeHeader payloadLength) (headerLength + payloadLength) =
        .ok ⟨headerLength, headerLength + payloadLength⟩) ∧
    (∀ header fileLength range, parseHeader alignment header fileLength = .ok range →
      encodeHeader (range.stop - range.start) = header) ∧
    (∀ header fileLength range index byte, parseHeader alignment header fileLength = .ok range →
      index < headerLength → header.1[index]? ≠ some byte →
      ∃ failure, parseHeader alignment (header.set index byte) fileLength = .error failure) ∧
    (∀ header fileLength, 2 ^ 64 ≤ headerLength + readUint header payloadLengthRange →
      ∃ failure, parseHeader alignment header fileLength = .error failure) ∧
    ∀ header fileLength range, parseHeader alignment header fileLength = .ok range →
      range.start ≤ range.stop ∧ range.stop ≤ fileLength ∧
        range.stop = headerLength + readUint header payloadLengthRange := by
  have hexact := parseHeader_eq_ok_iff halignment
  refine ⟨hexact, ?_, ?_, ?_, ?_, ?_⟩
  · intro payloadLength h
    rw [hexact, Nat.add_sub_cancel_left]
    exact ⟨Nat.le_add_right _ _, h, rfl, rfl⟩
  · intro header fileLength range h
    obtain ⟨-, -, hheader, rfl⟩ := (hexact header fileLength range).1 h
    exact hheader.symm
  · intro header fileLength range index byte h hindex hbyte
    cases hchanged : parseHeader alignment (header.set index byte) fileLength with
    | error failure => exact ⟨failure, rfl⟩
    | ok range' =>
      -- both headers would be the one for the length, and the byte the old one
      obtain ⟨-, -, hheader, -⟩ := (hexact header fileLength range).1 h
      obtain ⟨-, -, hset, -⟩ := (hexact _ fileLength range').1 hchanged
      have hsame : header.1.set index byte = header.1 :=
        congrArg Subtype.val (hset.trans hheader.symm)
      have hget : (header.1.set index byte)[index]? = some byte :=
        List.getElem?_set_self (by rw [header.2]; exact hindex)
      rw [hsame] at hget
      exact absurd hget hbyte
  · intro header fileLength hoverflow
    cases hparse : parseHeader alignment header fileLength with
    | error failure => exact ⟨failure, rfl⟩
    | ok range =>
      obtain ⟨-, -, -, -, -, -, -, -, htotal, hlarge, -⟩ := parseHeader_eq_ok.1 hparse
      have hsmall : maxArtifactBytes < 2 ^ 64 := by decide
      omega
  · intro header fileLength range h
    obtain ⟨hle, -, -, rfl⟩ := (hexact header fileLength range).1 h
    obtain ⟨-, -, -, -, -, -, -, -, htotal, -, -⟩ := parseHeader_eq_ok.1 h
    exact ⟨hle, le_refl _, htotal.symm⟩

theorem small_artifact_header_is_exact :
    parseHeader 8 (encodeHeader 100) 164 = .ok ⟨64, 164⟩ ∧
      ∃ failure, parseHeader 8 ((encodeHeader 100).set 63 1) 164 = .error failure := by
  obtain ⟨-, hencoded, -, hchanged, -, -⟩ := artifact_header_is_exact (by decide : 8 ∣ 16)
  have h := hencoded 100 (by decide)
  exact ⟨h, hchanged (encodeHeader 100) 164 _ 63 1 h (by decide) (by decide)⟩

theorem readExact_eq_ok {contents : List UInt8} {length : ℕ}
    {bytes : { bytes : List UInt8 // bytes.length = length }} :
    readExact contents length = .ok bytes ↔
      length ≤ contents.length ∧ bytes.1 = contents.take length := by
  unfold readExact
  split
  · next h =>
    rw [Except.ok.injEq, Subtype.ext_iff]
    exact ⟨fun heq => ⟨h, heq.symm⟩, fun heq => heq.2.symm⟩
  · next h =>
    simp only [reduceCtorEq, false_iff, not_and]
    intro hle
    exact absurd hle h

theorem validateFor_eq_ok {order : IterationOrder ReportMap}
    {describe : RankedProfileValidationError → String} {phase : RankedReportFailurePhase} {document : RankedProfileDocument} :
    validateFor order describe phase document = .ok () ↔ document.validate order = .ok () := by
  unfold validateFor
  cases document.validate order with
  | error error => simp
  | ok result => simp

variable {archiver order describe}

theorem part_payload (header : Header) {payload : List UInt8} {fileLength : ℕ}
    (h : headerLength + payload.length = fileLength) :
    part (header.1 ++ payload) ⟨headerLength, fileLength⟩ = payload := by
  unfold part
  rw [List.drop_left' header.2, ← h, Nat.add_sub_cancel_left, List.take_length]

/-- A file is read exactly when it is a header and the payload it announces, of a length that the
file itself reports. -/
theorem readRankedProfileArtifact_eq_ok (halignment : archiver.alignment ∣ bufferAlignment)
    {file : Option ProfileFile} {document : RankedProfileDocument} :
    readRankedProfileArtifact archiver order describe file = .ok document ↔
      ∃ payload archived,
        file = some ⟨headerLength + payload.length, (encodeHeader payload.length).1 ++ payload⟩ ∧
        headerLength + payload.length ≤ maxArtifactBytes ∧
        archiver.access payload = some archived ∧
        (archiver.view archived).validate order = .ok () ∧
        archiver.deserialize archived = some document := by
  have hsmall : maxArtifactBytes < 2 ^ 64 := by decide
  unfold readRankedProfileArtifact
  simp only [okOr_bind_eq_ok, failIf_bind_eq_ok, toUsize_eq_some]
  constructor
  · intro h
    obtain ⟨file, rfl, fileLength, ⟨-, rfl⟩, -, -, h⟩ := h
    obtain ⟨header, hheader, h⟩ := except_bind_eq_ok.1 h
    obtain ⟨range, hrange, h⟩ := except_bind_eq_ok.1 h
    obtain ⟨payload, hpayload, h⟩ := except_bind_eq_ok.1 h
    obtain ⟨hend, h⟩ := failIf_bind_eq_ok.1 h
    obtain ⟨archived, haccess, h⟩ := okOr_bind_eq_ok.1 h
    obtain ⟨_, hvalid, hdocument⟩ := except_bind_eq_ok.1 h
    -- the header is the one that would be written for the length behind it
    obtain ⟨hle, hlarge, heq, rfl⟩ := (parseHeader_eq_ok_iff halignment _ _ _).1 hrange
    obtain ⟨-, hbytes⟩ := readExact_eq_ok.1 hheader
    obtain ⟨hrest, hpayload⟩ := readExact_eq_ok.1 hpayload
    have hlength : payload.1.length = file.reportedLength - headerLength := payload.2
    have hreported : headerLength + payload.1.length = file.reportedLength := by omega
    rw [part_payload header hreported] at haccess
    refine ⟨payload.1, archived, ?_, by omega, haccess, validateFor_eq_ok.1 hvalid,
      okOr_eq_ok.1 hdocument⟩
    rw [hreported, hlength, ← heq, hbytes, hpayload, ← List.take_add,
      Nat.add_sub_cancel' hle, List.take_of_length_le]
    exact List.drop_eq_nil_iff.1 (not_not.1 hend)
  · intro h
    obtain ⟨payload, archived, rfl, hlarge, haccess, hvalid, hdocument⟩ := h
    -- each read of the file finds the part that was put there
    have hlength : (encodeHeader payload.length).1.length = headerLength :=
      (encodeHeader payload.length).2
    have hheader : readExact ((encodeHeader payload.length).1 ++ payload) headerLength =
        .ok (encodeHeader payload.length) := by
      rw [readExact_eq_ok, List.length_append, hlength, List.take_left' hlength]
      exact ⟨Nat.le_add_right _ _, rfl⟩
    have hrange : parseHeader archiver.alignment (encodeHeader payload.length)
        (headerLength + payload.length) = .ok ⟨headerLength, headerLength + payload.length⟩ := by
      rw [parseHeader_eq_ok_iff halignment, Nat.add_sub_cancel_left]
      exact ⟨Nat.le_add_right _ _, hlarge, rfl, rfl⟩
    have hpayload : readExact (((encodeHeader payload.length).1 ++ payload).drop headerLength)
        (headerLength + payload.length - headerLength) =
          .ok ⟨payload, (Nat.add_sub_cancel_left ..).symm⟩ := by
      rw [readExact_eq_ok, List.drop_left' hlength]
      have hrest : headerLength + payload.length - headerLength = payload.length :=
        Nat.add_sub_cancel_left _ _
      exact ⟨hrest.le, (List.take_of_length_le hrest.ge).symm⟩
    refine ⟨_, rfl, _, ⟨lt_of_le_of_lt hlarge hsmall, rfl⟩, not_lt.2 hlarge, ?_, ?_⟩
    · show ¬headerLength + payload.length < headerLength
      omega
    · simp only
      rw [hheader, except_bind_eq_ok]
      refine ⟨_, rfl, ?_⟩
      rw [hrange, except_bind_eq_ok]
      refine ⟨_, rfl, ?_⟩
      rw [hpayload, except_bind_eq_ok]
      refine ⟨_, rfl, ?_⟩
      rw [failIf_bind_eq_ok, not_not, List.drop_eq_nil_iff, List.length_append, hlength]
      refine ⟨le_refl _, ?_⟩
      rw [okOr_bind_eq_ok, part_payload _ rfl]
      refine ⟨archived, haccess, ?_⟩
      rw [except_bind_eq_ok]
      exact ⟨(), validateFor_eq_ok.2 hvalid, okOr_eq_ok.2 hdocument⟩

/-- What was written is read back, where the archive library materializes what it serialized. -/
theorem readRankedProfileArtifact_written (halignment : archiver.alignment ∣ bufferAlignment)
    (harchive : ∀ document payload, archiver.toBytes document = some payload →
      ∃ archived, archiver.access payload = some archived ∧
        archiver.view archived = document ∧ archiver.deserialize archived = some document)
    {faults : OutputFaults} {document : RankedProfileDocument} {written : List UInt8}
    (h : writeRankedProfileArtifact archiver order describe faults document = .ok written) :
    readRankedProfileArtifact archiver order describe (some ⟨written.length, written⟩) =
      .ok document := by
  unfold writeRankedProfileArtifact at h
  obtain ⟨_, hvalid, h⟩ := except_bind_eq_ok.1 h
  obtain ⟨payload, hpayload, h⟩ := okOr_bind_eq_ok.1 h
  obtain ⟨total, htotal, h⟩ := okOr_bind_eq_ok.1 h
  obtain ⟨-, rfl⟩ := toUsize_eq_some.1 htotal
  obtain ⟨hlarge, h⟩ := failIf_bind_eq_ok.1 h
  simp only [failIf_bind_eq_ok] at h
  obtain ⟨-, -, -, -, hwritten⟩ := h
  obtain rfl := Except.ok.inj hwritten
  obtain ⟨archived, haccess, hview, hdeserialize⟩ := harchive document payload hpayload
  rw [readRankedProfileArtifact_eq_ok halignment]
  refine ⟨payload, archived, ?_, not_lt.1 hlarge, haccess, ?_, hdeserialize⟩
  · rw [List.length_append, (encodeHeader payload.length).2]
  · rw [hview]
    exact validateFor_eq_ok.1 hvalid

end ProfileArtifact
end DeltaFunnel
