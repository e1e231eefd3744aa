import DeltaFunnel.PerfettoProfile.TraceSanitizer

/-! How the bytes of a trace fall into packets and those of a packet into fields, and which packets
are dropped. -/

namespace DeltaFunnel
open Encoding

theorem varintField_eq_ok {data : List UInt8} {result : ℕ × List UInt8} :
    varintField data = .ok result ↔ decodeVarint data = .ok result := by
  unfold varintField
  split
  · next found h => rw [h, Except.ok.injEq, Except.ok.injEq]
  · next error h =>
    rw [h]
    constructor
    · exact fun h => by cases h
    · exact fun h => by cases h

theorem varintField_shorter {data rest : List UInt8} {value : ℕ}
    (h : varintField data = .ok (value, rest)) : rest.length < data.length :=
  decodeVarint_shorter (varintField_eq_ok.1 h)

theorem skipBytes_le {data rest : List UInt8} {length : ℕ}
    (h : skipBytes data length = .ok rest) : rest.length ≤ data.length := by
  unfold skipBytes at h
  split at h
  · obtain rfl := Except.ok.inj h
    rw [List.length_drop]
    exact Nat.sub_le _ _
  · cases h

theorem nextField_shorter {data rest : List UInt8} {field : Field}
    (h : nextField data = .ok (field, rest)) : rest.length < data.length := by
  unfold nextField at h
  obtain ⟨⟨tag, tail⟩, htag, h⟩ := except_bind_eq_ok.1 h
  have htail : tail.length < data.length := varintField_shorter htag
  refine lt_of_le_of_lt ?_ htail
  dsimp only at h
  split at h
  · cases h
  · split at h
    · obtain ⟨⟨value, after⟩, hvalue, h⟩ := except_bind_eq_ok.1 h
      obtain ⟨-, rfl⟩ := Prod.mk.inj (Except.ok.inj h)
      exact (varintField_shorter hvalue).le
    · obtain ⟨after, hskip, h⟩ := except_bind_eq_ok.1 h
      obtain ⟨-, rfl⟩ := Prod.mk.inj (Except.ok.inj h)
      exact skipBytes_le hskip
    · obtain ⟨⟨length, after⟩, hlength, h⟩ := except_bind_eq_ok.1 h
      dsimp only at h
      split at h
      · obtain ⟨-, rfl⟩ := Prod.mk.inj (Except.ok.inj h)
        rw [List.length_drop]
        exact (Nat.sub_le _ _).trans (varintField_shorter hlength).le
      · cases h
    · obtain ⟨after, hskip, h⟩ := except_bind_eq_ok.1 h
      obtain ⟨-, rfl⟩ := Prod.mk.inj (Except.ok.inj h)
      exact skipBytes_le hskip
    · cases h

/-- All bytes are those of the fields, one after the other. -/
inductive Fields : List UInt8 → List Field → Prop
  | done : Fields [] []
  | next {data rest : List UInt8} {field : Field} {fields : List Field}
      (hfield : nextField data = .ok (field, rest)) (hrest : Fields rest fields) :
      Fields data (field :: fields)

theorem fields_nil {fields : List Field} : Fields [] fields ↔ fields = [] := by
  constructor
  · intro h
    cases h with
    | done => rfl
    | next hfield _ => exact absurd (nextField_shorter hfield) (Nat.not_lt_zero _)
  · rintro rfl
    exact .done

theorem fields_cons {byte : UInt8} {bytes : List UInt8} {fields : List Field} :
    Fields (byte :: bytes) fields ↔
      ∃ field rest later, nextField (byte :: bytes) = .ok (field, rest) ∧ Fields rest later ∧
        fields = field :: later := by
  constructor
  · intro h
    cases h with
    | next hfield hrest => exact ⟨_, _, _, hfield, hrest, rfl⟩
  · rintro ⟨field, rest, later, hfield, hrest, rfl⟩
    exact .next hfield hrest

theorem not_fields_of_error {byte : UInt8} {bytes : List UInt8} {error : TraceError}
    (h : nextField (byte :: bytes) = .error error) (fields : List Field) :
    ¬Fields (byte :: bytes) fields := by
  intro hfields
  obtain ⟨field, rest, later, hfield, -, -⟩ := fields_cons.1 hfields
  rw [h] at hfield
  cases hfield

theorem exists_fields_after {byte : UInt8} {bytes rest : List UInt8} {field : Field}
    (h : nextField (byte :: bytes) = .ok (field, rest)) {P : List Field → Prop} :
    (∃ fields, Fields (byte :: bytes) fields ∧ P fields) ↔
      ∃ later, Fields rest later ∧ P (field :: later) := by
  constructor
  · rintro ⟨fields, hfields, hP⟩
    obtain ⟨found, tail, later, hfound, hlater, rfl⟩ := fields_cons.1 hfields
    rw [h] at hfound
    obtain ⟨rfl, rfl⟩ := Prod.mk.inj (Except.ok.inj hfound)
    exact ⟨later, hlater, hP⟩
  · rintro ⟨later, hlater, hP⟩
    exact ⟨field :: later, .next h hlater, hP⟩

def numbered (number : ℕ) (fields : List Field) : List Field :=
  fields.filter fun field => field.number = number

theorem numbered_cons_self {number : ℕ} {field : Field} (h : field.number = number)
    (fields : List Field) : numbered number (field :: fields) = field :: numbered number fields :=
  List.filter_cons_of_pos (by rw [h]; exact decide_eq_true rfl)

theorem numbered_cons_other {number : ℕ} {field : Field} (h : field.number ≠ number)
    (fields : List Field) : numbered number (field :: fields) = numbered number fields :=
  List.filter_cons_of_neg (by rw [decide_eq_true_iff]; exact h)

/-- A sample of varint fields only: those with no meaning for its scope, and one reason why it was
skipped, which is the scope. -/
structure OutOfScopeFields (fields : List Field) : Prop where
  varints : ∀ field ∈ fields, field.varint.isSome ∧
    (field.number ∈ [1, 2, 3, 5, 6, 7] ∨ field.number = sampleSkippedReasonField)
  reason : (numbered sampleSkippedReasonField fields).map (·.varint) =
    [some profilerSkipNotInScope]

/-- The rest of a sample when `reasons` were found before it. -/
def OutOfScopeRest (reasons : List (Option ℕ)) (fields : List Field) : Prop :=
  (∀ field ∈ fields, field.varint.isSome ∧
      (field.number ∈ [1, 2, 3, 5, 6, 7] ∨ field.number = sampleSkippedReasonField)) ∧
    reasons ++ (numbered sampleSkippedReasonField fields).map (·.varint) =
      [some profilerSkipNotInScope]

theorem outOfScopeRest_reason {reason : Option ℕ} {reasons : List (Option ℕ)} {field : Field}
    {fields : List Field} (hnumber : field.number = sampleSkippedReasonField)
    (hreason : field.varint = reason) (hsome : reason.isSome) :
    OutOfScopeRest reasons (field :: fields) ↔ OutOfScopeRest (reasons ++ [reason]) fields := by
  unfold OutOfScopeRest
  rw [numbered_cons_self hnumber, List.map_cons, hreason, List.append_assoc,
    List.singleton_append, List.forall_mem_cons, hreason]
  constructor
  · rintro ⟨⟨-, hfields⟩, hreasons⟩
    exact ⟨hfields, hreasons⟩
  · rintro ⟨hfields, hreasons⟩
    exact ⟨⟨⟨hsome, .inr hnumber⟩, hfields⟩, hreasons⟩

theorem outOfScopeRest_plain {reasons : List (Option ℕ)} {field : Field} {fields : List Field}
    (hnumber : field.number ≠ sampleSkippedReasonField) :
    OutOfScopeRest reasons (field :: fields) ↔
      (field.number ∈ [1, 2, 3, 5, 6, 7] ∧ field.varint.isSome) ∧ OutOfScopeRest reasons fields := by
  unfold OutOfScopeRest
  rw [numbered_cons_other hnumber, List.forall_mem_cons]
  constructor
  · rintro ⟨⟨⟨hsome, hplain⟩, hfields⟩, hreasons⟩
    exact ⟨⟨hplain.resolve_right hnumber, hsome⟩, hfields, hreasons⟩
  · rintro ⟨⟨hplain, hsome⟩, hfields, hreasons⟩
    exact ⟨⟨⟨hsome, .inl hplain⟩, hfields⟩, hreasons⟩

theorem not_outOfScopeRest_two {first second : Option ℕ} {fields : List Field} :
    ¬OutOfScopeRest [first, second] fields := by
  rintro ⟨-, hreasons⟩
  have hlength := congrArg List.length hreasons
  simp at hlength

theorem notInScopeLoop_nil (fuel : ℕ) (skippedReason : Option ℕ) :
    notInScopeLoop fuel [] skippedReason = true ↔
      ∃ fields, Fields [] fields ∧ OutOfScopeRest (skippedReason.toList.map some) fields := by
  have hloop : notInScopeLoop fuel [] skippedReason =
      decide (skippedReason = some profilerSkipNotInScope) := by
    cases fuel with
    | zero => rfl
    | succ fuel => rfl
  rw [hloop, decide_eq_true_iff]
  constructor
  · rintro rfl
    exact ⟨[], .done, fun field hfield => absurd hfield List.not_mem_nil, rfl⟩
  · rintro ⟨fields, hfields, -, hreasons⟩
    rw [fields_nil] at hfields
    subst hfields
    cases skippedReason with
    | none => cases hreasons
    | some value => exact (List.cons.inj hreasons).1

theorem notInScopeLoop_iff {fuel : ℕ} {sample : List UInt8} (hfuel : sample.length ≤ fuel)
    (skippedReason : Option ℕ) :
    notInScopeLoop fuel sample skippedReason = true ↔
      ∃ fields, Fields sample fields ∧ OutOfScopeRest (skippedReason.toList.map some) fields := by
  induction fuel generalizing sample skippedReason with
  | zero =>
    obtain rfl := List.eq_nil_of_length_eq_zero (Nat.le_zero.1 hfuel)
    exact notInScopeLoop_nil 0 skippedReason
  | succ fuel ih =>
    cases sample with
    | nil => exact notInScopeLoop_nil (fuel + 1) skippedReason
    | cons byte bytes =>
      rw [notInScopeLoop]
      split
      · next error herror =>
        -- A sample that does not parse to its end stays.
        refine iff_of_false Bool.false_ne_true ?_
        rintro ⟨fields, hfields, -⟩
        exact absurd hfields (not_fields_of_error herror fields)
      · next field rest hfield =>
        have hrest : rest.length ≤ fuel :=
          Nat.le_of_lt_succ (lt_of_lt_of_le (nextField_shorter hfield) hfuel)
        rw [exists_fields_after hfield]
        split
        · next hnumber =>
          cases hvarint : field.varint with
          | none =>
            refine iff_of_false Bool.false_ne_true ?_
            rintro ⟨later, -, hvarints, -⟩
            have hsome := (hvarints field (List.mem_cons_self ..)).1
            rw [hvarint] at hsome
            cases hsome
          | some value =>
            simp only [outOfScopeRest_reason hnumber hvarint (Option.isSome_some ..)]
            cases skippedReason with
            | none => exact ih hrest (some value)
            | some first =>
              refine iff_of_false Bool.false_ne_true ?_
              rintro ⟨later, -, hscope⟩
              exact absurd hscope not_outOfScopeRest_two
        · next hnumber =>
          simp only [outOfScopeRest_plain hnumber]
          split
          · next hplain =>
            rw [ih hrest skippedReason]
            simp only [hplain, and_self, true_and]
          · next hplain =>
            refine iff_of_false Bool.false_ne_true ?_
            rintro ⟨later, -, hfound, -⟩
            exact absurd hfound hplain

/-- A sample is out of scope when all its bytes are fields, and these say so. -/
def OutOfScopeSample (sample : List UInt8) : Prop :=
  ∃ fields, Fields sample fields ∧ OutOfScopeFields fields

theorem isNotInScopeSample_iff (sample : List UInt8) :
    isNotInScopeSample sample = true ↔ OutOfScopeSample sample := by
  rw [isNotInScopeSample, notInScopeLoop_iff (Nat.le_refl _)]
  constructor
  · rintro ⟨fields, hfields, hvarints, hreason⟩
    exact ⟨fields, hfields, ⟨hvarints, hreason⟩⟩
  · rintro ⟨fields, hfields, hscope⟩
    exact ⟨fields, hfields, hscope.varints, hscope.reason⟩

/-- A field beside the sample that may be lost with it: a varint, and where it controls the
sequence, a value that asks for nothing. -/
def AllowedEnvelope (field : Field) : Prop :=
  ∃ value, field.varint = some value ∧
    (field.number ∈ [trustedPacketSequenceIdField, trustedUidField, timestampField,
        timestampClockIdField, trustedPidField] ∨
      field.number = sequenceFlagsField ∧ (value = 0 ∨ value = sequenceNeedsIncrementalState) ∨
      (field.number = previousPacketDroppedField ∨ field.number = firstPacketOnSequenceField) ∧
        value = 0)

/-- The rest of a packet when `samples` were found before it. -/
def DroppableRest (samples : List (List UInt8)) (fields : List Field) : Prop :=
  (∀ field ∈ fields, field.number = perfSampleField ∨ AllowedEnvelope field) ∧
    ∃ sample, samples.map some ++ (numbered perfSampleField fields).map (·.delimited) =
        [some sample] ∧ OutOfScopeSample sample

/-- What the loop has seen when a packet may still be dropped. -/
def InspectState.Droppable (state : InspectState) (fields : List Field) : Prop :=
  state.compressed = none ∧ state.onlySkipEnvelopeFields = true ∧
    DroppableRest state.perfSample.toList fields

theorem droppableRest_sample {samples : List (List UInt8)} {sample : List UInt8} {field : Field}
    {fields : List Field} (hnumber : field.number = perfSampleField)
    (hsample : field.delimited = some sample) :
    DroppableRest samples (field :: fields) ↔ DroppableRest (samples ++ [sample]) fields := by
  unfold DroppableRest
  rw [numbered_cons_self hnumber, List.map_cons, hsample, List.map_append, List.append_assoc,
    List.forall_mem_cons]
  constructor
  · rintro ⟨⟨-, hfields⟩, hsamples⟩
    exact ⟨hfields, hsamples⟩
  · rintro ⟨hfields, hsamples⟩
    exact ⟨⟨.inl hnumber, hfields⟩, hsamples⟩

theorem droppableRest_other {samples : List (List UInt8)} {field : Field} {fields : List Field}
    (hnumber : field.number ≠ perfSampleField) :
    DroppableRest samples (field :: fields) ↔
      AllowedEnvelope field ∧ DroppableRest samples fields := by
  unfold DroppableRest
  rw [numbered_cons_other hnumber, List.forall_mem_cons]
  constructor
  · rintro ⟨⟨hfield, hfields⟩, hsamples⟩
    exact ⟨hfield.resolve_left hnumber, hfields, hsamples⟩
  · rintro ⟨hfield, hfields, hsamples⟩
    exact ⟨⟨.inr hfield, hfields⟩, hsamples⟩

theorem not_droppableRest_of_no_bytes {samples : List (List UInt8)} {field : Field}
    {fields : List Field} (hnumber : field.number = perfSampleField)
    (hnone : field.delimited = none) : ¬DroppableRest samples (field :: fields) := by
  rintro ⟨-, sample, hsamples, -⟩
  have hmem : none ∈ samples.map some ++
      (numbered perfSampleField (field :: fields)).map (·.delimited) := by
    rw [numbered_cons_self hnumber, List.map_cons, hnone]
    exact List.mem_append_right _ (List.mem_cons_self ..)
  rw [hsamples, List.mem_singleton] at hmem
  cases hmem

theorem not_droppableRest_two {first second : List UInt8} {fields : List Field} :
    ¬DroppableRest [first, second] fields := by
  rintro ⟨-, sample, hsamples, -⟩
  have hlength := congrArg List.length hsamples
  simp at hlength

theorem droppable_require (state : InspectState) (condition : Bool) (fields : List Field) :
    (state.require condition).Droppable fields ↔
      condition = true ∧ state.Droppable fields := by
  unfold InspectState.Droppable InspectState.require
  dsimp only
  rw [Bool.and_eq_true]
  tauto

theorem allowedEnvelope_iff {field : Field} :
    AllowedEnvelope field ↔
      (field.number ∈ [trustedPacketSequenceIdField, trustedUidField, timestampField,
          timestampClockIdField, trustedPidField] ∧ field.varint.isSome = true) ∨
        (field.number = sequenceFlagsField ∧ (field.varint.any fun flags =>
          flags = 0 ∨ flags = sequenceNeedsIncrementalState) = true) ∨
        ((field.number = previousPacketDroppedField ∨
          field.number = firstPacketOnSequenceField) ∧ field.varint = some 0) := by
  unfold AllowedEnvelope
  cases field.varint with
  | none => simp
  | some value => simp

theorem not_droppable_of_compressed_field {state : InspectState} {field : Field}
    {fields : List Field}
    (h : field.number = compressedPacketsField ∨ field.number = zstdCompressedPacketsField) :
    ¬state.Droppable (field :: fields) := by
  have hsample : field.number ≠ perfSampleField := by
    rcases h with h | h
    · rw [h]; decide
    · rw [h]; decide
  have henvelope : ¬AllowedEnvelope field := by
    rw [allowedEnvelope_iff]
    rcases h with h | h
    · simp only [h]
      exact fun h => by rcases h with ⟨h, -⟩ | ⟨h, -⟩ | ⟨h, -⟩ <;> revert h <;> decide
    · simp only [h]
      exact fun h => by rcases h with ⟨h, -⟩ | ⟨h, -⟩ | ⟨h, -⟩ <;> revert h <;> decide
  rintro ⟨-, -, hrest⟩
  exact henvelope ((droppableRest_other hsample).1 hrest).1

theorem inspectCompressed_droppable {state after : InspectState}
    {action : List UInt8 → PacketAction} {delimited : Option (List UInt8)}
    (h : inspectCompressed state action delimited = .inr after) (fields : List Field) :
    ¬after.Droppable fields := by
  unfold inspectCompressed at h
  split at h
  · cases h
  · split at h
    · cases h
    · obtain rfl := Sum.inr.inj h
      rintro ⟨hcompressed, -⟩
      cases hcompressed

theorem droppable_envelope {state : InspectState} {field : Field}
    (hsample : field.number ≠ perfSampleField) {condition : Bool}
    (hcondition : AllowedEnvelope field ↔ condition = true) (fields : List Field) :
    (state.require condition).Droppable fields ↔ state.Droppable (field :: fields) := by
  rw [droppable_require, ← hcondition]
  unfold InspectState.Droppable
  rw [droppableRest_other hsample]
  tauto

theorem inspectField_droppable {state after : InspectState} {field : Field}
    (h : inspectField state field = .inr after) (fields : List Field) :
    after.Droppable fields ↔ state.Droppable (field :: fields) := by
  unfold inspectField at h
  dsimp only at h
  split at h
  · next hnumber =>
    exact iff_of_false (inspectCompressed_droppable h fields)
      (not_droppable_of_compressed_field (.inl hnumber))
  split at h
  · next hnumber =>
    exact iff_of_false (inspectCompressed_droppable h fields)
      (not_droppable_of_compressed_field (.inr hnumber))
  split at h
  · next hnumber =>
    split at h
    · next hnone =>
      obtain rfl := Sum.inr.inj h
      refine iff_of_false ?_ ?_
      · rintro ⟨-, honly, -⟩
        cases honly
      · rintro ⟨-, -, hrest⟩
        exact not_droppableRest_of_no_bytes hnumber hnone hrest
    · next sample hsome =>
      obtain rfl := Sum.inr.inj h
      rw [droppable_require]
      unfold InspectState.Droppable
      dsimp only
      rw [droppableRest_sample hnumber hsome]
      cases hfound : state.perfSample with
      | none => simp
      | some first =>
        -- The second sample of a packet keeps it.
        refine iff_of_false ?_ ?_
        · rintro ⟨hnone, -⟩
          cases hnone
        · rintro ⟨-, -, hrest⟩
          exact not_droppableRest_two hrest
  have hsample : field.number ≠ perfSampleField := by assumption
  split at h
  · next hnumber =>
    obtain rfl := Sum.inr.inj h
    refine droppable_envelope hsample ?_ fields
    rw [allowedEnvelope_iff, hnumber]
    simp [trustedPacketSequenceIdField, sequenceFlagsField, previousPacketDroppedField,
      firstPacketOnSequenceField]
  split at h
  · next hnumber =>
    obtain rfl := Sum.inr.inj h
    refine droppable_envelope hsample ?_ fields
    rw [allowedEnvelope_iff, hnumber]
    simp [trustedPacketSequenceIdField, sequenceFlagsField, previousPacketDroppedField,
      firstPacketOnSequenceField, trustedUidField, timestampField, timestampClockIdField,
      trustedPidField]
  split at h
  · next hnumber =>
    obtain rfl := Sum.inr.inj h
    refine droppable_envelope hsample ?_ fields
    rw [allowedEnvelope_iff]
    rcases hnumber with hnumber | hnumber
    · rw [hnumber]
      simp [trustedPacketSequenceIdField, sequenceFlagsField, previousPacketDroppedField,
        firstPacketOnSequenceField, trustedUidField, timestampField, timestampClockIdField,
        trustedPidField]
    · rw [hnumber]
      simp [trustedPacketSequenceIdField, sequenceFlagsField, previousPacketDroppedField,
        firstPacketOnSequenceField, trustedUidField, timestampField, timestampClockIdField,
        trustedPidField]
  split at h
  · next hsequence hflags hcontrol hnumber =>
    obtain rfl := Sum.inr.inj h
    refine droppable_envelope hsample ?_ fields
    rw [allowedEnvelope_iff]
    simp only [hflags, hcontrol, false_and, or_false]
    exact and_iff_right (List.mem_cons_of_mem _ hnumber)
  · next hsequence hflags hcontrol hnumber =>
    obtain rfl := Sum.inr.inj h
    have henvelope : ¬AllowedEnvelope field := by
      rw [allowedEnvelope_iff, List.mem_cons]
      simp only [hsequence, hflags, hcontrol, hnumber, false_and, or_false, not_false_eq_true]
    refine iff_of_false ?_ ?_
    · rintro ⟨-, honly, -⟩
      cases honly
    · rintro ⟨-, -, hrest⟩
      exact henvelope ((droppableRest_other hsample).1 hrest).1

theorem inspectCompressed_inl {state : InspectState} {action : List UInt8 → PacketAction}
    {delimited : Option (List UInt8)} {answer : PacketAction}
    (h : inspectCompressed state action delimited = .inl answer) :
    answer = .keep ∨ answer = .keepUncompressed := by
  unfold inspectCompressed at h
  split at h
  · exact .inl (Sum.inl.inj h).symm
  · split at h
    · exact .inr (Sum.inl.inj h).symm
    · cases h

theorem inspectField_inl {state : InspectState} {field : Field} {action : PacketAction}
    (h : inspectField state field = .inl action) :
    (action = .keep ∨ action = .keepUncompressed) ∧
      (field.number = compressedPacketsField ∨ field.number = zstdCompressedPacketsField) := by
  unfold inspectField at h
  dsimp only at h
  split at h
  · next hnumber => exact ⟨inspectCompressed_inl h, .inl hnumber⟩
  split at h
  · next hnumber => exact ⟨inspectCompressed_inl h, .inr hnumber⟩
  · split_ifs at h
    split at h
    · cases h
    · cases h

theorem inspectCompressed_compressed {state after : InspectState}
    {action : List UInt8 → PacketAction} (haction : ∀ bytes, action bytes ≠ .drop)
    {delimited : Option (List UInt8)}
    (h : inspectCompressed state action delimited = .inr after) :
    after.compressed ≠ some .drop := by
  unfold inspectCompressed at h
  split at h
  · cases h
  · next bytes =>
    split at h
    · cases h
    · obtain rfl := Sum.inr.inj h
      exact fun hdrop => haction bytes (Option.some.inj hdrop)

theorem inspectField_compressed {state after : InspectState} {field : Field}
    (hstate : state.compressed ≠ some .drop) (h : inspectField state field = .inr after) :
    after.compressed ≠ some .drop := by
  unfold inspectField at h
  dsimp only at h
  split at h
  · exact inspectCompressed_compressed (fun _ hdrop => by cases hdrop) h
  split at h
  · exact inspectCompressed_compressed (fun _ hdrop => by cases hdrop) h
  · split_ifs at h
    · split at h
      · obtain rfl := Sum.inr.inj h
        exact hstate
      · obtain rfl := Sum.inr.inj h
        exact hstate
    all_goals
      obtain rfl := Sum.inr.inj h
      exact hstate

theorem answer_drop_iff {state : InspectState} (hstate : state.compressed ≠ some .drop) :
    state.answer = .drop ↔ state.Droppable [] := by
  unfold InspectState.answer InspectState.Droppable DroppableRest
  cases hcompressed : state.compressed with
  | some action =>
    refine iff_of_false ?_ ?_
    · dsimp only
      split
      · exact fun hdrop => hstate (by rw [hcompressed, hdrop])
      · exact fun hdrop => by cases hdrop
    · rintro ⟨hnone, -⟩
      cases hnone
  | none =>
    dsimp only
    cases hsample : state.perfSample with
    | none => simp [numbered]
    | some sample => simp [numbered, isNotInScopeSample_iff]

theorem inspectLoop_nil_drop_iff (fuel : ℕ) {state : InspectState}
    (hstate : state.compressed ≠ some .drop) :
    inspectLoop fuel [] state = .ok .drop ↔
      ∃ fields, Fields [] fields ∧ state.Droppable fields := by
  have hloop : inspectLoop fuel [] state = .ok state.answer := by
    cases fuel with
    | zero => rfl
    | succ fuel => rfl
  rw [hloop, Except.ok.injEq, answer_drop_iff hstate]
  simp only [fields_nil, exists_eq_left]

theorem inspectLoop_drop_iff {fuel : ℕ} {data : List UInt8} (hfuel : data.length ≤ fuel)
    {state : InspectState} (hstate : state.compressed ≠ some .drop) :
    inspectLoop fuel data state = .ok .drop ↔
      ∃ fields, Fields data fields ∧ state.Droppable fields := by
  induction fuel generalizing data state with
  | zero =>
    obtain rfl := List.eq_nil_of_length_eq_zero (Nat.le_zero.1 hfuel)
    exact inspectLoop_nil_drop_iff 0 hstate
  | succ fuel ih =>
    cases data with
    | nil => exact inspectLoop_nil_drop_iff (fuel + 1) hstate
    | cons byte bytes =>
      rw [inspectLoop]
      cases hfield : nextField (byte :: bytes) with
      | error error =>
        refine iff_of_false (fun h => by cases h) ?_
        rintro ⟨fields, hfields, -⟩
        exact not_fields_of_error hfield fields hfields
      | ok found =>
        obtain ⟨field, rest⟩ := found
        have hrest : rest.length ≤ fuel :=
          Nat.le_of_lt_succ (lt_of_lt_of_le (nextField_shorter hfield) hfuel)
        rw [exists_fields_after hfield]
        dsimp only [bind, Except.bind]
        cases hstep : inspectField state field with
        | inl action =>
          obtain ⟨haction, hnumber⟩ := inspectField_inl hstep
          refine iff_of_false ?_ ?_
          · rcases haction with rfl | rfl
            · exact fun h => by cases h
            · exact fun h => by cases h
          · rintro ⟨later, -, hdroppable⟩
            exact not_droppable_of_compressed_field hnumber hdroppable
        | inr after =>
          rw [ih hrest (inspectField_compressed hstate hstep)]
          simp only [inspectField_droppable hstep]

/-- All bytes are those of fields: one sample that is out of scope, and beside it only what may be
lost with it. -/
structure DroppablePacket (packet : Packet) (fields : List Field) (sample : List UInt8) : Prop where
  parses : Fields packet fields
  one_sample : (numbered perfSampleField fields).map (·.delimited) = [some sample]
  out_of_scope : OutOfScopeSample sample
  envelope : ∀ field ∈ fields, field.number ≠ perfSampleField → AllowedEnvelope field

theorem inspectPacket_drop_iff (packet : Packet) :
    inspectPacket packet = .ok .drop ↔ ∃ fields sample, DroppablePacket packet fields sample := by
  rw [inspectPacket, inspectLoop_drop_iff (Nat.le_refl _) (fun h => by cases h)]
  constructor
  · rintro ⟨fields, hfields, -, -, henvelope, sample, hsample, hscope⟩
    exact ⟨fields, sample, hfields, hsample, hscope,
      fun field hfield hnumber => (henvelope field hfield).resolve_left hnumber⟩
  · rintro ⟨fields, sample, hpacket⟩
    refine ⟨fields, hpacket.parses, rfl, rfl, fun field hfield => ?_, sample,
      hpacket.one_sample, hpacket.out_of_scope⟩
    exact or_iff_not_imp_left.2 (hpacket.envelope field hfield)

theorem readVarint_eq_none {input : List UInt8} : readVarint input = .ok none ↔ input = [] := by
  cases input with
  | nil => exact iff_of_true rfl rfl
  | cons byte bytes =>
    refine iff_of_false ?_ (List.cons_ne_nil _ _)
    show (varintField (byte :: bytes)).map some ≠ _
    cases varintField (byte :: bytes) with
    | error error => exact fun h => by cases h
    | ok found => exact fun h => by cases h

theorem readVarint_eq_some {input : List UInt8} {found : ℕ × List UInt8} :
    readVarint input = .ok (some found) ↔ decodeVarint input = .ok found := by
  cases input with
  | nil => exact iff_of_false (fun h => by cases h) (fun h => by cases h)
  | cons byte bytes =>
    rw [← varintField_eq_ok]
    show (varintField (byte :: bytes)).map some = _ ↔ _
    cases varintField (byte :: bytes) with
    | error error => exact iff_of_false (fun h => by cases h) (fun h => by cases h)
    | ok result =>
      show Except.ok (some result) = Except.ok (some found) ↔ _
      rw [Except.ok.injEq, Option.some.injEq, Except.ok.injEq]

theorem readPacket_eq_none {input : List UInt8} : readPacket input = .ok none ↔ input = [] := by
  constructor
  · intro h
    unfold readPacket at h
    obtain ⟨found, htag, h⟩ := except_bind_eq_ok.1 h
    cases found with
    | none => exact readVarint_eq_none.1 htag
    | some found =>
      obtain ⟨tag, tail⟩ := found
      dsimp only at h
      split at h
      · cases h
      · obtain ⟨found, hlength, h⟩ := except_bind_eq_ok.1 h
        cases found with
        | none => cases h
        | some found =>
          dsimp only at h
          split_ifs at h
          cases h
  · rintro rfl
    rfl

theorem readPacket_eq_some {input : List UInt8} {packet : Packet} {rest : List UInt8} :
    readPacket input = .ok (some (packet, rest)) ↔
      ∃ tail length body, decodeVarint input = .ok (tracePacketTag, tail) ∧
        decodeVarint tail = .ok (length, body) ∧ length ≤ maxTracePacketBytes ∧
        length ≤ body.length ∧ packet = body.take length ∧ rest = body.drop length := by
  constructor
  · intro h
    unfold readPacket at h
    obtain ⟨found, htag, h⟩ := except_bind_eq_ok.1 h
    cases found with
    | none => cases h
    | some found =>
      obtain ⟨tag, tail⟩ := found
      dsimp only at h
      split at h
      · cases h
      · next hequal =>
        obtain rfl := not_not.1 hequal
        obtain ⟨found, hlength, h⟩ := except_bind_eq_ok.1 h
        cases found with
        | none => cases h
        | some found =>
          obtain ⟨length, body⟩ := found
          dsimp only at h
          split at h
          · cases h
          · next hlimit =>
            split at h
            · next hbody =>
              obtain ⟨rfl, rfl⟩ := Prod.mk.inj (Option.some.inj (Except.ok.inj h))
              exact ⟨tail, length, body, readVarint_eq_some.1 htag, readVarint_eq_some.1 hlength,
                not_lt.1 hlimit, hbody, rfl, rfl⟩
            · cases h
  · rintro ⟨tail, length, body, htag, hlength, hlimit, hbody, rfl, rfl⟩
    unfold readPacket
    refine except_bind_eq_ok.2 ⟨_, readVarint_eq_some.2 htag, ?_⟩
    dsimp only
    rw [if_neg (not_not.2 rfl)]
    refine except_bind_eq_ok.2 ⟨_, readVarint_eq_some.2 hlength, ?_⟩
    dsimp only
    rw [if_neg (not_lt.2 hlimit), if_pos hbody]

theorem readPacket_length {input rest : List UInt8} {packet : Packet}
    (h : readPacket input = .ok (some (packet, rest))) : packet.length ≤ maxTracePacketBytes := by
  obtain ⟨tail, length, body, -, -, hlimit, -, rfl, -⟩ := readPacket_eq_some.1 h
  exact (List.length_take_le _ _).trans hlimit

theorem readPacket_append {input rest : List UInt8} {packet : Packet}
    (h : readPacket input = .ok (some (packet, rest))) (more : List UInt8) :
    readPacket (input ++ more) = .ok (some (packet, rest ++ more)) := by
  obtain ⟨tail, length, body, htag, hlength, hlimit, hbody, rfl, rfl⟩ := readPacket_eq_some.1 h
  refine readPacket_eq_some.2 ⟨tail ++ more, length, body ++ more, decodeVarint_append htag more,
    decodeVarint_append hlength more, hlimit, ?_, ?_, ?_⟩
  · rw [List.length_append]
    exact hbody.trans (Nat.le_add_right _ _)
  · rw [List.take_append_of_le_length hbody]
  · rw [List.drop_append_of_le_length hbody]

theorem decodeVarint_tag (rest : List UInt8) :
    decodeVarint (UInt8.ofNat tracePacketTag :: rest) = .ok (tracePacketTag, rest) := by
  have hsmall : tracePacketTag < 2 ^ 64 := by decide
  exact decodeVarint_encodeVarint hsmall rest

theorem readPacket_framePacket {packet : Packet} (h : packet.length ≤ maxTracePacketBytes) :
    readPacket (framePacket packet) = .ok (some (packet, [])) := by
  have hlength : packet.length < 2 ^ 64 := lt_of_le_of_lt h (by decide)
  refine readPacket_eq_some.2 ⟨encodeVarint packet.length ++ packet, packet.length, packet,
    decodeVarint_tag _, decodeVarint_encodeVarint hlength packet, h, le_rfl, ?_, ?_⟩
  · rw [List.take_length]
  · rw [List.drop_length]

inductive Reads : List UInt8 → List Packet → Prop
  | done : Reads [] []
  | next {input rest : List UInt8} {packet : Packet} {packets : List Packet}
      (hpacket : readPacket input = .ok (some (packet, rest))) (hrest : Reads rest packets) :
      Reads input (packet :: packets)

theorem Reads.unique {input : List UInt8} {packets others : List Packet} (h : Reads input packets)
    (hothers : Reads input others) : packets = others := by
  induction h generalizing others with
  | done =>
    cases hothers with
    | done => rfl
    | next hpacket _ => cases hpacket
  | next hpacket _ ih =>
    cases hothers with
    | done => cases hpacket
    | next hother hrest =>
      rw [hpacket] at hother
      obtain ⟨rfl, rfl⟩ := Prod.mk.inj (Option.some.inj (Except.ok.inj hother))
      rw [ih hrest]

theorem Reads.append {first second : List UInt8} {packets others : List Packet}
    (h : Reads first packets) (hothers : Reads second others) :
    Reads (first ++ second) (packets ++ others) := by
  induction h with
  | done => exact hothers
  | next hpacket _ ih => exact .next (readPacket_append hpacket second) ih

theorem Reads.framePacket {packet : Packet} (h : packet.length ≤ maxTracePacketBytes) :
    Reads (framePacket packet) [packet] :=
  .next (readPacket_framePacket h) .done

theorem Reads.length_le {input : List UInt8} {packets : List Packet} (h : Reads input packets) :
    ∀ packet ∈ packets, packet.length ≤ maxTracePacketBytes := by
  induction h with
  | done => exact fun packet hpacket => absurd hpacket List.not_mem_nil
  | next hpacket _ ih => exact List.forall_mem_cons.2 ⟨readPacket_length hpacket, ih⟩

end DeltaFunnel
