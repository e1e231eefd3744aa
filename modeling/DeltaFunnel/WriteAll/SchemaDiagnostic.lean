import DeltaFunnel.Collections.Budget
import DeltaFunnel.Support
import Mathlib.Data.List.Infix

/-! The text of a schema mismatch, cut so that it stays bounded when errors that wrap it sanitize
it again. -/

namespace DeltaFunnel
namespace SchemaDiagnostic
open Collections

def maxSchemaDiagnosticBytes : ℕ := 8 * 1024
def truncatedSchemaDiagnosticSuffix : String := "; additional details truncated"

/-- The bytes of a character that is sanitized in layers. -/
def sanitizedDisplayLen (character : Char) (remainingLayers : ℕ) : ℕ :=
  expandedWeight escapeDefault Char.utf8Size character remainingLayers

/-- The position is counted in characters. -/
def truncateSchemaDiagnostic (diagnostic : String) (sanitizationLayers : ℕ) : String :=
  match cutIndex (fun character => sanitizedDisplayLen character sanitizationLayers)
      maxSchemaDiagnosticBytes 0 diagnostic.toList with
  | none => diagnostic
  | some position =>
    String.ofList (diagnostic.toList.take position) ++ truncatedSchemaDiagnosticSuffix

def sanitizeLayers (layers : ℕ) (text : String) : String := sanitizeTextForDisplay^[layers] text

theorem utf8ByteSize_ofList (chars : List Char) :
    (String.ofList chars).utf8ByteSize = totalCost Char.utf8Size chars := by
  induction chars with
  | nil => rfl
  | cons c chars ih =>
    rw [String.ofList_cons, String.utf8ByteSize_append, String.utf8ByteSize_singleton, ih,
      totalCost_cons]

theorem sanitizeLayers_ofList (layers : ℕ) (chars : List Char) :
    sanitizeLayers layers (String.ofList chars) =
      String.ofList ((fun chars => chars.flatMap escapeDefault)^[layers] chars) := by
  unfold sanitizeLayers
  induction layers generalizing chars with
  | zero => rfl
  | succ layers ih =>
    rw [Function.iterate_succ_apply, Function.iterate_succ_apply, ← ih]
    unfold sanitizeTextForDisplay
    rw [String.toList_ofList]

theorem sanitizeLayers_size (layers : ℕ) (chars : List Char) :
    (sanitizeLayers layers (String.ofList chars)).utf8ByteSize =
      totalCost (fun character => sanitizedDisplayLen character layers) chars := by
  rw [sanitizeLayers_ofList, utf8ByteSize_ofList]
  exact (totalCost_expandedWeight layers chars).symm

theorem sanitizeLayers_toList_size (layers : ℕ) (text : String) :
    (sanitizeLayers layers text).utf8ByteSize =
      totalCost (fun character => sanitizedDisplayLen character layers) text.toList := by
  have h := sanitizeLayers_size layers text.toList
  rw [String.ofList_toList] at h
  exact h

theorem sanitizedDisplayLen_eq (character : Char) (layers : ℕ) :
    sanitizedDisplayLen character layers =
      (sanitizeLayers layers (String.singleton character)).utf8ByteSize := by
  have h := sanitizeLayers_size layers [character]
  rw [← String.singleton_eq_ofList] at h
  rw [h]
  rfl

theorem sanitize_suffix :
    sanitizeTextForDisplay truncatedSchemaDiagnosticSuffix = truncatedSchemaDiagnosticSuffix := by
  decide

theorem sanitizeLayers_suffix (layers : ℕ) :
    sanitizeLayers layers truncatedSchemaDiagnosticSuffix = truncatedSchemaDiagnosticSuffix :=
  Function.iterate_fixed sanitize_suffix layers

theorem truncate_of_within {diagnostic : String} {layers : ℕ}
    (h : (sanitizeLayers layers diagnostic).utf8ByteSize ≤ maxSchemaDiagnosticBytes) :
    truncateSchemaDiagnostic diagnostic layers = diagnostic := by
  rw [sanitizeLayers_toList_size] at h
  unfold truncateSchemaDiagnostic
  rw [(cutIndex_eq_none (Nat.zero_le _)).2 ((Nat.zero_add _).trans_le h)]

structure LongestWithin (diagnostic : String) (layers : ℕ) (kept : List Char) : Prop where
  beginning : kept <+: diagnostic.toList
  within : (sanitizeLayers layers (String.ofList kept)).utf8ByteSize ≤ maxSchemaDiagnosticBytes
  longest : ∀ other, other <+: diagnostic.toList →
    (sanitizeLayers layers (String.ofList other)).utf8ByteSize ≤ maxSchemaDiagnosticBytes →
    other.length ≤ kept.length

theorem truncate_of_exceeds {diagnostic : String} {layers : ℕ}
    (h : maxSchemaDiagnosticBytes < (sanitizeLayers layers diagnostic).utf8ByteSize) :
    ∃ kept, LongestWithin diagnostic layers kept ∧ truncateSchemaDiagnostic diagnostic layers =
      String.ofList kept ++ truncatedSchemaDiagnosticSuffix := by
  rw [sanitizeLayers_toList_size] at h
  unfold truncateSchemaDiagnostic
  cases hcut : cutIndex (fun character => sanitizedDisplayLen character layers)
      maxSchemaDiagnosticBytes 0 diagnostic.toList with
  | none =>
    have hwithin := (cutIndex_eq_none (Nat.zero_le _)).1 hcut
    omega
  | some position =>
    obtain ⟨hbefore, hlt, -⟩ := cutIndex_eq_some (Nat.zero_le _) hcut
    refine ⟨diagnostic.toList.take position, ⟨List.take_prefix _ _, ?_, ?_⟩, rfl⟩
    · rw [sanitizeLayers_size]
      exact (Nat.zero_add _).symm.trans_le hbefore
    · intro other hother hwithin
      rw [sanitizeLayers_size] at hwithin
      rw [List.length_take_of_le hlt.le]
      exact length_le_of_within (Nat.zero_le _) hcut hother ((Nat.zero_add _).trans_le hwithin)

theorem truncate_size_le (diagnostic : String) (layers : ℕ) :
    (sanitizeLayers layers (truncateSchemaDiagnostic diagnostic layers)).utf8ByteSize ≤
      maxSchemaDiagnosticBytes + truncatedSchemaDiagnosticSuffix.utf8ByteSize := by
  by_cases h : (sanitizeLayers layers diagnostic).utf8ByteSize ≤ maxSchemaDiagnosticBytes
  · rw [truncate_of_within h]
    exact h.trans (Nat.le_add_right _ _)
  · obtain ⟨kept, hkept, heq⟩ := truncate_of_exceeds (not_le.1 h)
    have hwithin := hkept.within
    have hsuffix := sanitizeLayers_toList_size layers truncatedSchemaDiagnosticSuffix
    rw [sanitizeLayers_suffix] at hsuffix
    rw [sanitizeLayers_size] at hwithin
    rw [heq, sanitizeLayers_toList_size, String.toList_append, String.toList_ofList,
      totalCost_append, ← hsuffix]
    exact Nat.add_le_add_right hwithin _

/-- A text is returned as it is when it is within the limit, and when it already is its longest
beginning within the limit with the suffix. -/
theorem truncate_eq_self_iff (diagnostic : String) (layers : ℕ) :
    truncateSchemaDiagnostic diagnostic layers = diagnostic ↔
      (sanitizeLayers layers diagnostic).utf8ByteSize ≤ maxSchemaDiagnosticBytes ∨
        ∃ kept, LongestWithin diagnostic layers kept ∧
          diagnostic = String.ofList kept ++ truncatedSchemaDiagnosticSuffix := by
  by_cases h : (sanitizeLayers layers diagnostic).utf8ByteSize ≤ maxSchemaDiagnosticBytes
  · exact iff_of_true (truncate_of_within h) (.inl h)
  · obtain ⟨kept, hkept, heq⟩ := truncate_of_exceeds (not_le.1 h)
    rw [heq]
    constructor
    · intro hself
      exact .inr ⟨kept, hkept, hself.symm⟩
    · intro hself
      obtain hwithin | ⟨other, hother, hself⟩ := hself
      · exact absurd hwithin h
      · -- the longest beginning within the limit is unique
        have hlengths : other.length = kept.length :=
          le_antisymm (hkept.longest other hother.beginning hother.within)
            (hother.longest kept hkept.beginning hkept.within)
        have hsame : other = kept := by
          rw [List.prefix_iff_eq_take.1 hother.beginning, List.prefix_iff_eq_take.1 hkept.beginning,
            hlengths]
        rw [← hsame]
        exact hself.symm

/-- Diagnostics stay bounded through any number of sanitizing layers. -/
theorem schema_diagnostics_stay_bounded (layers : ℕ) :
    (∀ character, sanitizedDisplayLen character layers =
      (sanitizeLayers layers (String.singleton character)).utf8ByteSize) ∧
    (∀ diagnostic, (sanitizeLayers layers diagnostic).utf8ByteSize ≤ maxSchemaDiagnosticBytes →
      truncateSchemaDiagnostic diagnostic layers = diagnostic) ∧
    (∀ diagnostic, maxSchemaDiagnosticBytes < (sanitizeLayers layers diagnostic).utf8ByteSize →
      ∃ kept, kept <+: diagnostic.toList ∧
        (sanitizeLayers layers (String.ofList kept)).utf8ByteSize ≤ maxSchemaDiagnosticBytes ∧
        (∀ other, other <+: diagnostic.toList →
          (sanitizeLayers layers (String.ofList other)).utf8ByteSize ≤ maxSchemaDiagnosticBytes →
          other.length ≤ kept.length) ∧
        truncateSchemaDiagnostic diagnostic layers =
          String.ofList kept ++ truncatedSchemaDiagnosticSuffix) ∧
    (∀ diagnostic, truncateSchemaDiagnostic diagnostic layers = diagnostic ↔
      (sanitizeLayers layers diagnostic).utf8ByteSize ≤ maxSchemaDiagnosticBytes ∨
        ∃ kept, LongestWithin diagnostic layers kept ∧
          diagnostic = String.ofList kept ++ truncatedSchemaDiagnosticSuffix) ∧
    ∀ diagnostic, (sanitizeLayers layers
      (truncateSchemaDiagnostic diagnostic layers)).utf8ByteSize ≤
        maxSchemaDiagnosticBytes + truncatedSchemaDiagnosticSuffix.utf8ByteSize := by
  refine ⟨fun character => sanitizedDisplayLen_eq character layers,
    fun diagnostic => truncate_of_within, ?_,
    fun diagnostic => truncate_eq_self_iff diagnostic layers,
    fun diagnostic => truncate_size_le diagnostic layers⟩
  intro diagnostic h
  obtain ⟨kept, hkept, heq⟩ := truncate_of_exceeds h
  exact ⟨kept, hkept.beginning, hkept.within, hkept.longest, heq⟩

theorem short_schema_diagnostic_stays_bounded :
    truncateSchemaDiagnostic "field `a`" 6 = "field `a`" :=
  (schema_diagnostics_stay_bounded 6).2.1 _ (by decide)

/-- A text over the limit whose beginning of exactly the limit is followed by the suffix. -/
def suffixedDiagnostic : String :=
  String.ofList (List.replicate maxSchemaDiagnosticBytes 'x') ++ truncatedSchemaDiagnosticSuffix

theorem suffixedDiagnostic_unchanged_over_limit :
    maxSchemaDiagnosticBytes < (sanitizeLayers 0 suffixedDiagnostic).utf8ByteSize ∧
      truncateSchemaDiagnostic suffixedDiagnostic 0 = suffixedDiagnostic := by
  have hletters : totalCost Char.utf8Size (List.replicate maxSchemaDiagnosticBytes 'x') =
      maxSchemaDiagnosticBytes := by
    unfold totalCost
    rw [List.map_replicate, List.sum_replicate]
    rfl
  have hexceeds : maxSchemaDiagnosticBytes <
      (sanitizeLayers 0 suffixedDiagnostic).utf8ByteSize := by
    show _ < (String.ofList _ ++ truncatedSchemaDiagnosticSuffix).utf8ByteSize
    rw [String.utf8ByteSize_append, utf8ByteSize_ofList, hletters]
    have hsuffix : 0 < truncatedSchemaDiagnosticSuffix.utf8ByteSize := by decide
    omega
  refine ⟨hexceeds, ?_⟩
  obtain ⟨kept, hkept, heq⟩ := truncate_of_exceeds hexceeds
  have hchars : suffixedDiagnostic.toList =
      List.replicate maxSchemaDiagnosticBytes 'x' ++ truncatedSchemaDiagnosticSuffix.toList := by
    unfold suffixedDiagnostic
    rw [String.toList_append, String.toList_ofList]
  have hwithin : totalCost Char.utf8Size kept ≤ maxSchemaDiagnosticBytes := by
    have h := hkept.within
    rw [sanitizeLayers_size] at h
    exact h
  have hshort : kept.length ≤ maxSchemaDiagnosticBytes :=
    (length_le_totalCost Char.utf8Size_pos kept).trans hwithin
  have hlong := hkept.longest (List.replicate maxSchemaDiagnosticBytes 'x')
    (by rw [hchars]; exact List.prefix_append _ _)
    (by rw [sanitizeLayers_size]; exact hletters.le)
  rw [List.length_replicate] at hlong
  have hsame : kept = List.replicate maxSchemaDiagnosticBytes 'x' := by
    rw [List.prefix_iff_eq_take.1 hkept.beginning, le_antisymm hshort hlong, hchars]
    exact List.take_left' List.length_replicate
  rw [heq, hsame]
  rfl

end SchemaDiagnostic
end DeltaFunnel
