import DeltaFunnel.PerfettoProfile.ReportAggregate

/-! Normalized module names and source files: they are safe relative paths, and normalizing
them again changes nothing. -/

namespace DeltaFunnel

def namedSegments (value : List Char) : List (List Char) :=
  (pathSegments value).filter fun segment => !segment.isEmpty && segment ≠ ['.']

theorem pathSegments_ne_nil (value : List Char) : pathSegments value ≠ [] := by
  unfold pathSegments
  split
  · exact List.cons_ne_nil _ _
  · split
    · exact List.cons_ne_nil _ _
    · split
      · exact List.cons_ne_nil _ _
      · exact List.cons_ne_nil _ _

theorem not_isPathSeparator_of_mem {value segment : List Char} (h : segment ∈ pathSegments value) :
    ∀ c ∈ segment, isPathSeparator c = false := by
  induction value generalizing segment with
  | nil =>
    obtain rfl := List.mem_singleton.1 h
    exact List.forall_mem_nil _
  | cons c rest ih =>
    unfold pathSegments at h
    split at h
    · rcases List.mem_cons.1 h with rfl | h
      · exact List.forall_mem_nil _
      · exact ih h
    · next hc =>
      have hc' : isPathSeparator c = false := Bool.not_eq_true _ ▸ hc
      split at h
      · next first others hsegments =>
        rw [hsegments] at ih
        rcases List.mem_cons.1 h with rfl | h
        · exact List.forall_mem_cons.2 ⟨hc', ih List.mem_cons_self⟩
        · exact ih (List.mem_cons_of_mem _ h)
      · next hnil => exact absurd hnil (pathSegments_ne_nil rest)

theorem pathSegments_append {segment : List Char}
    (hsegment : ∀ c ∈ segment, isPathSeparator c = false) (rest : List Char) :
    pathSegments (segment ++ '/' :: rest) = segment :: pathSegments rest := by
  induction segment with
  | nil =>
    rw [List.nil_append, pathSegments, if_pos (by decide)]
  | cons c segment ih =>
    obtain ⟨hc, hrest⟩ := List.forall_mem_cons.1 hsegment
    rw [List.cons_append, pathSegments, if_neg (by rw [hc]; exact Bool.false_ne_true), ih hrest]

theorem pathSegments_of_plain {segment : List Char}
    (hsegment : ∀ c ∈ segment, isPathSeparator c = false) :
    pathSegments segment = [segment] := by
  induction segment with
  | nil => rfl
  | cons c segment ih =>
    obtain ⟨hc, hrest⟩ := List.forall_mem_cons.1 hsegment
    rw [pathSegments, if_neg (by rw [hc]; exact Bool.false_ne_true), ih hrest]

theorem pathSegments_intercalate {segments : List (List Char)} (hne : segments ≠ [])
    (hplain : ∀ segment ∈ segments, ∀ c ∈ segment, isPathSeparator c = false) :
    pathSegments (['/'].intercalate segments) = segments := by
  induction segments with
  | nil => exact absurd rfl hne
  | cons segment segments ih =>
    obtain ⟨hsegment, hrest⟩ := List.forall_mem_cons.1 hplain
    cases segments with
    | nil =>
      rw [List.intercalate_singleton]
      exact pathSegments_of_plain hsegment
    | cons next segments =>
      have hread := pathSegments_append hsegment (['/'].intercalate (next :: segments))
      rw [ih (List.cons_ne_nil _ _) hrest] at hread
      rw [List.intercalate_cons_cons, List.append_assoc]
      exact hread

theorem not_mem_intercalate {c : Char} {segments : List (List Char)} (hc : c ≠ '/')
    (h : ∀ segment ∈ segments, c ∉ segment) : c ∉ ['/'].intercalate segments := by
  induction segments with
  | nil => exact List.not_mem_nil
  | cons segment segments ih =>
    obtain ⟨hsegment, hrest⟩ := List.forall_mem_cons.1 h
    cases segments with
    | nil =>
      rw [List.intercalate_singleton]
      exact hsegment
    | cons next segments =>
      rw [List.intercalate_cons_cons, List.append_assoc, List.mem_append, List.mem_append,
        List.mem_singleton]
      rintro (hmem | hmem | hmem)
      · exact hsegment hmem
      · exact hc hmem
      · exact ih hrest hmem

theorem isSafePathSegment_iff {segment : List Char} :
    isSafePathSegment segment = true ↔ segment ≠ [] ∧ segment ≠ ['.'] ∧ segment ≠ ['.', '.'] ∧
      segment.head? ≠ some '~' ∧ startsWithDrive segment = false := by
  unfold isSafePathSegment
  simp [and_assoc]

theorem namedSegments_eq_self {segments : List (List Char)}
    (hsafe : ∀ segment ∈ segments, isSafePathSegment segment = true) :
    (segments.filter fun segment => !segment.isEmpty && segment ≠ ['.']) = segments := by
  rw [List.filter_eq_self]
  intro segment hmem
  obtain ⟨hempty, hdot, -⟩ := isSafePathSegment_iff.1 (hsafe segment hmem)
  simp [hempty, hdot]

theorem isAbsolutePath_append {segment rest : List Char}
    (hsafe : isSafePathSegment segment = true)
    (hplain : ∀ c ∈ segment, isPathSeparator c = false)
    (hrest : rest = [] ∨ ∃ tail, rest = '/' :: tail) :
    isAbsolutePath (segment ++ rest) = false := by
  obtain ⟨hempty, -, -, -, hdrive⟩ := isSafePathSegment_iff.1 hsafe
  rcases segment with _ | ⟨c, _ | ⟨d, segment⟩⟩
  · exact absurd rfl hempty
  · have hc := hplain c List.mem_cons_self
    rcases hrest with rfl | ⟨tail, rfl⟩
    · exact hc
    · unfold isAbsolutePath
      simp [hc]
  · have hc := hplain c List.mem_cons_self
    rw [List.cons_append, List.cons_append]
    unfold isAbsolutePath
    split
    · next drive separator tail heq =>
      obtain ⟨rfl, hcolon⟩ := List.cons.inj heq
      obtain ⟨rfl, -⟩ := List.cons.inj hcolon
      have halpha : isAsciiAlphabetic c = false := hdrive
      rw [hc, halpha]
      rfl
    · next first tail _ heq =>
      obtain ⟨rfl, -⟩ := List.cons.inj heq
      exact hc
    · rfl

theorem isAbsolutePath_intercalate {segments : List (List Char)} (hne : segments ≠ [])
    (hsafe : ∀ segment ∈ segments, isSafePathSegment segment = true)
    (hplain : ∀ segment ∈ segments, ∀ c ∈ segment, isPathSeparator c = false) :
    isAbsolutePath (['/'].intercalate segments) = false := by
  rcases segments with _ | ⟨segment, _ | ⟨next, segments⟩⟩
  · exact absurd rfl hne
  · have hrelative := isAbsolutePath_append (hsafe segment List.mem_cons_self)
      (hplain segment List.mem_cons_self) (Or.inl rfl)
    rw [List.append_nil] at hrelative
    rw [List.intercalate_singleton]
    exact hrelative
  · rw [List.intercalate_cons_cons, List.append_assoc]
    exact isAbsolutePath_append (hsafe segment List.mem_cons_self)
      (hplain segment List.mem_cons_self) (Or.inr ⟨_, rfl⟩)

theorem lastIndexOf_eq_none {p : List Char → Bool} {segments : List (List Char)}
    (h : ∀ segment ∈ segments, p segment = false) : lastIndexOf p segments = none := by
  unfold lastIndexOf
  have hnone : segments.reverse.findIdx? p = none := by
    rw [List.findIdx?_eq_none_iff]
    intro segment hmem
    exact h segment (List.mem_reverse.1 hmem)
  rw [hnone]
  rfl

theorem lastIndexOf_eq_some {p : List Char → Bool} {before after : List (List Char)}
    {root : List Char} (hroot : p root = true) (hafter : ∀ segment ∈ after, p segment = false) :
    lastIndexOf p (before ++ root :: after) = some before.length := by
  unfold lastIndexOf
  have hreverse : (before ++ root :: after).reverse = after.reverse ++ root :: before.reverse := by
    simp
  have hnone : after.reverse.findIdx? p = none := by
    rw [List.findIdx?_eq_none_iff]
    intro segment hmem
    exact hafter segment (List.mem_reverse.1 hmem)
  rw [hreverse, List.findIdx?_append, hnone, List.findIdx?_cons, hroot, List.length_append]
  simp only [if_true, Option.none_or, Option.map_some, List.length_reverse, List.length_cons]
  congr 1
  omega

theorem exists_last {p : List Char → Bool} (segments : List (List Char)) :
    (∀ segment ∈ segments, p segment = false) ∨
      ∃ before root after, segments = before ++ root :: after ∧ p root = true ∧
        ∀ segment ∈ after, p segment = false := by
  induction segments with
  | nil => exact Or.inl (List.forall_mem_nil _)
  | cons segment segments ih =>
    rcases ih with hnone | ⟨before, root, after, rfl, hroot, hafter⟩
    · rcases hp : p segment with _ | _
      · exact Or.inl (List.forall_mem_cons.2 ⟨hp, hnone⟩)
      · exact Or.inr ⟨[], segment, segments, rfl, hp, hnone⟩
    · exact Or.inr ⟨segment :: before, root, after, rfl, hroot, hafter⟩

theorem drop_lastIndexOf {p : List Char → Bool} {segments : List (List Char)} {start : ℕ}
    (h : lastIndexOf p segments = some start) :
    ∃ root after, segments.drop start = root :: after ∧ p root = true := by
  rcases exists_last (p := p) segments with hnone | ⟨before, root, after, rfl, hroot, hafter⟩
  · rw [lastIndexOf_eq_none hnone] at h
    cases h
  · rw [lastIndexOf_eq_some hroot hafter] at h
    obtain rfl := Option.some.inj h
    exact ⟨root, after, List.drop_left, hroot⟩

def isSourceRoot (segment : List Char) : Bool := segment ∈ sourceRoots

structure KeptSegments (value : List Char) (kept : List (List Char)) : Prop where
  nonempty : kept ≠ []
  suffix : kept <:+ namedSegments value
  safe : ∀ segment ∈ kept, isSafePathSegment segment = true
  rooted : (∃ basename, kept = [basename]) ∨
    ∃ root rest, kept = root :: rest ∧ isSourceRoot root = true
  /-- Of an absolute path nothing is kept that stands before its last source root. -/
  anchored : isAbsolutePath value = true →
    ((∀ segment ∈ namedSegments value, isSourceRoot segment = false) →
      ∃ basename, kept = [basename]) ∧
    ∀ before root after, namedSegments value = before ++ root :: after →
      isSourceRoot root = true → (∀ segment ∈ after, isSourceRoot segment = false) →
      kept <:+ root :: after

namespace KeptSegments
variable {value basename : List Char} {kept : List (List Char)}

theorem plain (h : KeptSegments value kept) :
    ∀ segment ∈ kept, ∀ c ∈ segment, isPathSeparator c = false := by
  intro segment hmem
  have hnamed := h.suffix.subset hmem
  exact not_isPathSeparator_of_mem (List.mem_filter.1 hnamed).1

theorem of_basename (hlast : (namedSegments value).getLast? = some basename)
    (hsafe : isSafePathSegment basename = true) : KeptSegments value [basename] where
  nonempty := List.cons_ne_nil _ _
  suffix := by
    obtain ⟨before, hbefore⟩ := List.getLast?_eq_some_iff.1 hlast
    exact ⟨before, hbefore.symm⟩
  safe := by
    intro segment hmem
    rw [List.mem_singleton.1 hmem]
    exact hsafe
  rooted := Or.inl ⟨basename, rfl⟩
  anchored := by
    intro _
    refine ⟨fun _ => ⟨basename, rfl⟩, ?_⟩
    intro before root after hsplit _ _
    rw [hsplit, List.getLast?_append_of_ne_nil _ (List.cons_ne_nil _ _)] at hlast
    obtain ⟨front, hfront⟩ := List.getLast?_eq_some_iff.1 hlast
    exact ⟨front, hfront.symm⟩

end KeptSegments

theorem safeBasename_eq (value : List Char) :
    safeBasename value = (namedSegments value).getLast?.filter isSafePathSegment := by
  unfold safeBasename namedSegments
  rw [← List.head?_filter, List.filter_reverse, List.head?_reverse]

theorem normalizeModuleName_eq_some {value result : String}
    (h : normalizeModuleName value = some result) :
    ∃ basename, KeptSegments value.toList [basename] ∧ result = String.ofList basename := by
  unfold normalizeModuleName at h
  rw [safeBasename_eq] at h
  obtain ⟨basename, hbasename, rfl⟩ := Option.map_eq_some_iff.1 h
  obtain ⟨hlast, hsafe⟩ := Option.filter_eq_some_iff.1 hbasename
  exact ⟨basename, KeptSegments.of_basename hlast hsafe, rfl⟩

def sourceStart (value : List Char) : Option ℕ :=
  if isAbsolutePath value then lastIndexOf isSourceRoot (namedSegments value)
  else if (namedSegments value).head?.any isSourceRoot then some 0
  else lastIndexOf (· = "src".toList) (namedSegments value)

theorem normalizeSourceFile_eq (value : String) :
    normalizeSourceFile value =
      ((namedSegments value.toList).getLast?.filter isSafePathSegment).map fun basename =>
        if ['.', '.'] ∈ namedSegments value.toList then String.ofList basename
        else
          match sourceStart value.toList with
          | none => String.ofList basename
          | some start =>
            if ((namedSegments value.toList).drop start).any
                fun segment => !isSafePathSegment segment then String.ofList basename
            else String.ofList (['/'].intercalate ((namedSegments value.toList).drop start)) := by
  rfl

theorem sourceStart_rooted {value : List Char} {start : ℕ} (h : sourceStart value = some start) :
    ∃ root after, (namedSegments value).drop start = root :: after ∧
      isSourceRoot root = true := by
  unfold sourceStart at h
  split at h
  · exact drop_lastIndexOf h
  · split at h
    · next hfirst =>
      obtain rfl := Option.some.inj h
      rw [List.drop_zero]
      rcases hsegments : namedSegments value with _ | ⟨root, after⟩
      · rw [hsegments] at hfirst
        cases hfirst
      · rw [hsegments] at hfirst
        exact ⟨root, after, rfl, hfirst⟩
    · obtain ⟨root, after, hdrop, hroot⟩ := drop_lastIndexOf h
      refine ⟨root, after, hdrop, ?_⟩
      rw [of_decide_eq_true hroot]
      decide

theorem KeptSegments.of_start {value : List Char} {start : ℕ}
    (hstart : sourceStart value = some start)
    (hsafe : ∀ segment ∈ (namedSegments value).drop start, isSafePathSegment segment = true) :
    KeptSegments value ((namedSegments value).drop start) := by
  obtain ⟨root, after, hdrop, hroot⟩ := sourceStart_rooted hstart
  refine ⟨?_, List.drop_suffix _ _, hsafe, Or.inr ⟨root, after, hdrop, hroot⟩, ?_⟩
  · rw [hdrop]
    exact List.cons_ne_nil _ _
  · intro habsolute
    unfold sourceStart at hstart
    rw [if_pos habsolute] at hstart
    constructor
    · intro hnone
      rw [lastIndexOf_eq_none hnone] at hstart
      cases hstart
    · intro before last rest hsplit hlast hrest
      rw [hsplit, lastIndexOf_eq_some hlast hrest] at hstart
      obtain rfl := Option.some.inj hstart
      rw [hsplit, List.drop_left]

theorem normalizeSourceFile_eq_some {value result : String}
    (h : normalizeSourceFile value = some result) :
    ∃ kept, KeptSegments value.toList kept ∧ result = String.ofList (['/'].intercalate kept) := by
  rw [normalizeSourceFile_eq] at h
  obtain ⟨basename, hbasename, rfl⟩ := Option.map_eq_some_iff.1 h
  obtain ⟨hlast, hsafe⟩ := Option.filter_eq_some_iff.1 hbasename
  have hsingle : ∃ kept, KeptSegments value.toList kept ∧
      String.ofList basename = String.ofList (['/'].intercalate kept) := by
    refine ⟨[basename], KeptSegments.of_basename hlast hsafe, ?_⟩
    rw [List.intercalate_singleton]
  split
  · exact hsingle
  · split
    · exact hsingle
    · next start hstart =>
      split
      · exact hsingle
      · next hall =>
        refine ⟨_, KeptSegments.of_start hstart ?_, rfl⟩
        intro segment hmem
        rcases hsegment : isSafePathSegment segment with _ | _
        · refine absurd (List.any_eq_true.2 ⟨segment, hmem, ?_⟩) hall
          rw [hsegment]
          rfl
        · rfl

namespace KeptSegments
variable {value : List Char} {kept : List (List Char)}

theorem read_back (h : KeptSegments value kept) :
    pathSegments (['/'].intercalate kept) = kept :=
  pathSegments_intercalate h.nonempty h.plain

theorem named_back (h : KeptSegments value kept) :
    namedSegments (['/'].intercalate kept) = kept := by
  unfold namedSegments
  rw [h.read_back]
  exact namedSegments_eq_self h.safe

theorem relative (h : KeptSegments value kept) :
    isAbsolutePath (['/'].intercalate kept) = false :=
  isAbsolutePath_intercalate h.nonempty h.safe h.plain

theorem normalizeSourceFile_back (h : KeptSegments value kept) :
    normalizeSourceFile (String.ofList (['/'].intercalate kept)) =
      some (String.ofList (['/'].intercalate kept)) := by
  rw [normalizeSourceFile_eq, String.toList_ofList, h.named_back]
  have hparent : ['.', '.'] ∉ kept := by
    intro hmem
    exact (isSafePathSegment_iff.1 (h.safe _ hmem)).2.2.1 rfl
  have hall : (kept.any fun segment => !isSafePathSegment segment) = false := by
    rw [List.any_eq_false]
    intro segment hmem
    rw [h.safe segment hmem]
    exact Bool.false_ne_true
  obtain ⟨basename, hlast⟩ := Option.isSome_iff_exists.1
    (List.getLast?_isSome.2 h.nonempty)
  have hsafe : isSafePathSegment basename = true := h.safe basename (List.mem_of_getLast? hlast)
  rw [hlast, Option.filter_some_pos hsafe, Option.map_some]
  refine congrArg some ?_
  rw [if_neg hparent]
  unfold sourceStart
  rw [h.relative, if_neg Bool.false_ne_true, h.named_back]
  by_cases hfirst : kept.head?.any isSourceRoot = true
  · rw [if_pos hfirst]
    simp only [List.drop_zero, hall]
    rfl
  · rw [if_neg hfirst]
    rcases h.rooted with ⟨basename', rfl⟩ | ⟨root, rest, rfl, hroot⟩
    · obtain rfl := Option.some.inj hlast
      have hsrc : ∀ segment ∈ [basename'], decide (segment = "src".toList) = false := by
        intro segment hmem
        rw [List.mem_singleton.1 hmem]
        refine decide_eq_false ?_
        rintro rfl
        exact hfirst (by decide)
      rw [lastIndexOf_eq_none hsrc]
      exact congrArg String.ofList List.intercalate_singleton.symm
    · exact absurd hroot hfirst

theorem normalizeModuleName_back {basename : List Char}
    (h : KeptSegments value [basename]) :
    normalizeModuleName (String.ofList basename) = some (String.ofList basename) := by
  have hnamed := h.named_back
  rw [List.intercalate_singleton] at hnamed
  unfold normalizeModuleName
  rw [safeBasename_eq, String.toList_ofList, hnamed, List.getLast?_singleton,
    Option.filter_some_pos (h.safe basename (List.mem_singleton_self basename))]
  rfl

end KeptSegments

/-- A path that says nothing about where it was taken from: non-empty, relative, with slashes
only and plain segments, which end the named segments of the value. -/
structure SafePath (value path : String) : Prop where
  nonempty : path ≠ ""
  relative : isAbsolutePath path.toList = false
  slashes : '\\' ∉ path.toList
  segments : ∀ segment ∈ pathSegments path.toList, segment ≠ [] ∧ segment ≠ ['.'] ∧
    segment ≠ ['.', '.'] ∧ segment.head? ≠ some '~' ∧ startsWithDrive segment = false
  suffix : pathSegments path.toList <:+ namedSegments value.toList
  rootless : isAbsolutePath value.toList = true →
    (∀ segment ∈ namedSegments value.toList, isSourceRoot segment = false) →
      ∃ basename, pathSegments path.toList = [basename]
  anchored : isAbsolutePath value.toList = true → ∀ before root after,
    namedSegments value.toList = before ++ root :: after → isSourceRoot root = true →
      (∀ segment ∈ after, isSourceRoot segment = false) →
      pathSegments path.toList <:+ root :: after

/-- Every result is safe and is its own result. -/
def NormalizesSafely (normalize : String → Option String) : Prop :=
  ∀ value path, normalize value = some path → normalize path = some path ∧ SafePath value path

theorem KeptSegments.safePath {value : String} {kept : List (List Char)}
    (h : KeptSegments value.toList kept) :
    SafePath value (String.ofList (['/'].intercalate kept)) := by
  refine ⟨?_, ?_, ?_, ?_, ?_, ?_, ?_⟩
  · intro hempty
    have hread := h.read_back
    rw [← String.toList_ofList (l := ['/'].intercalate kept), hempty] at hread
    have hmem : [] ∈ kept := by
      rw [← hread]
      exact List.mem_singleton_self []
    exact (isSafePathSegment_iff.1 (h.safe _ hmem)).1 rfl
  · rw [String.toList_ofList]
    exact h.relative
  · rw [String.toList_ofList]
    refine not_mem_intercalate (by decide) ?_
    intro segment hsegment hmem
    have hplain := h.plain segment hsegment _ hmem
    cases hplain
  · rw [String.toList_ofList, h.read_back]
    intro segment hmem
    exact isSafePathSegment_iff.1 (h.safe segment hmem)
  · rw [String.toList_ofList, h.read_back]
    exact h.suffix
  · intro habsolute hnone
    rw [String.toList_ofList, h.read_back]
    exact (h.anchored habsolute).1 hnone
  · intro habsolute before root after hsplit hroot hafter
    rw [String.toList_ofList, h.read_back]
    exact (h.anchored habsolute).2 before root after hsplit hroot hafter

theorem normalizeSourceFile_safely : NormalizesSafely normalizeSourceFile := by
  intro value path hpath
  obtain ⟨kept, hkept, rfl⟩ := normalizeSourceFile_eq_some hpath
  exact ⟨hkept.normalizeSourceFile_back, hkept.safePath⟩

theorem normalizeModuleName_safely : NormalizesSafely normalizeModuleName := by
  intro value path hpath
  obtain ⟨basename, hkept, rfl⟩ := normalizeModuleName_eq_some hpath
  have hsafe := hkept.safePath
  rw [List.intercalate_singleton] at hsafe
  exact ⟨hkept.normalizeModuleName_back, hsafe⟩

theorem NormalizesSafely.bind_bind {normalize : String → Option String}
    (h : NormalizesSafely normalize) (value : Option String) :
    (value.bind normalize).bind normalize = value.bind normalize := by
  rcases hvalue : value.bind normalize with _ | path
  · rfl
  · obtain ⟨original, -, hpath⟩ := Option.bind_eq_some_iff.1 hvalue
    exact (h original path hpath).1

namespace RankedProfileDocument

/-- The errors that report unsafe metadata of a function. -/
def IsUnsafeMetadata (error : RankedProfileValidationError) : Prop :=
  ∃ semanticId functionId field, error = .unsafeFunctionMetadata semanticId functionId field

theorem requireDisplayString_not_unsafe {recordKind : String} {recordId : ℤ} {field : String}
    {value : Option String} {error : RankedProfileValidationError}
    (h : requireDisplayString recordKind recordId field value = .error error) :
    ¬IsUnsafeMetadata error := by
  unfold requireDisplayString at h
  rcases value with _ | value
  · cases h
  · dsimp only at h
    unfold rejectIf at h
    split at h
    · obtain rfl := Except.error.inj h
      rintro ⟨_, _, _, heq⟩
      cases heq
    · cases h

theorem forM_error {α : Type} {xs : List α} {check : α → Validation Unit}
    {error : RankedProfileValidationError} (h : xs.forM check = .error error) :
    ∃ x ∈ xs, check x = .error error := by
  induction xs with
  | nil => cases h
  | cons x xs ih =>
    rcases hx : check x with first | ⟨⟩
    · have hfirst : (.error first : Validation Unit) = .error error := by
        rw [← h]
        show _ = (check x >>= fun _ => xs.forM check)
        rw [hx]
        rfl
      exact ⟨x, List.mem_cons_self, hx.trans hfirst⟩
    · have hrest : xs.forM check = .error error := by
        rw [← h]
        show _ = (check x >>= fun _ => xs.forM check)
        rw [hx]
        rfl
      obtain ⟨y, hy, herror⟩ := ih hrest
      exact ⟨y, List.mem_cons_of_mem _ hy, herror⟩

theorem bind_error {check rest : Validation Unit} {error : RankedProfileValidationError}
    (h : (check >>= fun _ => rest) = .error error) :
    check = .error error ∨ rest = .error error := by
  rcases hcheck : check with first | ⟨⟩
  · rw [hcheck] at h
    exact Or.inl h
  · rw [hcheck] at h
    exact Or.inr h

theorem requireCollectionBound_not_unsafe {recordKind : String} {count : ℕ}
    {error : RankedProfileValidationError}
    (h : requireCollectionBound recordKind count = .error error) : ¬IsUnsafeMetadata error := by
  unfold requireCollectionBound rejectIf at h
  split at h
  · obtain rfl := Except.error.inj h
    rintro ⟨_, _, _, heq⟩
    cases heq
  · cases h

theorem requireNormalized_ok (function : RankedFunction) (field : String)
    {value normalized : Option String} (h : normalized = value) :
    requireNormalized function field value normalized = .ok () := by
  rw [requireNormalized, rejectIf_eq_ok]
  rintro ⟨-, hne⟩
  exact hne h

theorem validateBounds_normalized (document : RankedProfileDocument)
    {error : RankedProfileValidationError}
    (h : document.normalizeSourceMetadata.validateBounds = .error error) :
    ¬IsUnsafeMetadata error := by
  unfold validateBounds at h
  rcases bind_error h with hbound | h
  · exact requireCollectionBound_not_unsafe hbound
  rcases bind_error h with hbound | h
  · exact requireCollectionBound_not_unsafe hbound
  rcases bind_error h with hsemantics | hfunctions
  · obtain ⟨semantic, -, hsemantic⟩ := forM_error hsemantics
    obtain ⟨field, -, hfield⟩ := forM_error hsemantic
    exact requireDisplayString_not_unsafe hfield
  · obtain ⟨function, hfunction, hstrings⟩ := forM_error hfunctions
    obtain ⟨original, -, rfl⟩ := List.mem_map.1 hfunction
    unfold validateFunctionStrings at hstrings
    rcases bind_error hstrings with hmodule | hstrings
    · exact requireDisplayString_not_unsafe hmodule
    rcases bind_error hstrings with hsource | hstrings
    · exact requireDisplayString_not_unsafe hsource
    -- normalized fields are their own normal form, so nothing is left to fail
    rcases bind_error hstrings with hmodule | hsource
    · have hok := requireNormalized_ok (normalizeFunctionSource original) "module_name"
        (normalizeModuleName_safely.bind_bind original.moduleName)
      cases hok.symm.trans hmodule
    · have hok := requireNormalized_ok (normalizeFunctionSource original) "source_file"
        (normalizeSourceFile_safely.bind_bind original.sourceFile)
      cases hok.symm.trans hsource

/-- Normalized module names and source files are safe paths that normalizing leaves alone, and
the bounds of a normalized document never fail for its function metadata. -/
theorem normalized_paths_are_safe :
    NormalizesSafely normalizeSourceFile ∧ NormalizesSafely normalizeModuleName ∧
      ∀ (document : RankedProfileDocument) semanticId functionId field,
        document.normalizeSourceMetadata.validateBounds ≠
          .error (.unsafeFunctionMetadata semanticId functionId field) := by
  refine ⟨normalizeSourceFile_safely, normalizeModuleName_safely, ?_⟩
  intro document semanticId functionId field herror
  exact validateBounds_normalized document herror ⟨semanticId, functionId, field, rfl⟩

example : normalizeSourceFile "crates/sink/src/lib.rs" = some "crates/sink/src/lib.rs" ∧
    normalizeSourceFile "/home/ci/sink/src/lib.rs" = some "src/lib.rs" ∧
    normalizeSourceFile "C:\\ci\\..\\lib.rs" = some "lib.rs" := by decide +kernel

end RankedProfileDocument

end DeltaFunnel
