import DeltaFunnel.PerfettoProfile.ReportViewer

/-! The comparisons of the viewer are strict orders, and in their first direction those of the
terminal view. -/

namespace DeltaFunnel
open Collections
open Std (TransCmp OrientedCmp)
namespace ReportViewer

/-- The number by which a JavaScript comparison tells an ordering. -/
def toNumber : Ordering → ℤ
  | .lt => -1
  | .eq => 0
  | .gt => 1

theorem toNumber_swap (ordering : Ordering) : toNumber ordering.swap = -toNumber ordering := by
  cases ordering <;> rfl

theorem toNumber_then (first second : Ordering) :
    toNumber (first.then second) = orElse (toNumber first) (toNumber second) := by
  cases first <;> rfl

theorem toNumber_lt {ordering : Ordering} : toNumber ordering < 0 ↔ ordering = .lt := by
  cases ordering <;> decide

theorem toNumber_eq {ordering : Ordering} : toNumber ordering = 0 ↔ ordering = .eq := by
  cases ordering <;> decide

theorem toNumber_le {ordering : Ordering} : toNumber ordering ≤ 0 ↔ ordering.isLE = true := by
  cases ordering <;> decide

theorem compareValue_eq {α : Type} [LinearOrder α] (left right : α) :
    compareValue left right = toNumber (compareOfLessAndEq left right) := by
  unfold compareValue compareOfLessAndEq
  rcases lt_trichotomy left right with hlt | rfl | hgt
  · rw [if_pos hlt, if_pos hlt]
    rfl
  · rw [if_neg (lt_irrefl left), if_neg (lt_irrefl left), if_neg (lt_irrefl left), if_pos rfl]
    rfl
  · rw [if_neg hgt.asymm, if_pos hgt, if_neg hgt.asymm, if_neg hgt.ne']
    rfl

theorem compareValue_int (left right : ℤ) :
    compareValue left right = toNumber (compare left right) := compareValue_eq left right

theorem compareValue_bool (left right : Bool) :
    compareValue left right = toNumber (compare left right) := by
  cases left <;> cases right <;> rfl

theorem utf16_of_lt {c : Char} (hc : c.toNat < 0x10000) : Json.utf16 c = [c.toNat] := if_pos hc

theorem utf16_of_le {c : Char} (hc : 0x10000 ≤ c.toNat) :
    Json.utf16 c = [0xd800 + (c.toNat - 0x10000) / 0x400, 0xdc00 + (c.toNat - 0x10000) % 0x400] :=
  if_neg (Nat.not_lt.2 hc)

theorem toNat_valid (c : Char) : c.toNat < 0xd800 ∨ 0xdfff < c.toNat ∧ c.toNat < 0x110000 := c.valid

theorem codePointAt_utf16 (c : Char) (rest : List ℕ) :
    codePointAt (Json.utf16 c ++ rest) = c.toNat := by
  have hvalid := toNat_valid c
  by_cases hc : c.toNat < 0x10000
  · rw [utf16_of_lt hc]
    -- a unit that is a character is no high surrogate, so the next one is not looked at
    cases rest with
    | nil => rfl
    | cons unit rest =>
      show (if 0xd800 ≤ c.toNat ∧ c.toNat ≤ 0xdbff ∧ 0xdc00 ≤ unit ∧ unit ≤ 0xdfff then _
        else c.toNat) = c.toNat
      rw [if_neg]
      omega
  · have hle := Nat.not_lt.1 hc
    rw [utf16_of_le hle]
    show (if _ then _ else _) = c.toNat
    rw [if_pos]
    · omega
    · omega

theorem drop_utf16 (c : Char) (rest : List ℕ) :
    (Json.utf16 c ++ rest).drop (indexStep c.toNat) = rest := by
  unfold indexStep
  by_cases hc : c.toNat < 0x10000
  · rw [utf16_of_lt hc, if_neg (by omega)]
    rfl
  · rw [utf16_of_le (Nat.not_lt.1 hc), if_pos (by omega)]
    rfl

theorem utf16_ne_nil (c : Char) : Json.utf16 c ≠ [] := by
  unfold Json.utf16
  split <;> exact List.cons_ne_nil _ _

theorem length_utf16_pos (c : Char) (rest : List ℕ) : 0 < (Json.utf16 c ++ rest).length := by
  rw [List.length_append]
  have hpos := List.length_pos_of_ne_nil (utf16_ne_nil c)
  omega

theorem compareTextFrom_cons (c d : Char) (left right : List ℕ) :
    compareTextFrom (Json.utf16 c ++ left) (Json.utf16 d ++ right) =
      if c.toNat < d.toNat then -1 else if d.toNat < c.toNat then 1
      else compareTextFrom left right := by
  have hne : ∀ (c : Char) (rest : List ℕ), Json.utf16 c ++ rest ≠ [] :=
    fun c rest h => utf16_ne_nil c (List.append_eq_nil_iff.1 h).1
  rw [compareTextFrom, if_pos ⟨hne c left, hne d right⟩]
  simp only [codePointAt_utf16, drop_utf16, compareValue]
  split
  · rfl
  · split
    · rfl
    · rfl

theorem cons_greater {c d : Char} (h : d.toNat < c.toNat) (left right : List Char) :
    ¬c :: left < d :: right ∧ c :: left ≠ d :: right := by
  have hne : c ≠ d := fun heq => Nat.lt_irrefl _ (heq ▸ h)
  refine ⟨?_, fun heq => hne (List.cons.inj heq).1⟩
  intro hlt
  rcases List.cons_lt_cons_iff.1 hlt with hlt | heq
  · exact Nat.lt_asymm h hlt
  · exact hne heq.1

theorem compareTextFrom_units (left right : List Char) :
    compareTextFrom (left.flatMap Json.utf16) (right.flatMap Json.utf16) =
      toNumber (compareOfLessAndEq left right) := by
  induction left generalizing right with
  | nil =>
    rw [compareTextFrom, if_neg (fun h => h.1 rfl)]
    cases right with
    | nil => rfl
    | cons d right =>
      rw [List.flatMap_cons, List.flatMap_nil, List.length_nil]
      unfold compareValue compareOfLessAndEq
      rw [if_pos (length_utf16_pos d _), if_pos (List.nil_lt_cons d right)]
      rfl
  | cons c left ih =>
    cases right with
    | nil =>
      rw [compareTextFrom, if_neg (fun h => h.2 rfl), List.flatMap_cons, List.flatMap_nil,
        List.length_nil]
      unfold compareValue compareOfLessAndEq
      rw [if_neg (Nat.not_lt_zero _), if_pos (length_utf16_pos c _),
        if_neg (List.not_lt_nil _), if_neg (List.cons_ne_nil c left)]
      rfl
    | cons d right =>
      rw [List.flatMap_cons, List.flatMap_cons, compareTextFrom_cons, ih]
      unfold compareOfLessAndEq
      rcases Nat.lt_trichotomy c.toNat d.toNat with hlt | heq | hgt
      · have hless : c < d := hlt
        rw [if_pos hlt, if_pos (List.cons_lt_cons_iff.2 (.inl hless))]
        rfl
      · -- equal characters move both indexes by one step, so the rest decides
        obtain rfl := Char.toNat_inj.1 heq
        rw [if_neg (Nat.lt_irrefl _), if_neg (Nat.lt_irrefl _)]
        simp only [List.cons_lt_cons_iff, Char.lt_irrefl, false_or, true_and, List.cons.injEq]
      · obtain ⟨hnot, hne⟩ := cons_greater hgt left right
        rw [if_neg (Nat.lt_asymm hgt), if_pos hgt, if_neg hnot, if_neg hne]
        rfl

theorem compare_toList (left right : String) :
    compareOfLessAndEq left.toList right.toList = compare left right := by
  have hlt : left < right ↔ left.toList < right.toList := Iff.rfl
  show compareOfLessAndEq left.toList right.toList = compareOfLessAndEq left right
  unfold compareOfLessAndEq
  simp only [hlt, String.toList_inj]

theorem compareText_eq (left right : String) :
    compareText left right = toNumber (compare left right) := by
  unfold compareText codeUnits
  rw [compareTextFrom_units, compare_toList]

def utf8 (c : Char) : List ℕ :=
  if c.toNat < 0x80 then [c.toNat]
  else if c.toNat < 0x800 then [0xc0 + c.toNat / 0x40, 0x80 + c.toNat % 0x40]
  else if c.toNat < 0x10000 then
    [0xe0 + c.toNat / 0x1000, 0x80 + c.toNat / 0x40 % 0x40, 0x80 + c.toNat % 0x40]
  else
    [0xf0 + c.toNat / 0x40000, 0x80 + c.toNat / 0x1000 % 0x40, 0x80 + c.toNat / 0x40 % 0x40,
      0x80 + c.toNat % 0x40]

/-- `str::cmp`, which goes by the bytes. -/
def compareBytes (left right : String) : Ordering :=
  compareOfLessAndEq (left.toList.flatMap utf8) (right.toList.flatMap utf8)

theorem utf8_lt {c d : Char} (h : c.toNat < d.toNat) (left right : List ℕ) :
    utf8 c ++ left < utf8 d ++ right := by
  have hvalid := toNat_valid c
  have hvalid' := toNat_valid d
  unfold utf8
  -- the bytes are split by the lengths of both; the first that differ decide
  split_ifs <;>
    (simp only [List.cons_append, List.nil_append, List.cons_lt_cons_iff]
     omega)

theorem append_lt_append_iff (first left right : List ℕ) :
    first ++ left < first ++ right ↔ left < right := by
  induction first with
  | nil => exact Iff.rfl
  | cons byte first ih =>
    rw [List.cons_append, List.cons_append, List.cons_lt_cons_iff, ih]
    simp only [Nat.lt_irrefl, false_or, true_and]

theorem nil_lt_utf8 (c : Char) (rest : List ℕ) : [] < utf8 c ++ rest := by
  unfold utf8
  split
  · exact List.nil_lt_cons _ _
  · split
    · exact List.nil_lt_cons _ _
    · split
      · exact List.nil_lt_cons _ _
      · exact List.nil_lt_cons _ _

theorem compareBytes_toList (left right : List Char) :
    compareOfLessAndEq (left.flatMap utf8) (right.flatMap utf8) =
      compareOfLessAndEq left right := by
  have hne : ∀ {first second : List ℕ}, first < second → second ≠ first :=
    fun h heq => List.lt_irrefl _ (heq ▸ h)
  induction left generalizing right with
  | nil =>
    cases right with
    | nil => rfl
    | cons d right =>
      rw [List.flatMap_cons, List.flatMap_nil]
      unfold compareOfLessAndEq
      rw [if_pos (nil_lt_utf8 d _), if_pos (List.nil_lt_cons d right)]
  | cons c left ih =>
    cases right with
    | nil =>
      rw [List.flatMap_cons, List.flatMap_nil]
      unfold compareOfLessAndEq
      rw [if_neg (List.not_lt_nil _), if_neg (hne (nil_lt_utf8 c _)),
        if_neg (List.not_lt_nil _), if_neg (List.cons_ne_nil c left)]
    | cons d right =>
      have hrest := ih right
      unfold compareOfLessAndEq at hrest ⊢
      rw [List.flatMap_cons, List.flatMap_cons]
      rcases Nat.lt_trichotomy c.toNat d.toNat with hlt | heq | hgt
      · have hless : c < d := hlt
        rw [if_pos (utf8_lt hlt _ _), if_pos (List.cons_lt_cons_iff.2 (.inl hless))]
      · obtain rfl := Char.toNat_inj.1 heq
        simp only [append_lt_append_iff, List.append_cancel_left_eq, List.cons_lt_cons_iff,
          Char.lt_irrefl, false_or, true_and, List.cons.injEq]
        exact hrest
      · have hbytes := utf8_lt hgt (right.flatMap utf8) (left.flatMap utf8)
        obtain ⟨hnot, hdiffer⟩ := cons_greater hgt left right
        rw [if_neg (List.lt_asymm hbytes), if_neg (hne hbytes), if_neg hnot, if_neg hdiffer]

theorem compareBytes_eq (left right : String) : compareBytes left right = compare left right := by
  unfold compareBytes
  rw [compareBytes_toList, compare_toList]

def directed {α : Type} : SortDirection → (α → α → Ordering) → α → α → Ordering
  | .ascending, cmp => cmp
  | .descending, cmp => fun left right => cmp right left

instance {α : Type} (direction : SortDirection) (cmp : α → α → Ordering) [TransCmp cmp] :
    TransCmp (directed direction cmp) := by
  cases direction with
  | ascending => exact inferInstanceAs (TransCmp cmp)
  | descending => exact inferInstanceAs (TransCmp fun left right => cmp right left)

theorem toNumber_directed {α : Type} (direction : SortDirection) {cmp : α → α → Ordering}
    [TransCmp cmp] (left right : α) :
    toNumber (directed direction cmp left right) =
      if direction = .ascending then toNumber (cmp left right) else -toNumber (cmp left right) := by
  cases direction with
  | ascending => rfl
  | descending =>
    have hswap : cmp right left = (cmp left right).swap := OrientedCmp.eq_swap
    show toNumber (cmp right left) = -toNumber (cmp left right)
    rw [hswap, toNumber_swap]

def primarySemantic (sortField : SortField) (sortDirection : SortDirection) :
    HtmlSemantic → HtmlSemantic → Ordering :=
  match sortField with
  | .duration => compareLex (compareOn fun semantic => semantic.semantic.durationNs.isNone)
      (directed sortDirection (compareOn fun semantic => semantic.semantic.durationNs.getD 0))
  | .inclusive => directed sortDirection
      (compareOn fun semantic => semantic.semantic.inclusiveSampleCount)
  | .direct => directed sortDirection
      (compareOn fun semantic => semantic.semantic.directSampleCount)
  | .name => directed sortDirection (compareOn HtmlSemantic.displayName)

def semanticOrdering (sortField : SortField) (sortDirection : SortDirection) :
    HtmlSemantic → HtmlSemantic → Ordering :=
  compareLex (primarySemantic sortField sortDirection)
    (compareOn fun semantic => semantic.semantic.semanticId)

def primaryFunction (sortField : SortField) (sortDirection : SortDirection) :
    HtmlFunction → HtmlFunction → Ordering :=
  match sortField with
  | .duration | .inclusive => directed sortDirection
      (compareOn fun fn => fn.function.inclusiveSampleCount)
  | .direct => directed sortDirection (compareOn fun fn => fn.function.selfSampleCount)
  | .name => directed sortDirection (compareOn HtmlFunction.displayName)

def functionOrdering (sortField : SortField) (sortDirection : SortDirection) :
    HtmlFunction → HtmlFunction → Ordering :=
  compareLex (primaryFunction sortField sortDirection) (compareOn fun fn => fn.function.functionId)

instance (sortField : SortField) (sortDirection : SortDirection) :
    TransCmp (semanticOrdering sortField sortDirection) := by
  unfold semanticOrdering
  cases sortField with
  | duration | inclusive | direct | name =>
    unfold primarySemantic
    infer_instance

instance (sortField : SortField) (sortDirection : SortDirection) :
    TransCmp (functionOrdering sortField sortDirection) := by
  unfold functionOrdering
  cases sortField with
  | duration | inclusive | direct | name =>
    unfold primaryFunction
    infer_instance

theorem compare_true_false : compare true false = .gt := rfl

theorem compare_false_true : compare false true = .lt := rfl

theorem compareSemantic_eq (sortField : SortField) (sortDirection : SortDirection)
    (left right : HtmlSemantic) :
    compareSemantic sortField sortDirection left right =
      toNumber (semanticOrdering sortField sortDirection left right) := by
  unfold compareSemantic semanticOrdering compareLex
  rw [toNumber_then]
  cases sortField with
  | duration =>
    -- with an unknown duration the direction is not looked at, and two unknown ones tie
    unfold primarySemantic compareLex
    dsimp only
    rw [toNumber_then, toNumber_directed]
    unfold compareOn semanticSortValue
    cases hleft : left.semantic.durationNs with
    | none =>
      cases hright : right.semantic.durationNs with
      | none => simp [hleft, hright, compareValue_bool, compareValue_int, orElse, toNumber]
      | some duration =>
        simp [hleft, hright, compareValue_bool, compare_true_false, orElse, toNumber]
    | some duration =>
      cases hright : right.semantic.durationNs with
      | none => simp [hleft, hright, compareValue_bool, compare_false_true, orElse, toNumber]
      | some duration' => simp [hleft, hright, compareValue_int, orElse, toNumber]
  | inclusive | direct =>
    unfold primarySemantic
    dsimp only
    rw [if_neg (fun h => SortField.noConfusion h.1), toNumber_directed]
    simp only [compareOn, compareValue_int, semanticSortValue, reduceCtorEq, if_false]
  | name =>
    unfold primarySemantic
    dsimp only
    rw [if_neg (fun h => SortField.noConfusion h.1), toNumber_directed]
    simp only [compareOn, compareValue_int, compareText_eq, if_true]

theorem compareFunction_eq (sortField : SortField) (sortDirection : SortDirection)
    (left right : HtmlFunction) :
    compareFunction sortField sortDirection left right =
      toNumber (functionOrdering sortField sortDirection left right) := by
  unfold compareFunction functionOrdering compareLex
  rw [toNumber_then]
  cases sortField with
  | duration | inclusive | direct =>
    unfold primaryFunction
    dsimp only
    rw [toNumber_directed]
    simp only [compareOn, compareValue_int, functionSortValue, reduceCtorEq, if_false]
  | name =>
    unfold primaryFunction
    dsimp only
    rw [toNumber_directed]
    simp only [compareOn, compareValue_int, compareText_eq, if_true]

/-- The comparison orders the values strictly, so that they have one sorted order. -/
structure StrictlyOrders {α : Type} (compareBy : α → α → ℤ) (values : List α) : Prop where
  irrefl : ∀ value ∈ values, compareBy value value = 0
  antisymm : ∀ left ∈ values, ∀ right ∈ values, compareBy right left = -compareBy left right
  total : ∀ left ∈ values, ∀ right ∈ values, compareBy left right = 0 → left = right
  trans : ∀ first ∈ values, ∀ second ∈ values, ∀ third ∈ values,
    compareBy first second < 0 → compareBy second third < 0 → compareBy first third < 0

theorem strictlyOrders_of_cmp {α : Type} {compareBy : α → α → ℤ} {cmp : α → α → Ordering}
    [TransCmp cmp] {values : List α}
    (hcmp : ∀ left right, compareBy left right = toNumber (cmp left right))
    (htotal : ∀ left ∈ values, ∀ right ∈ values, cmp left right = .eq → left = right) :
    StrictlyOrders compareBy values where
  irrefl value _ := by
    have hself : cmp value value = .eq := Std.ReflCmp.compare_self
    rw [hcmp, hself]
    rfl
  antisymm left _ right _ := by
    have hswap : cmp right left = (cmp left right).swap := OrientedCmp.eq_swap
    rw [hcmp, hcmp, hswap, toNumber_swap]
  total left hleft right hright h := by
    rw [hcmp] at h
    exact htotal left hleft right hright (toNumber_eq.1 h)
  trans first _ second _ third _ h h' := by
    rw [hcmp] at h h' ⊢
    exact toNumber_lt.2 (TransCmp.lt_trans (toNumber_lt.1 h) (toNumber_lt.1 h'))

theorem semantics_strictlyOrdered (sortField : SortField) (sortDirection : SortDirection)
    {values : List HtmlSemantic}
    (hids : (values.map fun semantic => semantic.semantic.semanticId).Nodup) :
    StrictlyOrders (compareSemantic sortField sortDirection) values := by
  apply strictlyOrders_of_cmp (compareSemantic_eq sortField sortDirection)
  intro left hleft right hright h
  have hid := (Ordering.then_eq_eq.1 h).2
  exact List.inj_on_of_nodup_map hids hleft hright (Std.LawfulEqCmp.eq_of_compare hid)

theorem functions_strictlyOrdered (sortField : SortField) (sortDirection : SortDirection)
    {values : List HtmlFunction} (hids : (values.map fun fn => fn.function.functionId).Nodup) :
    StrictlyOrders (compareFunction sortField sortDirection) values := by
  apply strictlyOrders_of_cmp (compareFunction_eq sortField sortDirection)
  intro left hleft right hright h
  have hid := (Ordering.then_eq_eq.1 h).2
  exact List.inj_on_of_nodup_map hids hleft hright (Std.LawfulEqCmp.eq_of_compare hid)

theorem unknown_duration_is_last (sortDirection : SortDirection) {known unknown : HtmlSemantic}
    (hknown : known.semantic.durationNs ≠ none) (hunknown : unknown.semantic.durationNs = none) :
    compareSemantic .duration sortDirection known unknown < 0 := by
  obtain ⟨duration, hduration⟩ := Option.ne_none_iff_exists'.1 hknown
  have hlast : compareValue (some duration).isNone (none : Option ℤ).isNone = -1 := rfl
  unfold compareSemantic orElse
  rw [if_pos ⟨rfl, .inr hunknown⟩, hduration, hunknown, hlast, if_neg (by decide)]
  decide

end ReportViewer

/-- The column of the viewer for an order of the terminal view. -/
def InspectSort.viewerField : InspectSort → ReportViewer.SortField
  | duration => .duration
  | inclusiveCpu => .inclusive
  | selfCpu => .direct
  | name => .name

namespace ReportViewer

theorem semanticOrdering_initial (sort : InspectSort) (left right : RankedSemantic) :
    semanticOrdering sort.viewerField sort.viewerField.initialDirection (.of left) (.of right) =
      compareSemantics sort left right := by
  cases sort with
  | duration =>
    unfold compareSemantics
    show ((compare left.durationNs.isNone right.durationNs.isNone).then
      (compare (right.durationNs.getD 0) (left.durationNs.getD 0))).then _ = _
    cases left.durationNs with
    | none =>
      cases right.durationNs with
      | none => rfl
      | some duration => rfl
    | some duration =>
      cases right.durationNs with
      | none => rfl
      | some duration' => rfl
  | inclusiveCpu | selfCpu | name => rfl

theorem functionOrdering_initial {index : TerminalProfileIndex} (sort : InspectSort)
    (compact : CompactFunctionTree) {left right : RankedFunction}
    (howner : left.semanticId = right.semanticId)
    (hleft : index.functionName left = left.displayName)
    (hright : index.functionName right = right.displayName) :
    functionOrdering sort.viewerField sort.viewerField.initialDirection (.of compact left)
        (.of compact right) = index.compareFunctions sort left right := by
  have hself : compare left.semanticId right.semanticId = .eq := by
    rw [howner]
    exact Std.ReflCmp.compare_self
  unfold TerminalProfileIndex.compareFunctions
  rw [hself, hleft, hright]
  cases sort with
  | duration | inclusiveCpu | selfCpu | name =>
    dsimp only
    rw [Ordering.then_eq]
    rfl

theorem sortedValues_map {α β : Type} {compareBy : α → α → ℤ} {cmp : β → β → Ordering}
    {record : α → β} {values : List α}
    (h : ∀ left ∈ values, ∀ right ∈ values,
      compareBy left right = toNumber (cmp (record left) (record right))) :
    (sortedValues compareBy values).map record = sortUnstableBy cmp (values.map record) := by
  unfold sortedValues sortUnstableBy
  apply List.map_insertionSort
  intro left hleft right hright
  rw [h left hleft right hright]
  exact toNumber_le

end ReportViewer
end DeltaFunnel
