import DeltaFunnel.Collections.HashMap
import Mathlib.Data.List.Forall2

/-! Schemas that a replanned cache alias may have in place of the expected one. -/

namespace DeltaFunnel
namespace ReplanSchema
open Collections

inductive TimeUnit where
  | second
  | millisecond
  | microsecond
  | nanosecond
  deriving DecidableEq, Repr

inductive IntervalUnit where
  | yearMonth
  | dayTime
  | monthDayNano
  deriving DecidableEq, Repr

inductive UnionMode where
  | sparse
  | dense
  deriving DecidableEq, Repr

abbrev Metadata : Type := HashMap String String

instance : DecidableEq Metadata := fun a b =>
  decidable_of_iff (a.entries = b.entries)
    ⟨fun h => by cases a; cases b; cases h; rfl, congrArg HashMap.entries⟩

mutual
inductive DataType where
  | null
  | boolean
  | int8
  | int16
  | int32
  | int64
  | uint8
  | uint16
  | uint32
  | uint64
  | float16
  | float32
  | float64
  | timestamp (unit : TimeUnit) (timezone : Option String)
  | date32
  | date64
  | time32 (unit : TimeUnit)
  | time64 (unit : TimeUnit)
  | duration (unit : TimeUnit)
  | interval (unit : IntervalUnit)
  | binary
  | fixedSizeBinary (size : Int32)
  | largeBinary
  | binaryView
  | utf8
  | largeUtf8
  | utf8View
  | list (field : Field)
  | listView (field : Field)
  | fixedSizeList (field : Field) (size : Int32)
  | largeList (field : Field)
  | largeListView (field : Field)
  | struct (fields : Fields)
  | union (fields : UnionFields) (mode : UnionMode)
  | dictionary (key value : DataType)
  | decimal32 (precision : UInt8) (scale : Int8)
  | decimal64 (precision : UInt8) (scale : Int8)
  | decimal128 (precision : UInt8) (scale : Int8)
  | decimal256 (precision : UInt8) (scale : Int8)
  | map (field : Field) (sorted : Bool)
  | runEndEncoded (runEnds values : Field)

inductive Field where
  | mk (name : String) (dataType : DataType) (nullable : Bool) (metadata : Metadata)

inductive Fields where
  | nil
  | cons (field : Field) (fields : Fields)

inductive UnionFields where
  | nil
  | cons (id : Int8) (field : Field) (fields : UnionFields)
end

deriving instance DecidableEq for DataType, Field, Fields, UnionFields

namespace Field

def name : Field → String
  | mk name _ _ _ => name

def dataType : Field → DataType
  | mk _ dataType _ _ => dataType

def isNullable : Field → Bool
  | mk _ _ nullable _ => nullable

end Field

structure Schema where
  fields : List Field
  metadata : Metadata

mutual
def dataTypeWithoutMetadata : DataType → DataType
  | .list field => .list (fieldWithoutMetadata field)
  | .listView field => .listView (fieldWithoutMetadata field)
  | .fixedSizeList field size => .fixedSizeList (fieldWithoutMetadata field) size
  | .largeList field => .largeList (fieldWithoutMetadata field)
  | .largeListView field => .largeListView (fieldWithoutMetadata field)
  | .struct fields => .struct (fieldsWithoutMetadata fields)
  | .union fields mode => .union (unionFieldsWithoutMetadata fields) mode
  | .dictionary key value =>
    .dictionary (dataTypeWithoutMetadata key) (dataTypeWithoutMetadata value)
  | .map field sorted => .map (fieldWithoutMetadata field) sorted
  | .runEndEncoded runEnds values =>
    .runEndEncoded (fieldWithoutMetadata runEnds) (fieldWithoutMetadata values)
  | dataType => dataType

def fieldWithoutMetadata : Field → Field
  | .mk name dataType nullable _ => .mk name (dataTypeWithoutMetadata dataType) nullable .empty

/-- `fields.iter().map(field_without_metadata).collect()`. -/
def fieldsWithoutMetadata : Fields → Fields
  | .nil => .nil
  | .cons field fields => .cons (fieldWithoutMetadata field) (fieldsWithoutMetadata fields)

def unionFieldsWithoutMetadata : UnionFields → UnionFields
  | .nil => .nil
  | .cons id field fields =>
    .cons id (fieldWithoutMetadata field) (unionFieldsWithoutMetadata fields)
end

mutual
def normalizedCacheReplanDataType : DataType → DataType
  | .utf8 | .largeUtf8 | .utf8View => .utf8
  | .binary | .largeBinary | .binaryView => .binary
  | .list field => .list (normalizedCacheReplanField field)
  | .listView field => .listView (normalizedCacheReplanField field)
  | .fixedSizeList field size => .fixedSizeList (normalizedCacheReplanField field) size
  | .largeList field => .largeList (normalizedCacheReplanField field)
  | .largeListView field => .largeListView (normalizedCacheReplanField field)
  | .struct fields => .struct (normalizedCacheReplanFields fields)
  | .union fields mode => .union (normalizedCacheReplanUnionFields fields) mode
  | .dictionary key value =>
    .dictionary (normalizedCacheReplanDataType key) (normalizedCacheReplanDataType value)
  | .map field sorted => .map (normalizedCacheReplanField field) sorted
  | .runEndEncoded runEnds values =>
    .runEndEncoded (normalizedCacheReplanField runEnds) (normalizedCacheReplanField values)
  | dataType => dataType

def normalizedCacheReplanField : Field → Field
  | .mk name dataType nullable metadata =>
    .mk name (normalizedCacheReplanDataType dataType) nullable metadata

def normalizedCacheReplanFields : Fields → Fields
  | .nil => .nil
  | .cons field fields =>
    .cons (normalizedCacheReplanField field) (normalizedCacheReplanFields fields)

def normalizedCacheReplanUnionFields : UnionFields → UnionFields
  | .nil => .nil
  | .cons id field fields =>
    .cons id (normalizedCacheReplanField field) (normalizedCacheReplanUnionFields fields)
end

def dataTypesCompatibleForCacheAliasReplan (expected replanned : DataType) : Bool :=
  normalizedCacheReplanDataType (dataTypeWithoutMetadata expected) =
    normalizedCacheReplanDataType (dataTypeWithoutMetadata replanned)

def schemasCompatibleForCacheAliasReplan (expected replanned : Schema) : Bool :=
  expected.fields.length = replanned.fields.length &&
    (expected.fields.zip replanned.fields).all fun pair =>
      pair.1.name = pair.2.name && pair.1.isNullable = pair.2.isNullable &&
        dataTypesCompatibleForCacheAliasReplan pair.1.dataType pair.2.dataType

namespace DataType

def isText : DataType → Bool
  | utf8 | largeUtf8 | utf8View => true
  | _ => false

def isVariableBinary : DataType → Bool
  | binary | largeBinary | binaryView => true
  | _ => false

/-- Types without fields or types of their own, text and variable binary types apart. -/
def isScalar : DataType → Bool
  | null | boolean | int8 | int16 | int32 | int64 | uint8 | uint16 | uint32 | uint64 => true
  | float16 | float32 | float64 | timestamp _ _ | date32 | date64 | time32 _ | time64 _ => true
  | duration _ | interval _ | fixedSizeBinary _ => true
  | decimal32 _ _ | decimal64 _ _ | decimal128 _ _ | decimal256 _ _ => true
  | _ => false

end DataType

mutual
/-- Text types are one, and so are variable binary types; every other type is only itself, with
the same parameters and with fields that differ in metadata at most. -/
inductive Compatible : DataType → DataType → Prop
  | text {a b : DataType} (ha : a.isText) (hb : b.isText) : Compatible a b
  | variableBinary {a b : DataType} (ha : a.isVariableBinary) (hb : b.isVariableBinary) :
      Compatible a b
  | scalar {a : DataType} (h : a.isScalar) : Compatible a a
  | list {f g : Field} (h : CompatibleField f g) : Compatible (.list f) (.list g)
  | listView {f g : Field} (h : CompatibleField f g) : Compatible (.listView f) (.listView g)
  | fixedSizeList {f g : Field} (h : CompatibleField f g) (size : Int32) :
      Compatible (.fixedSizeList f size) (.fixedSizeList g size)
  | largeList {f g : Field} (h : CompatibleField f g) : Compatible (.largeList f) (.largeList g)
  | largeListView {f g : Field} (h : CompatibleField f g) :
      Compatible (.largeListView f) (.largeListView g)
  | struct {fs gs : Fields} (h : CompatibleFields fs gs) : Compatible (.struct fs) (.struct gs)
  | union {fs gs : UnionFields} (h : CompatibleUnionFields fs gs) (mode : UnionMode) :
      Compatible (.union fs mode) (.union gs mode)
  | dictionary {k v k' v' : DataType} (hkey : Compatible k k') (hvalue : Compatible v v') :
      Compatible (.dictionary k v) (.dictionary k' v')
  | map {f g : Field} (h : CompatibleField f g) (sorted : Bool) :
      Compatible (.map f sorted) (.map g sorted)
  | runEndEncoded {r v r' v' : Field} (hrunEnds : CompatibleField r r')
      (hvalues : CompatibleField v v') :
      Compatible (.runEndEncoded r v) (.runEndEncoded r' v')

inductive CompatibleField : Field → Field → Prop
  | mk {a b : DataType} (name : String) (h : Compatible a b) (nullable : Bool)
      (metadata metadata' : Metadata) :
      CompatibleField (.mk name a nullable metadata) (.mk name b nullable metadata')

inductive CompatibleFields : Fields → Fields → Prop
  | nil : CompatibleFields .nil .nil
  | cons {f g : Field} {fs gs : Fields} (hfield : CompatibleField f g)
      (hfields : CompatibleFields fs gs) : CompatibleFields (.cons f fs) (.cons g gs)

inductive CompatibleUnionFields : UnionFields → UnionFields → Prop
  | nil : CompatibleUnionFields .nil .nil
  | cons {f g : Field} {fs gs : UnionFields} (id : Int8) (hfield : CompatibleField f g)
      (hfields : CompatibleUnionFields fs gs) :
      CompatibleUnionFields (.cons id f fs) (.cons id g gs)
end

def canonical (dataType : DataType) : DataType :=
  normalizedCacheReplanDataType (dataTypeWithoutMetadata dataType)

def canonicalField (field : Field) : Field :=
  normalizedCacheReplanField (fieldWithoutMetadata field)

def canonicalFields (fields : Fields) : Fields :=
  normalizedCacheReplanFields (fieldsWithoutMetadata fields)

def canonicalUnionFields (fields : UnionFields) : UnionFields :=
  normalizedCacheReplanUnionFields (unionFieldsWithoutMetadata fields)

section
variable (f g : Field) (fs : Fields) (us : UnionFields) (a b : DataType)

@[simp] theorem canonical_list : canonical (.list f) = .list (canonicalField f) := rfl

@[simp] theorem canonical_listView : canonical (.listView f) = .listView (canonicalField f) := rfl

@[simp] theorem canonical_fixedSizeList (size : Int32) :
    canonical (.fixedSizeList f size) = .fixedSizeList (canonicalField f) size := rfl

@[simp] theorem canonical_largeList :
    canonical (.largeList f) = .largeList (canonicalField f) := rfl

@[simp] theorem canonical_largeListView :
    canonical (.largeListView f) = .largeListView (canonicalField f) := rfl

@[simp] theorem canonical_struct : canonical (.struct fs) = .struct (canonicalFields fs) := rfl

@[simp] theorem canonical_union (mode : UnionMode) :
    canonical (.union us mode) = .union (canonicalUnionFields us) mode := rfl

@[simp] theorem canonical_dictionary :
    canonical (.dictionary a b) = .dictionary (canonical a) (canonical b) := rfl

@[simp] theorem canonical_map (sorted : Bool) :
    canonical (.map f sorted) = .map (canonicalField f) sorted := rfl

@[simp] theorem canonical_runEndEncoded :
    canonical (.runEndEncoded f g) = .runEndEncoded (canonicalField f) (canonicalField g) := rfl

@[simp] theorem canonicalField_mk (name : String) (nullable : Bool) (metadata : Metadata) :
    canonicalField (.mk name a nullable metadata) = .mk name (canonical a) nullable .empty := rfl

@[simp] theorem canonicalFields_nil : canonicalFields .nil = .nil := rfl

@[simp] theorem canonicalFields_cons :
    canonicalFields (.cons f fs) = .cons (canonicalField f) (canonicalFields fs) := rfl

@[simp] theorem canonicalUnionFields_nil : canonicalUnionFields .nil = .nil := rfl

@[simp] theorem canonicalUnionFields_cons (id : Int8) :
    canonicalUnionFields (.cons id f us) =
      .cons id (canonicalField f) (canonicalUnionFields us) := rfl

end

theorem canonical_of_isText {a : DataType} (h : a.isText = true) : canonical a = .utf8 := by
  cases a <;> first | rfl | cases h

theorem canonical_of_isVariableBinary {a : DataType} (h : a.isVariableBinary = true) :
    canonical a = .binary := by
  cases a <;> first | rfl | cases h

theorem canonical_of_isScalar {a : DataType} (h : a.isScalar = true) : canonical a = a := by
  cases a <;> first | rfl | cases h

theorem isText_of_canonical {a : DataType} (h : canonical a = .utf8) : a.isText = true := by
  cases a <;> first | rfl | cases h

theorem isVariableBinary_of_canonical {a : DataType} (h : canonical a = .binary) :
    a.isVariableBinary = true := by
  cases a <;> first | rfl | cases h

theorem eq_of_canonical_eq_scalar {a b : DataType} (hscalar : a.isScalar = true)
    (h : canonical b = a) : b = a := by
  cases b <;> first | exact h | (rw [← h] at hscalar; cases hscalar)

theorem compatible_of_text {a b : DataType} (ha : a.isText = true)
    (h : canonical a = canonical b) : Compatible a b := by
  rw [canonical_of_isText ha] at h
  exact .text ha (isText_of_canonical h.symm)

theorem compatible_of_variableBinary {a b : DataType} (ha : a.isVariableBinary = true)
    (h : canonical a = canonical b) : Compatible a b := by
  rw [canonical_of_isVariableBinary ha] at h
  exact .variableBinary ha (isVariableBinary_of_canonical h.symm)

theorem compatible_of_scalar {a b : DataType} (ha : a.isScalar = true)
    (h : canonical a = canonical b) : Compatible a b := by
  rw [canonical_of_isScalar ha] at h
  rw [eq_of_canonical_eq_scalar ha h.symm]
  exact .scalar ha

mutual
theorem compatible_of_canonical_eq (a b : DataType) (h : canonical a = canonical b) :
    Compatible a b := by
  cases a with
  | list f =>
    cases b <;> first | cases h | skip
    exact .list (compatibleField_of_canonical_eq f _ (DataType.list.inj h))
  | listView f =>
    cases b <;> first | cases h | skip
    exact .listView (compatibleField_of_canonical_eq f _ (DataType.listView.inj h))
  | fixedSizeList f size =>
    cases b <;> first | cases h | skip
    obtain ⟨hfield, rfl⟩ := DataType.fixedSizeList.inj h
    exact .fixedSizeList (compatibleField_of_canonical_eq f _ hfield) _
  | largeList f =>
    cases b <;> first | cases h | skip
    exact .largeList (compatibleField_of_canonical_eq f _ (DataType.largeList.inj h))
  | largeListView f =>
    cases b <;> first | cases h | skip
    exact .largeListView (compatibleField_of_canonical_eq f _ (DataType.largeListView.inj h))
  | struct fs =>
    cases b <;> first | cases h | skip
    exact .struct (compatibleFields_of_canonical_eq fs _ (DataType.struct.inj h))
  | union us mode =>
    cases b <;> first | cases h | skip
    obtain ⟨hfields, rfl⟩ := DataType.union.inj h
    exact .union (compatibleUnionFields_of_canonical_eq us _ hfields) _
  | dictionary key value =>
    cases b <;> first | cases h | skip
    obtain ⟨hkey, hvalue⟩ := DataType.dictionary.inj h
    exact .dictionary (compatible_of_canonical_eq key _ hkey)
      (compatible_of_canonical_eq value _ hvalue)
  | map f sorted =>
    cases b <;> first | cases h | skip
    obtain ⟨hfield, rfl⟩ := DataType.map.inj h
    exact .map (compatibleField_of_canonical_eq f _ hfield) _
  | runEndEncoded runEnds values =>
    cases b <;> first | cases h | skip
    obtain ⟨hrunEnds, hvalues⟩ := DataType.runEndEncoded.inj h
    exact .runEndEncoded (compatibleField_of_canonical_eq runEnds _ hrunEnds)
      (compatibleField_of_canonical_eq values _ hvalues)
  -- types of one representation share their canonical type
  | utf8 => exact compatible_of_text rfl h
  | largeUtf8 => exact compatible_of_text rfl h
  | utf8View => exact compatible_of_text rfl h
  | binary => exact compatible_of_variableBinary rfl h
  | largeBinary => exact compatible_of_variableBinary rfl h
  | binaryView => exact compatible_of_variableBinary rfl h
  | _ => exact compatible_of_scalar rfl h
termination_by structural a

theorem compatibleField_of_canonical_eq (f g : Field) (h : canonicalField f = canonicalField g) :
    CompatibleField f g := by
  cases f with
  | mk name dataType nullable metadata =>
    cases g with
    | mk name' dataType' nullable' metadata' =>
      obtain ⟨rfl, htype, rfl, -⟩ := Field.mk.inj h
      exact .mk _ (compatible_of_canonical_eq dataType dataType' htype) _ _ _
termination_by structural f

theorem compatibleFields_of_canonical_eq (fs gs : Fields)
    (h : canonicalFields fs = canonicalFields gs) : CompatibleFields fs gs := by
  cases fs with
  | nil =>
    cases gs with
    | nil => exact .nil
    | cons g gs => cases h
  | cons f fs =>
    cases gs with
    | nil => cases h
    | cons g gs =>
      obtain ⟨hfield, hfields⟩ := Fields.cons.inj h
      exact .cons (compatibleField_of_canonical_eq f g hfield)
        (compatibleFields_of_canonical_eq fs gs hfields)
termination_by structural fs

theorem compatibleUnionFields_of_canonical_eq (fs gs : UnionFields)
    (h : canonicalUnionFields fs = canonicalUnionFields gs) : CompatibleUnionFields fs gs := by
  cases fs with
  | nil =>
    cases gs with
    | nil => exact .nil
    | cons id g gs => cases h
  | cons id f fs =>
    cases gs with
    | nil => cases h
    | cons id' g gs =>
      obtain ⟨rfl, hfield, hfields⟩ := UnionFields.cons.inj h
      exact .cons _ (compatibleField_of_canonical_eq f g hfield)
        (compatibleUnionFields_of_canonical_eq fs gs hfields)
termination_by structural fs
end

mutual
theorem Compatible.canonical_eq {a b : DataType} : Compatible a b → canonical a = canonical b
  | .text ha hb => by rw [canonical_of_isText ha, canonical_of_isText hb]
  | .variableBinary ha hb => by
    rw [canonical_of_isVariableBinary ha, canonical_of_isVariableBinary hb]
  | .scalar _ => rfl
  | .list h => by rw [canonical_list, canonical_list, h.canonical_eq]
  | .listView h => by rw [canonical_listView, canonical_listView, h.canonical_eq]
  | .fixedSizeList h size => by
    rw [canonical_fixedSizeList, canonical_fixedSizeList, h.canonical_eq]
  | .largeList h => by rw [canonical_largeList, canonical_largeList, h.canonical_eq]
  | .largeListView h => by
    rw [canonical_largeListView, canonical_largeListView, h.canonical_eq]
  | .struct h => by rw [canonical_struct, canonical_struct, h.canonical_eq]
  | .union h mode => by rw [canonical_union, canonical_union, h.canonical_eq]
  | .dictionary hkey hvalue => by
    rw [canonical_dictionary, canonical_dictionary, hkey.canonical_eq, hvalue.canonical_eq]
  | .map h sorted => by rw [canonical_map, canonical_map, h.canonical_eq]
  | .runEndEncoded hrunEnds hvalues => by
    rw [canonical_runEndEncoded, canonical_runEndEncoded, hrunEnds.canonical_eq,
      hvalues.canonical_eq]

theorem CompatibleField.canonical_eq {f g : Field} :
    CompatibleField f g → canonicalField f = canonicalField g
  | .mk name h nullable _ _ => by rw [canonicalField_mk, canonicalField_mk, h.canonical_eq]

theorem CompatibleFields.canonical_eq {fs gs : Fields} :
    CompatibleFields fs gs → canonicalFields fs = canonicalFields gs
  | .nil => rfl
  | .cons hfield hfields => by
    rw [canonicalFields_cons, canonicalFields_cons, hfield.canonical_eq, hfields.canonical_eq]

theorem CompatibleUnionFields.canonical_eq {fs gs : UnionFields} :
    CompatibleUnionFields fs gs → canonicalUnionFields fs = canonicalUnionFields gs
  | .nil => rfl
  | .cons id hfield hfields => by
    rw [canonicalUnionFields_cons, canonicalUnionFields_cons, hfield.canonical_eq,
      hfields.canonical_eq]
end

mutual
theorem compatible_canonical (a : DataType) : Compatible a (canonical a) := by
  cases a with
  | list f => exact .list (compatibleField_canonical f)
  | listView f => exact .listView (compatibleField_canonical f)
  | fixedSizeList f size => exact .fixedSizeList (compatibleField_canonical f) size
  | largeList f => exact .largeList (compatibleField_canonical f)
  | largeListView f => exact .largeListView (compatibleField_canonical f)
  | struct fs => exact .struct (compatibleFields_canonical fs)
  | union us mode => exact .union (compatibleUnionFields_canonical us) mode
  | dictionary key value =>
    exact .dictionary (compatible_canonical key) (compatible_canonical value)
  | map f sorted => exact .map (compatibleField_canonical f) sorted
  | runEndEncoded runEnds values =>
    exact .runEndEncoded (compatibleField_canonical runEnds) (compatibleField_canonical values)
  | utf8 => exact .text rfl rfl
  | largeUtf8 => exact .text rfl rfl
  | utf8View => exact .text rfl rfl
  | binary => exact .variableBinary rfl rfl
  | largeBinary => exact .variableBinary rfl rfl
  | binaryView => exact .variableBinary rfl rfl
  | _ => exact .scalar rfl

theorem compatibleField_canonical (f : Field) : CompatibleField f (canonicalField f) := by
  cases f with
  | mk name dataType nullable metadata =>
    exact .mk name (compatible_canonical dataType) nullable metadata .empty

theorem compatibleFields_canonical (fs : Fields) : CompatibleFields fs (canonicalFields fs) := by
  cases fs with
  | nil => exact .nil
  | cons f fs => exact .cons (compatibleField_canonical f) (compatibleFields_canonical fs)

theorem compatibleUnionFields_canonical (fs : UnionFields) :
    CompatibleUnionFields fs (canonicalUnionFields fs) := by
  cases fs with
  | nil => exact .nil
  | cons id f fs =>
    exact .cons id (compatibleField_canonical f) (compatibleUnionFields_canonical fs)
end

theorem canonical_idempotent (a : DataType) : canonical (canonical a) = canonical a :=
  (compatible_canonical a).canonical_eq.symm

theorem compatible_iff {a b : DataType} : Compatible a b ↔ canonical a = canonical b :=
  ⟨Compatible.canonical_eq, compatible_of_canonical_eq a b⟩

theorem compatible_equivalence : Equivalence Compatible where
  refl _ := compatible_iff.2 rfl
  symm h := compatible_iff.2 (compatible_iff.1 h).symm
  trans h h' := compatible_iff.2 ((compatible_iff.1 h).trans (compatible_iff.1 h'))

theorem dataTypesCompatible_iff {a b : DataType} :
    dataTypesCompatibleForCacheAliasReplan a b = true ↔ Compatible a b := by
  rw [compatible_iff]
  exact decide_eq_true_iff

/-- What the comparison of schemas sees of a field. -/
def replanKey (field : Field) : String × Bool × DataType :=
  (field.name, field.isNullable, canonical field.dataType)

theorem replanKey_eq_iff {f g : Field} : replanKey f = replanKey g ↔
    f.name = g.name ∧ f.isNullable = g.isNullable ∧ Compatible f.dataType g.dataType := by
  unfold replanKey
  rw [Prod.mk.injEq, Prod.mk.injEq, compatible_iff]

theorem schemasCompatible_iff_keys {expected replanned : Schema} :
    schemasCompatibleForCacheAliasReplan expected replanned = true ↔
      expected.fields.map replanKey = replanned.fields.map replanKey := by
  unfold schemasCompatibleForCacheAliasReplan
  generalize expected.fields = fs
  generalize replanned.fields = gs
  induction fs generalizing gs with
  | nil =>
    cases gs with
    | nil => exact iff_of_true rfl rfl
    | cons g gs => exact iff_of_false nofun nofun
  | cons f fs ih =>
    cases gs with
    | nil => exact iff_of_false nofun nofun
    | cons g gs =>
      have hrest := ih gs
      have hkey := replanKey_eq_iff (f := f) (g := g)
      simp only [Bool.and_eq_true, decide_eq_true_eq] at hrest
      simp only [List.map_cons, List.cons.injEq, List.zip_cons_cons, List.all_cons,
        List.length_cons, Nat.add_right_cancel_iff, Bool.and_eq_true, decide_eq_true_eq,
        dataTypesCompatible_iff, ← hrest, hkey]
      constructor
      · intro h
        exact ⟨⟨h.2.1.1.1, h.2.1.1.2, h.2.1.2⟩, h.1, h.2.2⟩
      · intro h
        exact ⟨h.2.1, ⟨⟨h.1.1, h.1.2.1⟩, h.1.2.2⟩, h.2.2⟩

theorem map_eq_map_iff_getElem? {α β : Type} {key : α → β} {xs ys : List α} :
    xs.map key = ys.map key ↔ xs.length = ys.length ∧
      ∀ (i : ℕ) x y, xs[i]? = some x → ys[i]? = some y → key x = key y := by
  constructor
  · intro h
    refine ⟨by simpa using congrArg List.length h, ?_⟩
    intro i x y hx hy
    have hi := congrArg (fun keys => keys[i]?) h
    simp only [List.getElem?_map, hx, hy, Option.map_some, Option.some.injEq] at hi
    exact hi
  · intro h
    obtain ⟨hlength, hkeys⟩ := h
    apply List.ext_getElem
    · simpa using hlength
    · intro i hx hy
      rw [List.length_map] at hx hy
      rw [List.getElem_map, List.getElem_map]
      exact hkeys i _ _ (List.getElem?_eq_getElem hx) (List.getElem?_eq_getElem hy)

/-- A replanned schema is accepted exactly when it has the expected fields, up to metadata and the
storage of text and binary values at any depth. -/
theorem replan_compatibility_is_exact :
    (∀ expected replanned, schemasCompatibleForCacheAliasReplan expected replanned = true ↔
      expected.fields.length = replanned.fields.length ∧
        ∀ (position : ℕ) (f g : Field), expected.fields[position]? = some f →
          replanned.fields[position]? = some g →
          f.name = g.name ∧ f.isNullable = g.isNullable ∧ Compatible f.dataType g.dataType) ∧
    Equivalence (fun expected replanned =>
      schemasCompatibleForCacheAliasReplan expected replanned = true) ∧
    Equivalence Compatible ∧
    ∀ dataType : DataType,
      normalizedCacheReplanDataType (dataTypeWithoutMetadata
        (normalizedCacheReplanDataType (dataTypeWithoutMetadata dataType))) =
          normalizedCacheReplanDataType (dataTypeWithoutMetadata dataType) := by
  refine ⟨?_, ?_, compatible_equivalence, canonical_idempotent⟩
  · intro expected replanned
    rw [schemasCompatible_iff_keys, map_eq_map_iff_getElem?]
    simp only [replanKey_eq_iff]
  · simp only [schemasCompatible_iff_keys]
    exact ⟨fun _ => rfl, fun h => h.symm, fun h h' => h.trans h'⟩

def nestedText (text : DataType) (comment : String) : Schema where
  fields := [.mk "codes" (.list (.mk "item" text true (HashMap.collect [("comment", comment)])))
    false .empty]
  metadata := .empty

theorem nested_text_replan_is_compatible :
    schemasCompatibleForCacheAliasReplan (nestedText .utf8View "replanned")
      (nestedText .utf8 "original") = true :=
  replan_compatibility_is_exact.2.1.symm (by decide)

end ReplanSchema
end DeltaFunnel
