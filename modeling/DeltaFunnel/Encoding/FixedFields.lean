import Mathlib.Data.Nat.ModEq
import Mathlib.Tactic.Ring

/-! Byte strings with fields at fixed ranges, and integers of a fixed width, lowest byte first. -/

namespace Encoding

def toLeBytes : ℕ → ℕ → List UInt8
  | 0, _ => []
  | width + 1, value => UInt8.ofNat value :: toLeBytes width (value / 256)

def fromLeBytes : List UInt8 → ℕ
  | [] => 0
  | byte :: bytes => byte.toNat + 256 * fromLeBytes bytes

@[simp] theorem toLeBytes_length (width value : ℕ) : (toLeBytes width value).length = width := by
  induction width generalizing value with
  | zero => rfl
  | succ width ih => simp only [toLeBytes, List.length_cons, ih]

theorem fromLeBytes_toLeBytes {width value : ℕ} (h : value < 256 ^ width) :
    fromLeBytes (toLeBytes width value) = value := by
  induction width generalizing value with
  | zero =>
    have hzero : value = 0 := by simpa using h
    rw [hzero]
    rfl
  | succ width ih =>
    have hpow : 256 ^ (width + 1) = 256 * 256 ^ width := by ring
    have hrest : value / 256 < 256 ^ width := by omega
    have hbyte : (UInt8.ofNat value).toNat = value % 256 := rfl
    simp only [toLeBytes, fromLeBytes, ih hrest, hbyte]
    omega

theorem toLeBytes_fromLeBytes (bytes : List UInt8) :
    toLeBytes bytes.length (fromLeBytes bytes) = bytes := by
  induction bytes with
  | nil => rfl
  | cons byte bytes ih =>
    have hbyte : byte.toNat < 256 := byte.toNat_lt
    have hfirst : UInt8.ofNat (byte.toNat + 256 * fromLeBytes bytes) = byte := by
      apply UInt8.toNat.inj
      show (byte.toNat + 256 * fromLeBytes bytes) % 256 = byte.toNat
      omega
    have hrest : (byte.toNat + 256 * fromLeBytes bytes) / 256 = fromLeBytes bytes := by omega
    simp only [List.length_cons, fromLeBytes, toLeBytes, hfirst, hrest, ih]

theorem fromLeBytes_eq_iff {bytes : List UInt8} {width value : ℕ} (hbytes : bytes.length = width)
    (hvalue : value < 256 ^ width) :
    fromLeBytes bytes = value ↔ bytes = toLeBytes width value := by
  constructor
  · intro h
    rw [← h, ← hbytes, toLeBytes_fromLeBytes]
  · intro h
    rw [h, fromLeBytes_toLeBytes hvalue]

structure ByteRange where
  start : ℕ
  stop : ℕ
  deriving DecidableEq, Repr

variable {α : Type} {xs ys field : List α} {range other : ByteRange}

def part (xs : List α) (range : ByteRange) : List α :=
  (xs.drop range.start).take (range.stop - range.start)

def overwrite (xs : List α) (range : ByteRange) (field : List α) : List α :=
  xs.take range.start ++ field ++ xs.drop range.stop

theorem part_length (h : range.stop ≤ xs.length) :
    (part xs range).length = range.stop - range.start := by
  unfold part
  rw [List.length_take, List.length_drop]
  omega

theorem overwrite_length (hrange : range.start ≤ range.stop) (hstop : range.stop ≤ xs.length)
    (hfield : field.length = range.stop - range.start) :
    (overwrite xs range field).length = xs.length := by
  unfold overwrite
  rw [List.length_append, List.length_append, List.length_take, List.length_drop]
  omega

theorem part_overwrite (hrange : range.start ≤ range.stop) (hstop : range.stop ≤ xs.length)
    (hfield : field.length = range.stop - range.start) :
    part (overwrite xs range field) range = field := by
  have hbefore : (xs.take range.start).length = range.start :=
    List.length_take_of_le (hrange.trans hstop)
  unfold part overwrite
  rw [List.append_assoc, List.drop_left' hbefore, List.take_left' hfield]

theorem part_overwrite_before (hother : other.stop ≤ range.start) (hstop : range.start ≤ xs.length) :
    part (overwrite xs range field) other = part xs other := by
  apply List.ext_getElem?
  intro i
  unfold part overwrite
  rw [List.getElem?_take, List.getElem?_take, List.getElem?_drop, List.getElem?_drop]
  split
  · rw [List.append_assoc, List.getElem?_append_left, List.getElem?_take, if_pos]
    · omega
    · rw [List.length_take]
      omega
  · rfl

theorem part_overwrite_behind (hother : range.stop ≤ other.start)
    (hrange : range.start ≤ range.stop) (hstop : range.stop ≤ xs.length)
    (hfield : field.length = range.stop - range.start) :
    part (overwrite xs range field) other = part xs other := by
  have hlength : (xs.take range.start ++ field).length = range.stop := by
    rw [List.length_append, List.length_take]
    omega
  apply List.ext_getElem?
  intro i
  unfold part overwrite
  rw [List.getElem?_take, List.getElem?_take, List.getElem?_drop, List.getElem?_drop]
  split
  · rw [List.getElem?_append_right (by omega), List.getElem?_drop, hlength]
    congr 1
    omega
  · rfl

theorem part_append_part (xs : List α) {a b c : ℕ} (hab : a ≤ b) (hbc : b ≤ c) :
    part xs ⟨a, b⟩ ++ part xs ⟨b, c⟩ = part xs ⟨a, c⟩ := by
  have hdrop : xs.drop b = (xs.drop a).drop (b - a) := by
    rw [List.drop_drop]
    congr 1
    omega
  have htake : c - a = (b - a) + (c - b) := by omega
  unfold part
  rw [hdrop, htake, List.take_add]

theorem part_congr {a b c : ℕ} (hab : a ≤ b) (hbc : b ≤ c)
    (hleft : part xs ⟨a, b⟩ = part ys ⟨a, b⟩) (hright : part xs ⟨b, c⟩ = part ys ⟨b, c⟩) :
    part xs ⟨a, c⟩ = part ys ⟨a, c⟩ := by
  rw [← part_append_part xs hab hbc, ← part_append_part ys hab hbc, hleft, hright]

theorem part_all {length : ℕ} (h : xs.length = length) : part xs ⟨0, length⟩ = xs := by
  unfold part
  rw [List.drop_zero, Nat.sub_zero, ← h, List.take_length]

theorem part_replicate (value : α) {length : ℕ} (h : range.stop ≤ length) :
    part (List.replicate length value) range =
      List.replicate (range.stop - range.start) value := by
  unfold part
  rw [List.drop_replicate, List.take_replicate]
  congr 1
  omega

end Encoding
