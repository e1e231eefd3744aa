import Mathlib.Tactic.SplitIfs
import DeltaFunnel.PerfettoProfile.PacketScan

/-! The loops that encode and decode varints, on growing buffers, slices, offsets and streams. -/

namespace DeltaFunnel
namespace VarintLoops
open Encoding (VarintError encodeRounds decodeRounds)

def announcing (value : ℕ) : UInt8 := (UInt8.ofNat value &&& 0x7f) ||| 0x80

theorem shiftRight_lt {value : ℕ} (h : value ≥ 0x80) : value >>> 7 < value := by
  rw [Nat.shiftRight_eq_div_pow]
  omega

def encodeVarint (value : ℕ) (output : List UInt8) : List UInt8 :=
  if h : value ≥ 0x80 then
    have := shiftRight_lt h
    encodeVarint (value >>> 7) (output ++ [announcing value])
  else output ++ [UInt8.ofNat value]

/-- The loop of `encode_varint_into`, which answers nothing where it would write past the slice. -/
def encodeVarintIntoFrom (value length : ℕ) (output : List UInt8) : Option (List UInt8 × ℕ) :=
  if length < output.length then
    if h : value ≥ 0x80 then
      have := shiftRight_lt h
      encodeVarintIntoFrom (value >>> 7) (length + 1) (output.set length (announcing value))
    else some (output.set length (UInt8.ofNat value), length + 1)
  else none
termination_by value

def encodeVarintInto (value : ℕ) (output : List UInt8) : Option (List UInt8 × ℕ) :=
  encodeVarintIntoFrom value 0 output

def varintLengthFrom (value length : ℕ) : ℕ :=
  if h : value ≥ 0x80 then
    have := shiftRight_lt h
    varintLengthFrom (value >>> 7) (length + 1)
  else length

def varintLength (value : ℕ) : ℕ := varintLengthFrom value 1

/-- The loop of `decode_varint`, with the number of bytes it may still read. -/
def decodeVarintFrom (data : List UInt8) : ℕ → ℕ → ℕ → Except VarintError (ℕ × ℕ)
  | 0, _, _ => .error .tooLong
  | rounds + 1, value, offset =>
    match data[offset]? with
    | none => .error .truncated
    | some byte =>
      let index := 9 - rounds
      if index = 9 ∧ byte > 1 then .error .tooLong
      else
        -- the bits shifted out of a `u64` are lost
        let value := value ||| ((byte &&& 0x7f).toNat <<< (index * 7)) % 2 ^ 64
        if byte < 0x80 then .ok (value, offset + 1)
        else decodeVarintFrom data rounds value (offset + 1)

/-- The value at an offset, with the offset behind it. -/
def decodeVarint (data : List UInt8) (offset : ℕ) : Except VarintError (ℕ × ℕ) :=
  decodeVarintFrom data 10 0 offset

/-- The loop of `read_varint`, which takes a byte at a time from the stream. -/
def readVarintFrom : ℕ → ℕ → List UInt8 → Except VarintError (Option (ℕ × List UInt8))
  | 0, _, _ => .error .tooLong
  | rounds + 1, _, [] => if rounds = 9 then .ok none else .error .truncated
  | rounds + 1, value, byte :: rest =>
    let index := 9 - rounds
    if index = 9 ∧ byte > 1 then .error .tooLong
    else
      let value := value ||| ((byte &&& 0x7f).toNat <<< (index * 7)) % 2 ^ 64
      if byte < 0x80 then .ok (some (value, rest)) else readVarintFrom rounds value rest

def readVarint (input : List UInt8) : Except VarintError (Option (ℕ × List UInt8)) :=
  readVarintFrom 10 0 input

theorem shiftRight_lt_pow {rounds value : ℕ} (h : value < 2 ^ (7 * (rounds + 1) + 7)) :
    value >>> 7 < 2 ^ (7 * rounds + 7) := by
  rw [Nat.shiftRight_eq_div_pow, Nat.div_lt_iff_lt_mul (by norm_num), ← Nat.pow_add]
  exact lt_of_lt_of_eq h (congrArg (2 ^ ·) (by omega))

theorem encodeVarint_eq {rounds value : ℕ} (h : value < 2 ^ (7 * rounds + 7))
    (output : List UInt8) : encodeVarint value output = output ++ encodeRounds rounds value := by
  induction rounds generalizing value output with
  | zero =>
    have hsmall : ¬value ≥ 0x80 := not_le.2 h
    rw [encodeVarint, dif_neg hsmall, encodeRounds]
  | succ rounds ih =>
    rw [encodeVarint, encodeRounds]
    split_ifs with hlarge
    · rw [ih (shiftRight_lt_pow h), List.append_assoc]
      rfl
    · rfl

theorem varintLengthFrom_eq {rounds value : ℕ} (h : value < 2 ^ (7 * rounds + 7)) (length : ℕ) :
    varintLengthFrom value (length + 1) = length + (encodeRounds rounds value).length := by
  induction rounds generalizing value length with
  | zero =>
    have hsmall : ¬value ≥ 0x80 := not_le.2 h
    rw [varintLengthFrom, dif_neg hsmall, encodeRounds]
    rfl
  | succ rounds ih =>
    rw [varintLengthFrom, encodeRounds]
    split_ifs with hlarge
    · rw [ih (shiftRight_lt_pow h), List.length_cons]
      omega
    · rfl

theorem take_set_succ {output : List UInt8} {length : ℕ} (h : length < output.length)
    (byte : UInt8) : (output.set length byte).take (length + 1) = output.take length ++ [byte] := by
  have hshort : (output.take length).length = length := List.length_take_of_le h.le
  rw [List.set_eq_take_append_cons_drop, if_pos h, List.take_append, List.take_of_length_le, hshort]
  · simp
  · omega

theorem set_eq_append {output : List UInt8} {length : ℕ} (h : length < output.length)
    (byte : UInt8) : output.set length byte =
      output.take length ++ [byte] ++ output.drop (length + 1) := by
  rw [List.set_eq_take_append_cons_drop, if_pos h, List.append_assoc]
  rfl

theorem encodeVarintIntoFrom_eq {rounds value length : ℕ} (h : value < 2 ^ (7 * rounds + 7))
    {output : List UInt8} (hroom : length + (encodeRounds rounds value).length ≤ output.length) :
    encodeVarintIntoFrom value length output =
      some (output.take length ++ encodeRounds rounds value ++
          output.drop (length + (encodeRounds rounds value).length),
        length + (encodeRounds rounds value).length) := by
  induction rounds generalizing value length output with
  | zero =>
    have hsmall : ¬value ≥ 0x80 := not_le.2 h
    rw [encodeRounds, List.length_singleton] at hroom
    have hlength : length < output.length := hroom
    rw [encodeVarintIntoFrom, if_pos hlength, dif_neg hsmall, encodeRounds,
      List.length_singleton, set_eq_append hlength]
  | succ rounds ih =>
    have hlength : length < output.length := by
      have hpos := List.length_pos_iff.2 (Encoding.encodeRounds_ne_nil (rounds + 1) value)
      omega
    rw [encodeVarintIntoFrom, if_pos hlength]
    rw [encodeRounds] at hroom ⊢
    split_ifs at hroom ⊢ with hlarge
    · rw [List.length_cons] at hroom ⊢
      have hroom' : length + 1 + (encodeRounds rounds (value >>> 7)).length ≤
          (output.set length (announcing value)).length := by
        rw [List.length_set]
        omega
      have hdrop : (output.set length (announcing value)).drop
          (length + 1 + (encodeRounds rounds (value >>> 7)).length) =
            output.drop (length + 1 + (encodeRounds rounds (value >>> 7)).length) := by
        rw [List.drop_set, if_pos (by omega)]
      rw [ih (shiftRight_lt_pow h) hroom', take_set_succ hlength, hdrop,
        List.append_assoc (output.take length)]
      have hsum : length + 1 + (encodeRounds rounds (value >>> 7)).length =
          length + ((encodeRounds rounds (value >>> 7)).length + 1) := by omega
      rw [hsum]
      rfl
    · rw [List.length_singleton, set_eq_append hlength]

theorem lt_pow_of_u64 {value : ℕ} (h : value < 2 ^ 64) : value < 2 ^ (7 * 9 + 7) :=
  h.trans (by norm_num)

theorem encoders_agree {value : ℕ} (h : value < 2 ^ 64) (output : List UInt8)
    (slice : List UInt8) (hslice : slice.length = 10) :
    encodeVarint value output = output ++ Encoding.encodeVarint value ∧
      varintLength value = (Encoding.encodeVarint value).length ∧
      encodeVarintInto value slice = some (Encoding.encodeVarint value ++
        slice.drop (Encoding.encodeVarint value).length, (Encoding.encodeVarint value).length) := by
  have hvalue := lt_pow_of_u64 h
  have hlength := Encoding.length_encodeVarint value
  refine ⟨encodeVarint_eq hvalue output, ?_, ?_⟩
  · have hfrom := varintLengthFrom_eq hvalue 0
    rw [Nat.zero_add, Nat.zero_add] at hfrom
    exact hfrom
  · have hroom : 0 + (encodeRounds 9 value).length ≤ slice.length := by
      rw [Nat.zero_add, hslice]
      exact hlength
    have hinto := encodeVarintIntoFrom_eq hvalue hroom
    rw [List.take_zero, List.nil_append, Nat.zero_add] at hinto
    exact hinto

theorem shifted_lt {index : ℕ} {byte : UInt8} (hindex : index ≤ 9) (h : ¬(index = 9 ∧ byte > 1)) :
    ((byte &&& 0x7f).toNat <<< (index * 7)) % 2 ^ 64 = (byte &&& 0x7f).toNat <<< (index * 7) := by
  apply Nat.mod_eq_of_lt
  rw [Nat.shiftLeft_eq]
  have hbits : (byte &&& 0x7f).toNat ≤ 127 := by
    rw [UInt8.toNat_and]
    exact Nat.and_le_right
  by_cases hlast : index = 9
  · have hone : byte.toNat ≤ 1 := by
      by_contra hgt
      exact h ⟨hlast, UInt8.lt_iff_toNat_lt.2 (not_le.1 hgt)⟩
    have hbit : (byte &&& 0x7f).toNat ≤ 1 := by
      rw [UInt8.toNat_and]
      exact Nat.and_le_left.trans hone
    rw [hlast]
    calc (byte &&& 0x7f).toNat * 2 ^ (9 * 7) ≤ 1 * 2 ^ (9 * 7) := Nat.mul_le_mul_right _ hbit
      _ < 2 ^ 64 := by norm_num
  · have hpow : 2 ^ (index * 7) ≤ 2 ^ (8 * 7) := Nat.pow_le_pow_right (by norm_num) (by omega)
    calc (byte &&& 0x7f).toNat * 2 ^ (index * 7) ≤ 127 * 2 ^ (8 * 7) :=
          Nat.mul_le_mul hbits hpow
      _ < 2 ^ 64 := by norm_num

theorem decodeVarintFrom_eq {rounds : ℕ} (hrounds : rounds ≤ 10) (data : List UInt8)
    (value offset : ℕ) : decodeVarintFrom data rounds value offset =
      (decodeRounds rounds value (data.drop offset)).map
        fun found => (found.1, data.length - found.2.length) := by
  induction rounds generalizing value offset with
  | zero => rfl
  | succ rounds ih =>
    rw [decodeVarintFrom]
    cases hget : data[offset]? with
    | none =>
      have hnil : data.drop offset = [] := by
        rw [List.drop_eq_nil_iff]
        exact List.getElem?_eq_none_iff.1 hget
      rw [hnil]
      rfl
    | some byte =>
      obtain ⟨hlt, hbyte⟩ := List.getElem?_eq_some_iff.1 hget
      have hdrop : data.drop offset = byte :: data.drop (offset + 1) := by
        rw [List.drop_eq_getElem_cons hlt, hbyte]
      rw [hdrop, decodeRounds]
      simp only
      split_ifs with hlong hend
      · rfl
      · rw [shifted_lt (by omega) hlong]
        simp only [Except.map]
        rw [List.length_drop]
        congr 2
        omega
      · rw [shifted_lt (by omega) hlong]
        exact ih (by omega) _ _

theorem decodeVarint_eq (data : List UInt8) (offset : ℕ) : decodeVarint data offset =
    (Encoding.decodeVarint (data.drop offset)).map
      fun found => (found.1, data.length - found.2.length) :=
  decodeVarintFrom_eq (Nat.le_refl 10) data 0 offset

theorem readVarintFrom_eq {rounds : ℕ} (hrounds : rounds ≤ 10) (value : ℕ) {input : List UInt8}
    (hinput : rounds = 10 → input ≠ []) :
    readVarintFrom rounds value input = (decodeRounds rounds value input).map some := by
  induction rounds generalizing value input with
  | zero => rfl
  | succ rounds ih =>
    cases input with
    | nil =>
      have hlater : ¬rounds = 9 := fun h => hinput (congrArg (· + 1) h) rfl
      rw [readVarintFrom, if_neg hlater]
      rfl
    | cons byte input =>
      rw [readVarintFrom, decodeRounds]
      simp only
      split_ifs with hlong hend
      · rfl
      · rw [shifted_lt (by omega) hlong]
        rfl
      · rw [shifted_lt (by omega) hlong]
        exact ih (by omega) _ (fun h => by omega)

theorem readVarint_eq (input : List UInt8) : readVarint input =
    if input = [] then .ok none else (Encoding.decodeVarint input).map some := by
  split_ifs with hempty
  · rw [hempty]
    rfl
  · exact readVarintFrom_eq (Nat.le_refl 10) 0 (fun _ => hempty)

theorem decodeRounds_drop {rounds value found : ℕ} {data rest : List UInt8}
    (h : decodeRounds rounds value data = .ok (found, rest)) :
    rest = data.drop (data.length - rest.length) := by
  induction rounds generalizing value data with
  | zero => cases h
  | succ rounds ih =>
    cases data with
    | nil => cases h
    | cons byte data =>
      rw [decodeRounds] at h
      simp only at h
      split_ifs at h with hlong hend
      · obtain ⟨-, rfl⟩ := Prod.mk.inj (Except.ok.inj h)
        rw [List.length_cons, Nat.add_sub_cancel_left]
        rfl
      · have hshorter := Encoding.decodeRounds_shorter h
        have hsub : (byte :: data).length - rest.length = data.length - rest.length + 1 := by
          rw [List.length_cons]
          omega
        rw [hsub, List.drop_succ_cons]
        exact ih h

end VarintLoops
end DeltaFunnel
