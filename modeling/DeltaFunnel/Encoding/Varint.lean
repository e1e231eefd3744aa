import Mathlib.Data.Nat.Basic
import Mathlib.Tactic.NormNum

/-! Variable-length integers of at most 64 bits: seven bits in a byte, the lowest first, and the
top bit of a byte set when another follows. -/

namespace Encoding

inductive VarintError where
  | truncated
  | tooLong
  deriving DecidableEq, Repr

/-- `rounds` bytes may still be read; ten of them hold 64 bits, the last only one. -/
def decodeRounds : ℕ → ℕ → List UInt8 → Except VarintError (ℕ × List UInt8)
  | 0, _, _ => .error .tooLong
  | _ + 1, _, [] => .error .truncated
  | rounds + 1, value, byte :: rest =>
    let index := 9 - rounds
    if index = 9 ∧ byte > 1 then .error .tooLong
    else
      let value := value ||| ((byte &&& 0x7f).toNat <<< (index * 7))
      if byte < 0x80 then .ok (value, rest) else decodeRounds rounds value rest

def decodeVarint (data : List UInt8) : Except VarintError (ℕ × List UInt8) := decodeRounds 10 0 data

/-- A value of 64 bits has at most nine bytes that announce another. -/
def encodeRounds : ℕ → ℕ → List UInt8
  | 0, value => [UInt8.ofNat value]
  | rounds + 1, value =>
    if value ≥ 0x80 then
      ((UInt8.ofNat value &&& 0x7f) ||| 0x80) :: encodeRounds rounds (value >>> 7)
    else [UInt8.ofNat value]

def encodeVarint (value : ℕ) : List UInt8 := encodeRounds 9 value

theorem forall_byte {P : UInt8 → Prop} (h : ∀ n : Fin 256, P (UInt8.ofNat n)) (byte : UInt8) :
    P byte := by
  have hbyte := h ⟨byte.toNat, byte.toNat_lt⟩
  rwa [UInt8.ofNat_toNat] at hbyte

theorem announcing_byte (byte : UInt8) :
    (((byte &&& 0x7f) ||| 0x80) &&& 0x7f).toNat = byte.toNat % 128 ∧
      ¬(byte &&& 0x7f) ||| 0x80 < 0x80 := by
  revert byte
  apply forall_byte
  decide +kernel

theorem last_byte (byte : UInt8) (h : byte.toNat < 128) :
    (byte &&& 0x7f).toNat = byte.toNat ∧ byte < 0x80 := by
  revert byte
  apply forall_byte
  decide +kernel

theorem split_low_bits (value : ℕ) : value = ((value >>> 7) <<< 7) ||| (value % 128) := by
  have hlow : value % 128 < 2 ^ 7 := Nat.mod_lt _ (by norm_num)
  rw [← Nat.shiftLeft_add_eq_or_of_lt hlow, Nat.shiftLeft_eq, Nat.shiftRight_eq_div_pow]
  omega

theorem or_split (start value shift : ℕ) :
    start ||| ((value % 128) <<< shift) ||| ((value >>> 7) <<< (shift + 7)) =
      start ||| (value <<< shift) := by
  conv_rhs => rw [split_low_bits value]
  rw [Nat.shiftLeft_or_distrib, Nat.or_assoc, ← Nat.shiftLeft_add, Nat.add_comm 7 shift,
    Nat.or_comm ((value % 128) <<< shift)]

theorem decodeRounds_encodeRounds {rounds value : ℕ} (hrounds : rounds ≤ 9)
    (hvalue : value < 2 ^ (7 * rounds + 1)) (start : ℕ) (rest : List UInt8) :
    decodeRounds (rounds + 1) start (encodeRounds rounds value ++ rest) =
      .ok (start ||| (value <<< ((9 - rounds) * 7)), rest) := by
  -- on the rounds; the last one holds the top bit of the value
  induction rounds generalizing value start with
  | zero =>
    have hsmall : value < 2 := hvalue
    have hnat : (UInt8.ofNat value).toNat = value :=
      UInt8.toNat_ofNat_of_lt' (by show value < 256; omega)
    obtain ⟨hbits, hlast⟩ := last_byte (UInt8.ofNat value) (by rw [hnat]; omega)
    have hone : ¬UInt8.ofNat value > 1 := by
      intro hgt
      have := UInt8.lt_iff_toNat_lt.1 hgt
      rw [hnat] at this
      exact absurd this (by show ¬1 < value; omega)
    rw [encodeRounds, List.singleton_append, decodeRounds]
    simp only [hone, and_false, if_false, hlast, if_true, hbits, hnat]
  | succ rounds ih =>
    have hindex : ¬9 - (rounds + 1) = 9 := by omega
    unfold encodeRounds
    split
    · next hlarge =>
      obtain ⟨hbits, hmore⟩ := announcing_byte (UInt8.ofNat value)
      have hlow : (UInt8.ofNat value).toNat % 128 = value % 128 := by
        rw [UInt8.toNat_ofNat']
        omega
      have hrest : value >>> 7 < 2 ^ (7 * rounds + 1) := by
        rw [Nat.shiftRight_eq_div_pow, Nat.div_lt_iff_lt_mul (by norm_num), ← Nat.pow_add]
        exact lt_of_lt_of_eq hvalue (congrArg (2 ^ ·) (by omega))
      have hshift : (9 - rounds) * 7 = (9 - (rounds + 1)) * 7 + 7 := by omega
      rw [List.cons_append, decodeRounds]
      simp only [hindex, false_and, if_false, hmore, hbits, hlow]
      rw [ih (by omega) hrest, hshift, or_split]
    · next hsmall =>
      have hlt : value < 128 := not_le.1 hsmall
      have hnat : (UInt8.ofNat value).toNat = value :=
        UInt8.toNat_ofNat_of_lt' (by show value < 256; omega)
      obtain ⟨hbits, hlast⟩ := last_byte (UInt8.ofNat value) (by rw [hnat]; exact hlt)
      rw [List.singleton_append, decodeRounds]
      simp only [hindex, false_and, if_false, hlast, if_true, hbits, hnat]

theorem decodeVarint_encodeVarint {value : ℕ} (hvalue : value < 2 ^ 64) (rest : List UInt8) :
    decodeVarint (encodeVarint value ++ rest) = .ok (value, rest) := by
  have h : decodeRounds 10 0 (encodeRounds 9 value ++ rest) = _ :=
    decodeRounds_encodeRounds (Nat.le_refl 9) hvalue 0 rest
  rw [decodeVarint, encodeVarint, h, Nat.zero_or, Nat.sub_self, Nat.zero_mul, Nat.shiftLeft_zero]

theorem encodeRounds_ne_nil (rounds value : ℕ) : encodeRounds rounds value ≠ [] := by
  cases rounds with
  | zero => exact List.cons_ne_nil _ _
  | succ rounds =>
    unfold encodeRounds
    split
    · exact List.cons_ne_nil _ _
    · exact List.cons_ne_nil _ _

theorem encodeVarint_ne_nil (value : ℕ) : encodeVarint value ≠ [] := encodeRounds_ne_nil 9 value

theorem length_encodeRounds (rounds value : ℕ) : (encodeRounds rounds value).length ≤ rounds + 1 := by
  induction rounds generalizing value with
  | zero => exact Nat.le_refl 1
  | succ rounds ih =>
    unfold encodeRounds
    split
    · exact Nat.succ_le_succ (ih _)
    · exact Nat.succ_le_succ (Nat.zero_le _)

theorem length_encodeVarint (value : ℕ) : (encodeVarint value).length ≤ 10 :=
  length_encodeRounds 9 value

theorem decodeRounds_shorter {rounds start value : ℕ} {data rest : List UInt8}
    (h : decodeRounds rounds start data = .ok (value, rest)) : rest.length < data.length := by
  induction rounds generalizing start data with
  | zero => cases h
  | succ rounds ih =>
    cases data with
    | nil => cases h
    | cons byte data =>
      rw [decodeRounds] at h
      simp only at h
      split at h
      · cases h
      · split at h
        · obtain ⟨-, rfl⟩ := Prod.mk.inj (Except.ok.inj h)
          exact Nat.lt_succ_self _
        · exact (ih h).trans (Nat.lt_succ_self _)

theorem decodeVarint_shorter {value : ℕ} {data rest : List UInt8}
    (h : decodeVarint data = .ok (value, rest)) : rest.length < data.length :=
  decodeRounds_shorter h

theorem decodeRounds_append {rounds start value : ℕ} {data rest : List UInt8}
    (h : decodeRounds rounds start data = .ok (value, rest)) (more : List UInt8) :
    decodeRounds rounds start (data ++ more) = .ok (value, rest ++ more) := by
  induction rounds generalizing start data with
  | zero => cases h
  | succ rounds ih =>
    cases data with
    | nil => cases h
    | cons byte data =>
      rw [List.cons_append, decodeRounds]
      rw [decodeRounds] at h
      simp only at h ⊢
      split at h
      · cases h
      · next hsmall =>
        rw [if_neg hsmall]
        split at h
        · next hlast =>
          obtain ⟨rfl, rfl⟩ := Prod.mk.inj (Except.ok.inj h)
          rw [if_pos hlast]
        · next hmore =>
          rw [if_neg hmore]
          exact ih h

theorem decodeVarint_append {value : ℕ} {data rest : List UInt8}
    (h : decodeVarint data = .ok (value, rest)) (more : List UInt8) :
    decodeVarint (data ++ more) = .ok (value, rest ++ more) :=
  decodeRounds_append h more

def Announcing (bytes : List UInt8) : Prop := ∀ byte ∈ bytes, 0x80 ≤ byte

instance (bytes : List UInt8) : Decidable (Announcing bytes) :=
  inferInstanceAs (Decidable (∀ byte ∈ bytes, 0x80 ≤ byte))

/-- The value in the low seven bits of the bytes, the lowest first. -/
def payload : List UInt8 → ℕ
  | [] => 0
  | byte :: rest => byte.toNat % 128 + 128 * payload rest

/-- A varint of at most `rounds` bytes stands first, with the value `value`. Ten bytes are the most
there are, and the last of them holds one bit. -/
def Reads (rounds : ℕ) (bytes : List UInt8) (value : ℕ) (rest : List UInt8) : Prop :=
  ∃ announcing last, bytes = announcing ++ last :: rest ∧ Announcing announcing ∧ last < 0x80 ∧
    announcing.length < rounds ∧ (announcing.length + 1 = rounds → last ≤ 1) ∧
    value = payload (announcing ++ [last])

/-- All bytes but the last that may be read announce another, and that one is too large. -/
def Overlong (rounds : ℕ) (bytes : List UInt8) : Prop :=
  ∃ announcing last rest, bytes = announcing ++ last :: rest ∧ Announcing announcing ∧
    announcing.length + 1 = rounds ∧ 1 < last

def Truncated (rounds : ℕ) (bytes : List UInt8) : Prop := bytes.length < rounds ∧ Announcing bytes

theorem announcing_nil : Announcing [] := fun _ h => absurd h List.not_mem_nil

theorem announcing_cons {byte : UInt8} {bytes : List UInt8} :
    Announcing (byte :: bytes) ↔ 0x80 ≤ byte ∧ Announcing bytes := List.forall_mem_cons

theorem low_bits (byte : UInt8) : (byte &&& 0x7f).toNat = byte.toNat % 128 := by
  revert byte
  apply forall_byte
  decide +kernel

theorem or_low_bits (start shift later : ℕ) (byte : UInt8) :
    start ||| ((byte &&& 0x7f).toNat <<< shift) ||| (later <<< (shift + 7)) =
      start ||| ((byte.toNat % 128 + 128 * later) <<< shift) := by
  have hlow : (byte.toNat % 128 + 128 * later) % 128 = (byte &&& 0x7f).toNat := by
    rw [low_bits]
    omega
  have hhigh : (byte.toNat % 128 + 128 * later) >>> 7 = later := by
    rw [Nat.shiftRight_eq_div_pow]
    omega
  have hsplit := or_split start (byte.toNat % 128 + 128 * later) shift
  rw [hlow, hhigh] at hsplit
  exact hsplit

/-- One byte is read: it is too large as the tenth, it ends the value, or it announces the rest. -/
theorem decodeRounds_cons {rounds : ℕ} (hrounds : rounds ≤ 9) (start : ℕ) (byte : UInt8)
    (rest : List UInt8) :
    (rounds = 0 ∧ 1 < byte ∧ decodeRounds (rounds + 1) start (byte :: rest) = .error .tooLong) ∨
      ((rounds = 0 → byte ≤ 1) ∧ byte < 0x80 ∧
        decodeRounds (rounds + 1) start (byte :: rest) =
          .ok (start ||| (payload [byte] <<< ((9 - rounds) * 7)), rest)) ∨
      (rounds ≠ 0 ∧ 0x80 ≤ byte ∧ decodeRounds (rounds + 1) start (byte :: rest) =
        decodeRounds rounds (start ||| ((byte &&& 0x7f).toNat <<< ((9 - rounds) * 7))) rest) := by
  have htenth : 9 - rounds = 9 ↔ rounds = 0 := by omega
  have hsingle : payload [byte] = (byte &&& 0x7f).toNat := by
    rw [low_bits]
    rfl
  rw [decodeRounds]
  simp only [htenth]
  by_cases hlong : rounds = 0 ∧ byte > 1
  · rw [if_pos hlong]
    exact .inl ⟨hlong.1, hlong.2, rfl⟩
  rw [if_neg hlong]
  have hsmall : rounds = 0 → byte ≤ 1 := fun h => UInt8.not_lt.1 fun hgt => hlong ⟨h, hgt⟩
  by_cases hlast : byte < 0x80
  · rw [if_pos hlast, hsingle]
    exact .inr (.inl ⟨hsmall, hlast, rfl⟩)
  · rw [if_neg hlast]
    refine .inr (.inr ⟨?_, UInt8.not_lt.1 hlast, rfl⟩)
    intro hzero
    exact hlast (UInt8.lt_of_le_of_lt (hsmall hzero) (by decide))

theorem reads_cons {rounds value : ℕ} {byte : UInt8} {bytes rest : List UInt8} :
    Reads (rounds + 1) (byte :: bytes) value rest ↔
      (byte < 0x80 ∧ (rounds = 0 → byte ≤ 1) ∧ rest = bytes ∧ value = payload [byte]) ∨
      (0x80 ≤ byte ∧ ∃ later, Reads rounds bytes later rest ∧
        value = byte.toNat % 128 + 128 * later) := by
  constructor
  · rintro ⟨announcing, last, hbytes, hannouncing, hlast, hlength, htenth, rfl⟩
    cases announcing with
    | nil =>
      obtain ⟨rfl, rfl⟩ := List.cons.inj hbytes
      exact .inl ⟨hlast, fun h => htenth (by rw [h]; rfl), rfl, rfl⟩
    | cons first announcing =>
      obtain ⟨rfl, rfl⟩ := List.cons.inj hbytes
      obtain ⟨hfirst, hannouncing⟩ := announcing_cons.1 hannouncing
      refine .inr ⟨hfirst, payload (announcing ++ [last]), ⟨announcing, last, rfl, hannouncing,
        hlast, Nat.lt_of_succ_lt_succ hlength, ?_, rfl⟩, rfl⟩
      intro h
      exact htenth (by rw [List.length_cons, h])
  · rintro (⟨hlast, htenth, rfl, rfl⟩ | ⟨hfirst, later, hlater, rfl⟩)
    · exact ⟨[], byte, rfl, announcing_nil, hlast, Nat.succ_pos rounds,
        fun h => htenth (Nat.succ.inj h).symm, rfl⟩
    · obtain ⟨announcing, last, rfl, hannouncing, hlast, hlength, htenth, rfl⟩ := hlater
      refine ⟨byte :: announcing, last, rfl, announcing_cons.2 ⟨hfirst, hannouncing⟩, hlast,
        Nat.succ_lt_succ hlength, ?_, rfl⟩
      intro h
      exact htenth (Nat.succ.inj h)

theorem overlong_cons {rounds : ℕ} {byte : UInt8} {bytes : List UInt8} :
    Overlong (rounds + 1) (byte :: bytes) ↔
      (rounds = 0 ∧ 1 < byte) ∨ (0x80 ≤ byte ∧ Overlong rounds bytes) := by
  constructor
  · rintro ⟨announcing, last, rest, hbytes, hannouncing, hlength, hlast⟩
    cases announcing with
    | nil =>
      obtain ⟨rfl, rfl⟩ := List.cons.inj hbytes
      exact .inl ⟨(Nat.succ.inj hlength).symm, hlast⟩
    | cons first announcing =>
      obtain ⟨rfl, rfl⟩ := List.cons.inj hbytes
      obtain ⟨hfirst, hannouncing⟩ := announcing_cons.1 hannouncing
      exact .inr ⟨hfirst, announcing, last, rest, rfl, hannouncing, Nat.succ.inj hlength, hlast⟩
  · rintro (⟨rfl, hlast⟩ | ⟨hfirst, announcing, last, rest, rfl, hannouncing, hlength, hlast⟩)
    · exact ⟨[], byte, bytes, rfl, announcing_nil, rfl, hlast⟩
    · exact ⟨byte :: announcing, last, rest, rfl, announcing_cons.2 ⟨hfirst, hannouncing⟩,
        congrArg Nat.succ hlength, hlast⟩

theorem truncated_cons {rounds : ℕ} {byte : UInt8} {bytes : List UInt8} :
    Truncated (rounds + 1) (byte :: bytes) ↔ 0x80 ≤ byte ∧ Truncated rounds bytes := by
  unfold Truncated
  rw [announcing_cons, List.length_cons, Nat.succ_lt_succ_iff, and_left_comm]

theorem decodeRounds_eq_ok {rounds : ℕ} (hrounds : rounds ≤ 10) {start value : ℕ}
    {bytes rest : List UInt8} : decodeRounds rounds start bytes = .ok (value, rest) ↔
      ∃ found, Reads rounds bytes found rest ∧
        value = start ||| (found <<< ((10 - rounds) * 7)) := by
  -- on the rounds, with the bits already read
  induction rounds generalizing start bytes with
  | zero =>
    constructor
    · intro h
      cases h
    · rintro ⟨found, ⟨announcing, last, -, -, -, hlength, -⟩, -⟩
      exact absurd hlength (Nat.not_lt_zero _)
  | succ rounds ih =>
    cases bytes with
    | nil =>
      constructor
      · intro h
        cases h
      · rintro ⟨found, ⟨announcing, last, hbytes, -⟩, -⟩
        exact absurd hbytes.symm (List.append_ne_nil_of_right_ne_nil _ (List.cons_ne_nil _ _))
    | cons byte bytes =>
      have hshift : (10 - (rounds + 1)) * 7 = (9 - rounds) * 7 := by omega
      simp only [reads_cons, hshift]
      obtain ⟨hzero, hlong, heq⟩ | ⟨htenth, hlast, heq⟩ | ⟨hzero, hmore, heq⟩ :=
        decodeRounds_cons (Nat.le_of_succ_le_succ hrounds) start byte bytes
      · rw [heq]
        constructor
        · intro h
          cases h
        · rintro ⟨found, ⟨-, htenth, -⟩ | ⟨-, later, ⟨announcing, last, -, -, -, hlength, -⟩, -⟩, -⟩
          · exact absurd (htenth hzero) (UInt8.not_le.2 hlong)
          · exact absurd hlength (by omega)
      · rw [heq]
        constructor
        · intro h
          obtain ⟨rfl, rfl⟩ := Prod.mk.inj (Except.ok.inj h)
          exact ⟨_, .inl ⟨hlast, htenth, rfl, rfl⟩, rfl⟩
        · rintro ⟨found, ⟨-, -, rfl, rfl⟩ | ⟨hmore, -⟩, rfl⟩
          · rfl
          · exact absurd hmore (UInt8.not_le.2 hlast)
      · have hlater : (10 - rounds) * 7 = (9 - rounds) * 7 + 7 := by omega
        rw [heq, ih (Nat.le_of_succ_le hrounds), hlater]
        constructor
        · rintro ⟨later, hreads, rfl⟩
          exact ⟨_, .inr ⟨hmore, later, hreads, rfl⟩, or_low_bits start _ later byte⟩
        · rintro ⟨found, ⟨hlast, -⟩ | ⟨-, later, hreads, rfl⟩, rfl⟩
          · exact absurd hmore (UInt8.not_le.2 hlast)
          · exact ⟨later, hreads, (or_low_bits start _ later byte).symm⟩

theorem decodeRounds_eq_tooLong {rounds : ℕ} (hrounds : rounds ≤ 9) {start : ℕ}
    {bytes : List UInt8} : decodeRounds (rounds + 1) start bytes = .error .tooLong ↔
      Overlong (rounds + 1) bytes := by
  induction bytes generalizing rounds start with
  | nil =>
    constructor
    · intro h
      cases h
    · rintro ⟨announcing, last, rest, hbytes, -⟩
      exact absurd hbytes.symm (List.append_ne_nil_of_right_ne_nil _ (List.cons_ne_nil _ _))
  | cons byte bytes ih =>
    rw [overlong_cons]
    obtain ⟨hzero, hlong, heq⟩ | ⟨htenth, hlast, heq⟩ | ⟨hzero, hmore, heq⟩ :=
      decodeRounds_cons hrounds start byte bytes
    · exact ⟨fun _ => .inl ⟨hzero, hlong⟩, fun _ => heq⟩
    · rw [heq]
      constructor
      · intro h
        cases h
      · rintro (⟨hzero, hlong⟩ | ⟨hmore, -⟩)
        · exact absurd (htenth hzero) (UInt8.not_le.2 hlong)
        · exact absurd hmore (UInt8.not_le.2 hlast)
    · obtain ⟨fewer, rfl⟩ := Nat.exists_eq_succ_of_ne_zero hzero
      rw [heq, ih (Nat.le_of_succ_le hrounds)]
      exact ⟨fun h => .inr ⟨hmore, h⟩, fun h => h.elim (fun h => absurd h.1 hzero) (·.2)⟩

theorem decodeRounds_eq_truncated {rounds : ℕ} (hrounds : rounds ≤ 9) {start : ℕ}
    {bytes : List UInt8} : decodeRounds (rounds + 1) start bytes = .error .truncated ↔
      Truncated (rounds + 1) bytes := by
  induction bytes generalizing rounds start with
  | nil => exact ⟨fun _ => ⟨Nat.succ_pos rounds, announcing_nil⟩, fun _ => rfl⟩
  | cons byte bytes ih =>
    rw [truncated_cons]
    obtain ⟨hzero, hlong, heq⟩ | ⟨htenth, hlast, heq⟩ | ⟨hzero, hmore, heq⟩ :=
      decodeRounds_cons hrounds start byte bytes
    · rw [heq]
      constructor
      · intro h
        cases h
      · rintro ⟨-, hlength, -⟩
        exact absurd hlength (by omega)
    · rw [heq]
      constructor
      · intro h
        cases h
      · intro h
        exact absurd h.1 (UInt8.not_le.2 hlast)
    · obtain ⟨fewer, rfl⟩ := Nat.exists_eq_succ_of_ne_zero hzero
      rw [heq, ih (Nat.le_of_succ_le hrounds)]
      exact ⟨fun h => ⟨hmore, h⟩, fun h => h.2⟩

theorem decodeVarint_eq_ok {bytes rest : List UInt8} {value : ℕ} :
    decodeVarint bytes = .ok (value, rest) ↔ Reads 10 bytes value rest := by
  unfold decodeVarint
  rw [decodeRounds_eq_ok (Nat.le_refl 10)]
  simp only [Nat.sub_self, Nat.zero_mul, Nat.shiftLeft_zero, Nat.zero_or]
  constructor
  · rintro ⟨found, hreads, rfl⟩
    exact hreads
  · intro hreads
    exact ⟨value, hreads, rfl⟩

theorem decodeVarint_eq_tooLong {bytes : List UInt8} :
    decodeVarint bytes = .error .tooLong ↔ Overlong 10 bytes :=
  decodeRounds_eq_tooLong (Nat.le_refl 9)

theorem decodeVarint_eq_truncated {bytes : List UInt8} :
    decodeVarint bytes = .error .truncated ↔ Truncated 10 bytes :=
  decodeRounds_eq_truncated (Nat.le_refl 9)

example : encodeVarint 300 = [0xac, 0x02] ∧ decodeVarint [0xac, 0x02, 7] = .ok (300, [7]) := by decide

end Encoding
