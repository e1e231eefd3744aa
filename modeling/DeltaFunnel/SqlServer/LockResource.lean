import DeltaFunnel.SqlServer.SwapBatch
import Mathlib.Algebra.Order.Ring.Nat
import Mathlib.Data.Nat.ModEq

/-! The lock that a replace takes: its resource fits the server's limit and tells targets apart. -/

namespace DeltaFunnel
namespace ReplaceLock

def fullResource (finalTable : TableName) : List Char :=
  ("delta-funnel:replace:" ++ finalTable.quotedSql).toList

def prefixChars : ℕ := maxResourceChars - 16 - 1

theorem hexDigit_inj : ∀ m < 16, ∀ n < 16, hexDigit m = hexDigit n → m = n := by decide

theorem hexDigit_ne_bracket : ∀ n < 16, hexDigit n ≠ ']' := by decide

theorem mod_pow_eq_of_digits {base a b : ℕ} {count : ℕ}
    (h : ∀ i < count, a / base ^ i % base = b / base ^ i % base) :
    a % base ^ count = b % base ^ count := by
  induction count with
  | zero => rw [pow_zero, Nat.mod_one, Nat.mod_one]
  | succ count ih =>
    have hlow := ih fun i hi => h i (Nat.lt_succ_of_lt hi)
    rw [Nat.mod_pow_succ, Nat.mod_pow_succ, hlow, h count (Nat.lt_succ_self count)]

theorem paddedHex_toList (value : UInt64) : (paddedHex value).toList =
    (List.range 16).map fun i => hexDigit (value.toNat >>> (4 * (15 - i)) % 16) :=
  String.toList_ofList

theorem paddedHex_length (value : UInt64) : (paddedHex value).toList.length = 16 := by
  rw [paddedHex_toList, List.length_map, List.length_range]

theorem paddedHex_getLast? (value : UInt64) :
    (paddedHex value).toList.getLast? = some (hexDigit (value.toNat % 16)) := by
  rw [paddedHex_toList]
  rfl

theorem paddedHex_injective : Function.Injective paddedHex := by
  intro a b h
  have hlists := congrArg String.toList h
  rw [paddedHex_toList, paddedHex_toList] at hlists
  have hdigits : ∀ i < 16, a.toNat / 16 ^ i % 16 = b.toNat / 16 ^ i % 16 := by
    intro i hi
    have hdigit := List.map_inj_left.1 hlists (15 - i) (List.mem_range.2 (by omega))
    have hsame := hexDigit_inj _ (Nat.mod_lt _ (by decide)) _ (Nat.mod_lt _ (by decide)) hdigit
    have hi' : 15 - (15 - i) = i := by omega
    have hpow : 2 ^ (4 * i) = 16 ^ i := pow_mul 2 4 i
    rw [hi', Nat.shiftRight_eq_div_pow, Nat.shiftRight_eq_div_pow, hpow] at hsame
    exact hsame
  have hmod := mod_pow_eq_of_digits hdigits
  have hlimit : 16 ^ 16 = 2 ^ 64 := by decide
  rw [hlimit, Nat.mod_eq_of_lt a.toNat_lt, Nat.mod_eq_of_lt b.toNat_lt] at hmod
  exact UInt64.toNat.inj hmod

theorem replaceLockResource_short {name : TableName}
    (h : (fullResource name).length ≤ maxResourceChars) :
    (replaceLockResource name).toList = fullResource name := by
  unfold replaceLockResource
  exact congrArg String.toList (if_pos h)

theorem replaceLockResource_long {name : TableName}
    (h : maxResourceChars < (fullResource name).length) :
    (replaceLockResource name).toList = (fullResource name).take prefixChars ++
      ':' :: (paddedHex (stableResourceHash (String.ofList (fullResource name)))).toList := by
  have hcolon : ":".toList = [':'] := Sql.literal_toList rfl
  have hlong : ¬("delta-funnel:replace:" ++ name.quotedSql).toList.length ≤ maxResourceChars :=
    not_le.2 h
  unfold replaceLockResource
  dsimp only
  rw [if_neg hlong, String.toList_append, String.toList_append, String.toList_ofList, hcolon,
    List.append_assoc]
  unfold fullResource
  rw [String.ofList_toList]
  rfl

theorem replaceLockResource_long_length {name : TableName}
    (h : maxResourceChars < (fullResource name).length) :
    (replaceLockResource name).toList.length = maxResourceChars := by
  have hcut : ((fullResource name).take prefixChars).length = prefixChars :=
    List.length_take_of_le ((by decide : prefixChars ≤ maxResourceChars).trans h.le)
  rw [replaceLockResource_long h, List.length_append, hcut, List.length_cons, paddedHex_length]
  rfl

theorem fullResource_getLast? (name : TableName) :
    (fullResource name).getLast? = some ']' := by
  have hbracketed : ∀ text : String, ∀ before : List Char,
      (before ++ Sql.bracketed text).getLast? = some ']' := by
    intro text before
    have hend : Sql.bracketed text = ('[' :: text.toList.flatMap fun c =>
        if c = ']' then [']', ']'] else [c]) ++ [']'] := rfl
    rw [hend, ← List.append_assoc, List.getLast?_append, List.getLast?_singleton]
    rfl
  unfold fullResource
  rw [String.toList_append, quotedSql_toList]
  cases name.schema with
  | none => exact hbracketed name.table _
  | some schema =>
    have hname : Sql.quotedName (some schema) name.table =
        (Sql.bracketed schema ++ ['.']) ++ Sql.bracketed name.table := by
      rw [List.append_assoc]
      rfl
    rw [hname, ← List.append_assoc]
    exact hbracketed name.table _

theorem replaceLockResource_long_getLast? {name : TableName}
    (h : maxResourceChars < (fullResource name).length) :
    (replaceLockResource name).toList.getLast? ≠ some ']' := by
  rw [replaceLockResource_long h, List.getLast?_append, List.getLast?_cons, paddedHex_getLast?,
    Option.getD_some, Option.some_or]
  generalize stableResourceHash (String.ofList (fullResource name)) = hash
  intro hlast
  have hdigit : hexDigit (hash.toNat % 16) = ']' := Option.some.inj hlast
  exact hexDigit_ne_bracket _ (Nat.mod_lt _ (by decide)) hdigit

theorem fullResource_inj {name other : TableName} :
    fullResource name = fullResource other ↔ name.quotedSql = other.quotedSql := by
  unfold fullResource
  rw [String.toList_inj, String.append_right_inj]

theorem replaceLockResource_ne {name other : TableName}
    (hne : name.quotedSql ≠ other.quotedSql)
    (hshort : (fullResource name).length ≤ maxResourceChars) :
    replaceLockResource name ≠ replaceLockResource other := by
  intro heq
  have hlists := congrArg String.toList heq
  rw [replaceLockResource_short hshort] at hlists
  by_cases hother : (fullResource other).length ≤ maxResourceChars
  · rw [replaceLockResource_short hother] at hlists
    exact hne (fullResource_inj.1 hlists)
  · have hlast := replaceLockResource_long_getLast? (not_le.1 hother)
    rw [← hlists, fullResource_getLast?] at hlast
    exact hlast rfl

theorem replaceLockResource_long_inj {name other : TableName}
    (hname : maxResourceChars < (fullResource name).length)
    (hother : maxResourceChars < (fullResource other).length) :
    replaceLockResource name = replaceLockResource other ↔
      (fullResource name).take prefixChars = (fullResource other).take prefixChars ∧
        stableResourceHash (String.ofList (fullResource name)) =
          stableResourceHash (String.ofList (fullResource other)) := by
  have hle : prefixChars ≤ maxResourceChars := by decide
  rw [← String.toList_inj, replaceLockResource_long hname, replaceLockResource_long hother]
  constructor
  · intro h
    obtain ⟨hkept, hhash⟩ := List.append_inj h (by
      rw [List.length_take_of_le (hle.trans hname.le), List.length_take_of_le (hle.trans hother.le)])
    refine ⟨hkept, ?_⟩
    have htext := (List.cons_inj_right ':').1 hhash
    exact paddedHex_injective (String.toList_inj.1 htext)
  · intro h
    rw [h.1, h.2]

/-- Lock resources fit the server's limit, and tables with different names share one only where
both names are too long and agree in what is kept of them. -/
theorem replace_lock_resources_separate :
    (∀ name : TableName, (replaceLockResource name).toList.length ≤ maxResourceChars) ∧
    (∀ name other : TableName, name.quotedSql ≠ other.quotedSql →
      (fullResource name).length ≤ maxResourceChars ∨
        (fullResource other).length ≤ maxResourceChars →
      replaceLockResource name ≠ replaceLockResource other) ∧
    ∀ name other : TableName, maxResourceChars < (fullResource name).length →
      maxResourceChars < (fullResource other).length →
      (replaceLockResource name = replaceLockResource other ↔
        (fullResource name).take 238 = (fullResource other).take 238 ∧
          stableResourceHash (String.ofList (fullResource name)) =
            stableResourceHash (String.ofList (fullResource other))) := by
  refine ⟨?_, ?_, fun name other => replaceLockResource_long_inj⟩
  · intro name
    by_cases h : (fullResource name).length ≤ maxResourceChars
    · rw [replaceLockResource_short h]
      exact h
    · exact (replaceLockResource_long_length (not_le.1 h)).le
  · intro name other hne hshort
    obtain hname | hother := hshort
    · exact replaceLockResource_ne hne hname
    · exact (replaceLockResource_ne hne.symm hother).symm

theorem short_lock_resources_separate :
    replaceLockResource ⟨some "dbo", "orders"⟩ ≠ replaceLockResource ⟨none, "dbo].[orders"⟩ := by
  obtain ⟨-, hseparate, -⟩ := replace_lock_resources_separate
  have hquoted : (⟨some "dbo", "orders"⟩ : TableName).quotedSql ≠
      (⟨none, "dbo].[orders"⟩ : TableName).quotedSql := by decide
  have hshort : (fullResource ⟨some "dbo", "orders"⟩).length ≤ maxResourceChars := by decide
  exact hseparate ⟨some "dbo", "orders"⟩ ⟨none, "dbo].[orders"⟩ hquoted (.inl hshort)

end ReplaceLock
end DeltaFunnel
