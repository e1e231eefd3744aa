import Mathlib.Data.Nat.Notation
import Mathlib.Logic.Function.Basic

/-! Codes whose letters are read back one at a time, with a stop letter. -/

namespace PrefixCode

variable {α β : Type}

/-- No letter starts with the stop letter, and each is read back whatever follows it. -/
structure Readable (code : α → List β) (next : List β → Option (α × List β)) (stop : β) :
    Prop where
  next_append : ∀ letter rest, next (code letter ++ rest) = some (letter, rest)
  nonempty : ∀ letter, code letter ≠ []
  head_ne : ∀ letter, (code letter).head? ≠ some stop

variable {code : α → List β} {next : List β → Option (α × List β)} {stop : β}

theorem length_le_flatMap (h : Readable code next stop) (word : List α) :
    word.length ≤ (word.flatMap code).length := by
  induction word with
  | nil => exact Nat.le_refl 0
  | cons letter word ih =>
    have hletter : 0 < (code letter).length := List.length_pos_iff.2 (h.nonempty letter)
    rw [List.flatMap_cons, List.length_append, List.length_cons]
    omega

variable [DecidableEq β]

/-- Reads letters until the stop letter, which it takes off as well. -/
def decodeUntil (next : List β → Option (α × List β)) (stop : β) :
    ℕ → List β → Option (List α × List β)
  | 0, _ => none
  | fuel + 1, input =>
    if input.head? = some stop then some ([], input.tail)
    else do
      let (letter, rest) ← next input
      let (word, rest) ← decodeUntil next stop fuel rest
      return (letter :: word, rest)

theorem decodeUntil_flatMap (h : Readable code next stop) (word : List α) (rest : List β)
    {fuel : ℕ} (hfuel : word.length < fuel) :
    decodeUntil next stop fuel (word.flatMap code ++ stop :: rest) = some (word, rest) := by
  induction word generalizing fuel with
  | nil =>
    obtain ⟨fuel, rfl⟩ : ∃ k, fuel = k + 1 := ⟨fuel - 1, by simp at hfuel; omega⟩
    simp [decodeUntil]
  | cons letter word ih =>
    obtain ⟨fuel, rfl⟩ : ∃ k, fuel = k + 1 := ⟨fuel - 1, by simp at hfuel; omega⟩
    have hhead : ((letter :: word).flatMap code ++ stop :: rest).head? ≠ some stop := by
      have hne := h.head_ne letter
      obtain ⟨first, tail, hletter⟩ := List.exists_cons_of_ne_nil (h.nonempty letter)
      rw [hletter] at hne
      rw [List.flatMap_cons, hletter]
      exact hne
    have hword : decodeUntil next stop fuel (word.flatMap code ++ stop :: rest) =
        some (word, rest) := by
      apply ih
      simpa using hfuel
    rw [decodeUntil, if_neg hhead, List.flatMap_cons, List.append_assoc, h.next_append]
    simp only [Option.bind_eq_bind, Option.bind_some]
    rw [hword]
    simp

theorem flatMap_injective (h : Readable code next stop) :
    Function.Injective fun word : List α => word.flatMap code := by
  intro first second heq
  have heq : first.flatMap code = second.flatMap code := heq
  have hfirst := decodeUntil_flatMap h first [] (Nat.lt_succ_of_le (length_le_flatMap h first))
  have hsecond := decodeUntil_flatMap h second [] (Nat.lt_succ_of_le (length_le_flatMap h second))
  rw [heq, hsecond] at hfirst
  have hpair := Option.some.inj hfirst
  exact (congrArg Prod.fst hpair).symm

end PrefixCode
