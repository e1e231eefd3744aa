import Mathlib.Data.List.Count

/-! Begin and end marks that nest. -/

namespace DeltaFunnel

variable {α : Type} [DecidableEq α]

inductive Bracket (α : Type) where
  | opening (a : α)
  | closing (a : α)
  deriving DecidableEq

/-- The marks still open after a list of marks, innermost first. An end that does not meet its
own begin as the innermost open one leaves `none`. -/
def openBrackets : List α → List (Bracket α) → Option (List α)
  | stack, [] => some stack
  | stack, .opening a :: rest => openBrackets (a :: stack) rest
  | [], .closing _ :: _ => none
  | b :: stack, .closing a :: rest => if a = b then openBrackets stack rest else none

@[simp]
theorem openBrackets_nil (stack : List α) : openBrackets stack [] = some stack := by
  unfold openBrackets
  rfl

theorem openBrackets_closing (a b : α) (stack : List α) (rest : List (Bracket α)) :
    openBrackets (b :: stack) (.closing a :: rest) =
      if a = b then openBrackets stack rest else none := by
  rw [openBrackets]

theorem openBrackets_append (stack : List α) (xs ys : List (Bracket α)) :
    openBrackets stack (xs ++ ys) =
      (openBrackets stack xs).bind fun inner => openBrackets inner ys := by
  induction xs generalizing stack with
  | nil =>
    rw [List.nil_append, openBrackets_nil]
    rfl
  | cons x xs ih =>
    cases x with
    | opening a => exact ih (a :: stack)
    | closing a =>
      cases stack with
      | nil => rfl
      | cons b stack =>
        rw [List.cons_append, openBrackets_closing, openBrackets_closing]
        by_cases h : a = b
        · rw [if_pos h, if_pos h]
          exact ih stack
        · rw [if_neg h, if_neg h]
          rfl

theorem count_opening_of_openBrackets {stack stack' : List α} {xs : List (Bracket α)}
    (h : openBrackets stack xs = some stack') (a : α) :
    stack.count a + xs.count (.opening a) = stack'.count a + xs.count (.closing a) := by
  induction xs generalizing stack with
  | nil =>
    obtain rfl : stack = stack' := Option.some.inj h
    rfl
  | cons x xs ih =>
    cases x with
    | opening b =>
      have hrest : (b :: stack).count a + xs.count (.opening a) =
          stack'.count a + xs.count (.closing a) := ih h
      rw [List.count_cons] at hrest
      rw [List.count_cons, List.count_cons]
      simp only [beq_iff_eq, Bracket.opening.injEq, reduceCtorEq, if_false] at hrest ⊢
      omega
    | closing b =>
      cases stack with
      | nil => cases h
      | cons c stack =>
        rw [openBrackets_closing] at h
        split at h
        · next hbc =>
          have hrest := ih h
          rw [List.count_cons, List.count_cons, List.count_cons]
          simp only [beq_iff_eq, Bracket.closing.injEq, reduceCtorEq, if_false, hbc]
          omega
        · cases h

end DeltaFunnel
