import Mathlib.Data.List.TakeWhile

/-! Lines of a stream: the pieces between separators, where one at the end closes the last line. -/

namespace Collections

def closedLines {α : Type} (separator : α) (pieces : List (List α)) : List α :=
  pieces.flatMap (· ++ [separator])

theorem closedLines_cons {α : Type} (separator : α) (piece : List α) (pieces : List (List α)) :
    closedLines separator (piece :: pieces) = piece ++ separator :: closedLines separator pieces := by
  unfold closedLines
  rw [List.flatMap_cons, List.append_assoc]
  rfl

theorem closedLines_append {α : Type} (separator : α) (first second : List (List α)) :
    closedLines separator (first ++ second) =
      closedLines separator first ++ closedLines separator second := List.flatMap_append

variable {α : Type} [DecidableEq α] {separator : α} {stream : List α}

def dropEmptyEnd (pieces : List (List α)) : List (List α) :=
  if pieces.getLast? = some [] then pieces.dropLast else pieces

def lines (separator : α) (stream : List α) : List (List α) :=
  dropEmptyEnd (stream.splitOn separator)

def firstLine (separator : α) (stream : List α) : List α := stream.takeWhile (· != separator)

def behindLine (separator : α) (stream : List α) : List α :=
  (stream.dropWhile (· != separator)).tail

theorem firstLine_forall : ∀ a ∈ firstLine separator stream, (a == separator) = false := by
  intro a ha
  have h := List.mem_takeWhile_imp ha
  simpa using h

theorem stream_cases (separator : α) (stream : List α) :
    (stream = firstLine separator stream ∧ behindLine separator stream = []) ∨
      stream = firstLine separator stream ++ separator :: behindLine separator stream := by
  have hsplit := List.takeWhile_append_dropWhile (p := (· != separator)) (l := stream)
  cases hrest : stream.dropWhile (· != separator) with
  | nil =>
    refine .inl ⟨?_, ?_⟩
    · rw [hrest, List.append_nil] at hsplit
      exact hsplit.symm
    · unfold behindLine
      rw [hrest]
      rfl
  | cons a rest =>
    have ha : a = separator := by
      have h := List.head_dropWhile_not (· != separator) (l := stream) (by rw [hrest]; simp)
      simp only [hrest, List.head_cons] at h
      simpa using h
    refine .inr ?_
    rw [hrest, ha] at hsplit
    unfold behindLine firstLine
    rw [hrest, List.tail_cons, hsplit]

theorem lines_nil : lines separator ([] : List α) = [] := rfl

theorem dropEmptyEnd_cons (piece : List α) {pieces : List (List α)} (h : pieces ≠ []) :
    dropEmptyEnd (piece :: pieces) = piece :: dropEmptyEnd pieces := by
  unfold dropEmptyEnd
  rw [List.getLast?_cons, List.getLast?_eq_some_getLast h, Option.getD_some]
  split
  · rw [List.dropLast_cons_of_ne_nil h]
  · rfl

theorem lines_of_ne_nil (h : stream ≠ []) : lines separator stream =
    firstLine separator stream :: lines separator (behindLine separator stream) := by
  obtain ⟨heq, hbehind⟩ | heq := stream_cases separator stream
  · have hsplit : stream.splitOn separator = [stream] := by
      unfold List.splitOn
      rw [heq]
      exact List.splitOnP_eq_singleton firstLine_forall
    rw [hbehind, lines_nil, ← heq]
    unfold lines dropEmptyEnd
    rw [hsplit, List.getLast?_singleton, if_neg]
    intro hempty
    exact h (Option.some.inj hempty)
  · have hsplit : stream.splitOn separator =
        firstLine separator stream :: (behindLine separator stream).splitOn separator := by
      have hfirst : ∀ a ∈ firstLine separator stream, (a == separator) = false := firstLine_forall
      have hcons := List.splitOnP_append_cons_of_forall_mem (p := (· == separator)) hfirst
        separator (by simp) (behindLine separator stream)
      rw [← heq] at hcons
      exact hcons
    unfold lines
    rw [hsplit, dropEmptyEnd_cons]
    exact List.splitOnP_ne_nil _ _

theorem firstLine_append_of_forall {before : List α} (h : separator ∉ before) (behind : List α) :
    firstLine separator (before ++ behind) = before ++ firstLine separator behind := by
  unfold firstLine
  apply List.takeWhile_append_of_pos
  intro a ha
  have hne : a ≠ separator := fun heq => h (heq ▸ ha)
  simpa using hne

theorem behindLine_append_of_forall {before : List α} (h : separator ∉ before)
    (behind : List α) : behindLine separator (before ++ behind) = behindLine separator behind := by
  unfold behindLine
  rw [List.dropWhile_append_of_pos]
  intro a ha
  have hne : a ≠ separator := fun heq => h (heq ▸ ha)
  simpa using hne

theorem firstLine_append_cons {before : List α} (h : separator ∉ before) (behind : List α) :
    firstLine separator (before ++ separator :: behind) = before := by
  rw [firstLine_append_of_forall h]
  unfold firstLine
  rw [List.takeWhile_cons_of_neg (by simp), List.append_nil]

theorem behindLine_append_cons {before : List α} (h : separator ∉ before) (behind : List α) :
    behindLine separator (before ++ separator :: behind) = behind := by
  rw [behindLine_append_of_forall h]
  unfold behindLine
  rw [List.dropWhile_cons_of_neg (by simp)]
  rfl

theorem separator_notMem_of_mem_lines {line : List α} (h : line ∈ lines separator stream) :
    separator ∉ line := by
  induction hlength : stream.length using Nat.strong_induction_on generalizing stream with
  | _ length ih =>
    by_cases hempty : stream = []
    · rw [hempty] at h
      cases h
    · rw [lines_of_ne_nil hempty] at h
      rcases List.mem_cons.1 h with rfl | h
      · intro hmem
        have hfalse := firstLine_forall separator hmem
        simp at hfalse
      · have hshorter : (behindLine separator stream).length < stream.length := by
          obtain ⟨-, hbehind⟩ | heq := stream_cases separator stream
          · rw [hbehind]
            exact List.length_pos_iff.2 hempty
          · have hcount := congrArg List.length heq
            rw [List.length_append, List.length_cons] at hcount
            omega
        exact ih _ (hlength ▸ hshorter) h rfl

theorem lines_closedLines {pieces : List (List α)} (h : ∀ piece ∈ pieces, separator ∉ piece) :
    lines separator (closedLines separator pieces) = pieces := by
  induction pieces with
  | nil => rfl
  | cons piece pieces ih =>
    obtain ⟨hpiece, hpieces⟩ := List.forall_mem_cons.1 h
    have hne : closedLines separator (piece :: pieces) ≠ [] := by
      rw [closedLines_cons]
      simp
    rw [lines_of_ne_nil hne, closedLines_cons, firstLine_append_cons hpiece, behindLine_append_cons hpiece,
      ih hpieces]

theorem closedLines_lines (separator : α) (stream : List α) :
    closedLines separator (lines separator stream) =
      stream ++ if stream ≠ [] ∧ stream.getLast? ≠ some separator then [separator] else [] := by
  induction hlength : stream.length using Nat.strong_induction_on generalizing stream with
  | _ length ih =>
    by_cases hempty : stream = []
    · rw [hempty]
      rfl
    · rw [lines_of_ne_nil hempty, closedLines_cons]
      obtain ⟨hfirst, hbehind⟩ | heq := stream_cases separator stream
      · -- the only line is not closed
        have hopen : stream.getLast? ≠ some separator := by
          intro hlast
          have hmem : separator ∈ firstLine separator stream := by
            rw [← hfirst]
            exact List.mem_of_getLast? hlast
          have hfalse := firstLine_forall separator hmem
          simp at hfalse
        rw [hbehind, lines_nil, ← hfirst, if_pos ⟨hempty, hopen⟩]
        rfl
      · have hshorter : (behindLine separator stream).length < stream.length := by
          have hcount := congrArg List.length heq
          rw [List.length_append, List.length_cons] at hcount
          omega
        have hrest := ih _ (hlength ▸ hshorter) (behindLine separator stream) rfl
        have hsame : (stream ≠ [] ∧ stream.getLast? ≠ some separator) ↔
            (behindLine separator stream ≠ [] ∧
              (behindLine separator stream).getLast? ≠ some separator) := by
          generalize behindLine separator stream = behind at heq
          rw [heq]
          cases behind with
          | nil => simp
          | cons a behind => simp [List.getLast?_cons]
        rw [hrest, if_congr hsame rfl rfl, ← List.cons_append, ← List.append_assoc, ← heq]

end Collections
