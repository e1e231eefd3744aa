import DeltaFunnel.SqlServer.LifecycleTrace

/-! The private names of a replace: staging and backup names never collide with each other,
and not with a target name of fewer than 128 characters. -/

namespace DeltaFunnel
variable [ArrowSqlServer]

/-- A name the replace of `plan` may choose for its staging table. -/
def IsStagingName (plan : MssqlTargetOutputPlan) (name : TableName) : Prop :=
  ∃ attempt < 100, replaceStagingTableName plan attempt = .ok name

def IsBackupName (plan : MssqlTargetOutputPlan) (name : TableName) : Prop :=
  ∃ attempt < 100, replaceBackupTableName plan attempt = .ok name

theorem replaceAuxiliaryTableName_eq_ok {plan : MssqlTargetOutputPlan} {suffix : String}
    {name : TableName} (h : replaceAuxiliaryTableName plan suffix = .ok name) :
    name.table.toList = plan.targetTable.table.toList.take
      (maxIdentifierChars - suffix.toList.length) ++ suffix.toList := by
  unfold replaceAuxiliaryTableName at h
  dsimp only at h
  split at h
  · next heq =>
    cases h
    rw [TableName.ofParts_eq_ok heq, String.toList_append, String.toList_ofList]
  · cases h

theorem auxiliary_ne_final {plan : MssqlTargetOutputPlan} {suffix : String} {name : TableName}
    (h : replaceAuxiliaryTableName plan suffix = .ok name) (hsuffix : 0 < suffix.toList.length)
    (hlength : plan.finalTableName.table.toList.length ≤ 127) : name ≠ plan.finalTableName := by
  intro heq
  have htable := replaceAuxiliaryTableName_eq_ok h
  have hsame : name.table.toList.length = plan.targetTable.table.toList.length := by
    rw [heq]
    rfl
  have hbound : plan.targetTable.table.toList.length ≤ 127 := hlength
  rw [htable, List.length_append, List.length_take, maxIdentifierChars] at hsame
  omega

theorem IsStagingName.ne_final {plan : MssqlTargetOutputPlan} {name : TableName}
    (h : IsStagingName plan name) (hlength : plan.finalTableName.table.toList.length ≤ 127) :
    name ≠ plan.finalTableName := by
  obtain ⟨attempt, -, hname⟩ := h
  refine auxiliary_ne_final hname ?_ hlength
  rw [String.toList_append, List.length_append]
  exact Nat.lt_of_lt_of_le (by decide : 0 < "__df_replace_".toList.length) (Nat.le_add_right _ _)

theorem IsBackupName.ne_final {plan : MssqlTargetOutputPlan} {name : TableName}
    (h : IsBackupName plan name) (hlength : plan.finalTableName.table.toList.length ≤ 127) :
    name ≠ plan.finalTableName := by
  obtain ⟨attempt, -, hname⟩ := h
  refine auxiliary_ne_final hname ?_ hlength
  rw [String.toList_append, List.length_append]
  exact Nat.lt_of_lt_of_le (by decide : 0 < "__df_backup_".toList.length) (Nat.le_add_right _ _)

/-- A name read backwards from the end of its trailing digits. -/
def stem (name : TableName) : List Char := name.table.toList.reverse.dropWhile Char.isDigit

theorem stem_auxiliary {plan : MssqlTargetOutputPlan} {tag : String} {attempt : ℕ}
    {name : TableName}
    (h : replaceAuxiliaryTableName plan (tag ++ toString attempt) = .ok name) :
    ∃ rest, stem name = (tag.toList.reverse ++ rest).dropWhile Char.isDigit := by
  have hdigits : ∀ c ∈ (toString attempt).toList.reverse, c.isDigit := by
    intro c hc
    rw [List.mem_reverse, Nat.toString_eq_ofList_toDigits, String.toList_ofList] at hc
    exact Nat.isDigit_of_mem_toDigits (by omega) (by omega) hc
  refine ⟨(plan.targetTable.table.toList.take (maxIdentifierChars -
    (tag ++ toString attempt).toList.length)).reverse, ?_⟩
  rw [stem, replaceAuxiliaryTableName_eq_ok h, List.reverse_append, String.toList_append,
    List.reverse_append, List.append_assoc,
    List.dropWhile_append_of_pos hdigits]

theorem IsStagingName.ne_backup {plan plan' : MssqlTargetOutputPlan} {name backup : TableName}
    (h : IsStagingName plan name) (hbackup : IsBackupName plan' backup) : name ≠ backup := by
  rintro rfl
  obtain ⟨attempt, -, hname⟩ := h
  obtain ⟨attempt', -, hname'⟩ := hbackup
  obtain ⟨rest, hstem⟩ := stem_auxiliary hname
  obtain ⟨rest', hstem'⟩ := stem_auxiliary hname'
  have hreplace : "__df_replace_".toList.reverse = '_' :: 'e' :: "__df_replac".toList.reverse := by
    decide
  have hbackup : "__df_backup_".toList.reverse = '_' :: 'p' :: "__df_backu".toList.reverse := by
    decide
  have hunderscore : ('_').isDigit = false := by decide
  -- After the digits both read an underscore, and then `e` against `p`.
  rw [hstem, hreplace, hbackup] at hstem'
  simp [hunderscore] at hstem'

end DeltaFunnel
