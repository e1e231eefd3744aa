import DeltaFunnel.SqlServer.ReplaceNames

/-! When the auxiliary names of a replace are private to it. A target name of 128 characters that
ends in a suffix of the replace is one of its own auxiliary names. -/

namespace DeltaFunnel

/-- `char::is_control`. -/
def isControl (c : Char) : Bool := c.toNat < 0x20 ∨ 0x7f ≤ c.toNat ∧ c.toNat ≤ 0x9f

structure AcceptedIdentifier (text : String) : Prop where
  nonempty : text.toList ≠ []
  length : text.toList.length ≤ maxIdentifierChars
  printable : ∀ c ∈ text.toList, isControl c = false

/-- The driver accepts the identifiers that it documents. -/
class IdentifierRules [ArrowSqlServer] : Prop where
  accepts_iff : ∀ text, ArrowSqlServer.validateIdentifier text = .ok () ↔ AcceptedIdentifier text

theorem toString_digits (attempt : ℕ) : ∀ c ∈ (toString attempt).toList, c.isDigit = true := by
  intro c hc
  rw [Nat.toString_eq_ofList_toDigits, String.toList_ofList] at hc
  exact Nat.isDigit_of_mem_toDigits (by omega) (by omega) hc

theorem toString_injective {attempt other : ℕ}
    (h : (toString attempt).toList = (toString other).toList) : attempt = other := by
  rw [Nat.toString_eq_ofList_toDigits, Nat.toString_eq_ofList_toDigits, String.toList_ofList,
    String.toList_ofList] at h
  have hread := congrArg (fun digits => Nat.ofDigitChars 10 digits 0) h
  simpa only [Nat.ofDigitChars_ten_toDigits] using hread

theorem toString_length {attempt : ℕ} (h : attempt < 100) :
    (toString attempt).toList.length ≤ 2 := by
  rw [Nat.toString_eq_ofList_toDigits, String.toList_ofList]
  exact (Nat.length_toDigits_le_iff (by decide) (by decide)).2 h

theorem isControl_of_isDigit {c : Char} (h : c.isDigit = true) : isControl c = false := by
  have hrange : 48 ≤ c.toNat ∧ c.toNat ≤ 57 := by
    rw [Char.isDigit, Bool.and_eq_true, decide_eq_true_iff, decide_eq_true_iff] at h
    exact ⟨UInt32.le_iff_toNat_le.1 h.1, UInt32.le_iff_toNat_le.1 h.2⟩
  rw [isControl, decide_eq_false_iff_not]
  omega

/-- The fixed part of a suffix: short, and apart from the digits after it. -/
structure SuffixTag (tag : String) : Prop where
  length : tag.toList.length ≤ 13
  printable : ∀ c ∈ tag.toList, isControl c = false
  last : ∃ front last, tag.toList = front ++ [last] ∧ last.isDigit = false

theorem stagingTag : SuffixTag "__df_replace_" :=
  ⟨by decide, by decide, "__df_replace".toList, '_', by decide, by decide⟩

theorem backupTag : SuffixTag "__df_backup_" :=
  ⟨by decide, by decide, "__df_backup".toList, '_', by decide, by decide⟩

theorem SuffixTag.suffix_length {tag : String} (htag : SuffixTag tag) {attempt : ℕ}
    (hattempt : attempt < 100) : (tag ++ toString attempt).toList.length ≤ 15 := by
  have hdigits := toString_length hattempt
  have hlength := htag.length
  rw [String.toList_append, List.length_append]
  omega

theorem SuffixTag.suffix_ne_nil {tag : String} (htag : SuffixTag tag) (attempt : ℕ) :
    (tag ++ toString attempt).toList ≠ [] := by
  obtain ⟨front, last, hlast, -⟩ := htag.last
  rw [String.toList_append, hlast]
  simp

theorem SuffixTag.suffix_printable {tag : String} (htag : SuffixTag tag) (attempt : ℕ) :
    ∀ c ∈ (tag ++ toString attempt).toList, isControl c = false := by
  intro c hc
  rw [String.toList_append, List.mem_append] at hc
  rcases hc with hc | hc
  · exact htag.printable c hc
  · exact isControl_of_isDigit (toString_digits attempt c hc)

theorem SuffixTag.trailing_digits {tag : String} (htag : SuffixTag tag) (base : List Char)
    (attempt : ℕ) :
    (base ++ (tag ++ toString attempt).toList).reverse.takeWhile Char.isDigit =
      (toString attempt).toList.reverse := by
  obtain ⟨front, last, hlast, hdigit⟩ := htag.last
  have hdigits : ∀ c ∈ (toString attempt).toList.reverse, c.isDigit = true := by
    intro c hc
    exact toString_digits attempt c (List.mem_reverse.1 hc)
  rw [String.toList_append, List.reverse_append, List.reverse_append, hlast, List.append_assoc,
    List.takeWhile_append_of_pos hdigits]
  simp [hdigit]

/-- The characters of an auxiliary name for the table `table`. -/
def auxiliaryChars (table : List Char) (suffix : List Char) : List Char :=
  table.take (maxIdentifierChars - suffix.length) ++ suffix

theorem accepted_auxiliary {table tag : String} (htable : AcceptedIdentifier table)
    (htag : SuffixTag tag) {attempt : ℕ} (hattempt : attempt < 100) :
    AcceptedIdentifier
      (String.ofList (auxiliaryChars table.toList (tag ++ toString attempt).toList)) := by
  have hshort := htag.suffix_length hattempt
  refine ⟨?_, ?_, ?_⟩
  · rw [String.toList_ofList, auxiliaryChars]
    exact List.append_ne_nil_of_right_ne_nil _ (htag.suffix_ne_nil attempt)
  · rw [String.toList_ofList, auxiliaryChars, List.length_append, List.length_take,
      maxIdentifierChars]
    omega
  · intro c hc
    rw [String.toList_ofList, auxiliaryChars, List.mem_append] at hc
    rcases hc with hc | hc
    · exact htable.printable c (List.mem_of_mem_take hc)
    · exact htag.suffix_printable attempt c hc

/-- An auxiliary name is the target's own name when that fills the limit and ends in the suffix. -/
theorem auxiliaryChars_eq_self {table suffix : List Char} (hlength : table.length ≤ maxIdentifierChars)
    (hsuffix : suffix ≠ []) (hshort : suffix.length ≤ maxIdentifierChars) :
    auxiliaryChars table suffix = table ↔ table.length = maxIdentifierChars ∧ suffix <:+ table := by
  have hpos : 0 < suffix.length := List.length_pos_iff.2 hsuffix
  unfold auxiliaryChars
  constructor
  · intro heq
    have hcount := congrArg List.length heq
    rw [List.length_append, List.length_take] at hcount
    exact ⟨by omega, _, heq⟩
  · rintro ⟨hfull, base, rfl⟩
    rw [List.length_append] at hfull
    rw [← hfull, Nat.add_sub_cancel, List.take_left']
    rfl

section Names
variable [ArrowSqlServer]

theorem ofParts_eq_ok_iff [IdentifierRules] {schema : Option String} {table : String} :
    TableName.ofParts schema table = .ok ⟨schema, table⟩ ↔
      (∀ name ∈ schema, AcceptedIdentifier name) ∧ AcceptedIdentifier table := by
  have htable := IdentifierRules.accepts_iff table
  cases schema with
  | none =>
    show (ArrowSqlServer.validateIdentifier table >>= fun _ => _) = _ ↔ _
    rw [except_bind_eq_ok, ← htable]
    constructor
    · rintro ⟨⟨⟩, h, -⟩
      refine ⟨fun name hname => ?_, h⟩
      cases hname
    · rintro ⟨-, h⟩
      exact ⟨(), h, rfl⟩
  | some name =>
    have hschema := IdentifierRules.accepts_iff name
    show (ArrowSqlServer.validateIdentifier name >>= fun _ =>
      ArrowSqlServer.validateIdentifier table >>= fun _ => _) = _ ↔ _
    rw [except_bind_eq_ok, ← htable]
    constructor
    · rintro ⟨⟨⟩, hname, h⟩
      obtain ⟨⟨⟩, h, -⟩ := except_bind_eq_ok.1 h
      refine ⟨fun other hother => ?_, h⟩
      obtain rfl := Option.some.inj hother
      exact hschema.1 hname
    · rintro ⟨hname, h⟩
      exact ⟨(), hschema.2 (hname name rfl), except_bind_eq_ok.2 ⟨(), h, rfl⟩⟩

theorem accepted_of_replace [IdentifierRules] {plan : MssqlTargetOutputPlan}
    (hmode : plan.loadMode = .replace) :
    (∀ name ∈ plan.targetTable.schema, AcceptedIdentifier name) ∧
      AcceptedIdentifier plan.targetTable.table := by
  have hddl := plan.ddl_planned
  have hreplace : plan.schemaPlan.target.loadMode = .replace := hmode
  simp only [planMssqlCreateTableDdl, hreplace] at hddl
  split at hddl
  · cases hddl
  split at hddl
  · cases hddl
  · next table htable =>
    unfold tableNameFromTarget at htable
    split at htable
    · next name hname =>
      rw [TableName.ofParts_eq_ok hname] at hname
      exact ofParts_eq_ok_iff.1 hname
    · cases htable

theorem replaceAuxiliaryTableName_ok [IdentifierRules] {plan : MssqlTargetOutputPlan}
    (hmode : plan.loadMode = .replace) {tag : String} (htag : SuffixTag tag) {attempt : ℕ}
    (hattempt : attempt < 100) :
    replaceAuxiliaryTableName plan (tag ++ toString attempt) =
      .ok ⟨plan.targetTable.schema, String.ofList
        (auxiliaryChars plan.targetTable.table.toList (tag ++ toString attempt).toList)⟩ := by
  obtain ⟨hschema, htable⟩ := accepted_of_replace hmode
  have htext : String.ofList (plan.targetTable.table.toList.take
      (maxIdentifierChars - (tag ++ toString attempt).toList.length)) ++ (tag ++ toString attempt) =
      String.ofList
        (auxiliaryChars plan.targetTable.table.toList (tag ++ toString attempt).toList) := by
    apply String.toList_injective
    rw [String.toList_append, String.toList_ofList, String.toList_ofList, auxiliaryChars]
  unfold replaceAuxiliaryTableName
  dsimp only
  rw [htext, ofParts_eq_ok_iff.2 ⟨hschema, accepted_auxiliary htable htag hattempt⟩]

/-- Staging and backup names of a replace are accepted names, of different kinds and attempts never
the same, and none of them is the target's. -/
structure PrivateAuxiliaryNames (plan : MssqlTargetOutputPlan) : Prop where
  produced : ∀ attempt < 100, (∃ name, replaceStagingTableName plan attempt = .ok name) ∧
    ∃ name, replaceBackupTableName plan attempt = .ok name
  length : ∀ attempt < 100, ∀ name, replaceStagingTableName plan attempt = .ok name ∨
    replaceBackupTableName plan attempt = .ok name → name.table.toList.length ≤ 128
  kinds : ∀ attempt < 100, ∀ other < 100, ∀ staging backup,
    replaceStagingTableName plan attempt = .ok staging →
    replaceBackupTableName plan other = .ok backup → staging.table ≠ backup.table
  target : ∀ attempt < 100, ∀ name, replaceStagingTableName plan attempt = .ok name ∨
    replaceBackupTableName plan attempt = .ok name → name.table ≠ plan.finalTableName.table
  stagings : ∀ attempt < 100, ∀ other < 100, attempt ≠ other → ∀ name name',
    replaceStagingTableName plan attempt = .ok name →
    replaceStagingTableName plan other = .ok name' → name.table ≠ name'.table
  backups : ∀ attempt < 100, ∀ other < 100, attempt ≠ other → ∀ name name',
    replaceBackupTableName plan attempt = .ok name →
    replaceBackupTableName plan other = .ok name' → name.table ≠ name'.table

variable [IdentifierRules] {plan : MssqlTargetOutputPlan}

theorem auxiliary_table (hmode : plan.loadMode = .replace) {tag : String} (htag : SuffixTag tag)
    {attempt : ℕ} (hattempt : attempt < 100) {name : TableName}
    (h : replaceAuxiliaryTableName plan (tag ++ toString attempt) = .ok name) :
    name.table.toList =
      auxiliaryChars plan.targetTable.table.toList (tag ++ toString attempt).toList := by
  rw [replaceAuxiliaryTableName_ok hmode htag hattempt] at h
  rw [← Except.ok.inj h, String.toList_ofList]

theorem auxiliary_length (hmode : plan.loadMode = .replace) {tag : String} (htag : SuffixTag tag)
    {attempt : ℕ} (hattempt : attempt < 100) {name : TableName}
    (h : replaceAuxiliaryTableName plan (tag ++ toString attempt) = .ok name) :
    name.table.toList.length ≤ 128 := by
  have haccepted := accepted_auxiliary (accepted_of_replace hmode).2 htag hattempt
  have hlength := haccepted.length
  rwa [String.toList_ofList, ← auxiliary_table hmode htag hattempt h] at hlength

theorem auxiliary_attempts (hmode : plan.loadMode = .replace) {tag : String} (htag : SuffixTag tag)
    {attempt other : ℕ} (hattempt : attempt < 100) (hother : other < 100) (hne : attempt ≠ other)
    {name name' : TableName}
    (h : replaceAuxiliaryTableName plan (tag ++ toString attempt) = .ok name)
    (h' : replaceAuxiliaryTableName plan (tag ++ toString other) = .ok name') :
    name.table ≠ name'.table := by
  intro heq
  have hlists := congrArg (fun table => table.toList.reverse.takeWhile Char.isDigit) heq
  rw [auxiliary_table hmode htag hattempt h, auxiliary_table hmode htag hother h', auxiliaryChars,
    auxiliaryChars, htag.trailing_digits, htag.trailing_digits, List.reverse_inj] at hlists
  exact hne (toString_injective hlists)

theorem auxiliary_eq_target_iff (hmode : plan.loadMode = .replace) {tag : String}
    (htag : SuffixTag tag) {attempt : ℕ} (hattempt : attempt < 100) {name : TableName}
    (h : replaceAuxiliaryTableName plan (tag ++ toString attempt) = .ok name) :
    name.table = plan.finalTableName.table ↔
      plan.finalTableName.table.toList.length = 128 ∧
        (tag ++ toString attempt).toList <:+ plan.finalTableName.table.toList := by
  have hshort := htag.suffix_length hattempt
  have hself := auxiliaryChars_eq_self (accepted_of_replace hmode).2.length
    (htag.suffix_ne_nil attempt) (hshort.trans (by decide))
  rw [← String.toList_inj, auxiliary_table hmode htag hattempt h]
  exact hself

theorem auxiliary_kinds (hmode : plan.loadMode = .replace) {attempt other : ℕ}
    (hattempt : attempt < 100) (hother : other < 100) {staging backup : TableName}
    (h : replaceStagingTableName plan attempt = .ok staging)
    (h' : replaceBackupTableName plan other = .ok backup) : staging.table ≠ backup.table := by
  have hne : staging ≠ backup :=
    IsStagingName.ne_backup ⟨attempt, hattempt, h⟩ ⟨other, hother, h'⟩
  have hstaging := replaceAuxiliaryTableName_ok hmode stagingTag hattempt
  have hbackup := replaceAuxiliaryTableName_ok hmode backupTag hother
  rw [show replaceAuxiliaryTableName plan ("__df_replace_" ++ toString attempt) = .ok staging
    from h] at hstaging
  rw [show replaceAuxiliaryTableName plan ("__df_backup_" ++ toString other) = .ok backup
    from h'] at hbackup
  obtain rfl := Except.ok.inj hstaging
  obtain rfl := Except.ok.inj hbackup
  exact fun heq => hne (congrArg (TableName.mk plan.targetTable.schema) heq)

/-- The target's name is itself one of the auxiliary names of its replace. -/
def TargetIsAuxiliary (table : String) : Prop :=
  table.toList.length = 128 ∧ ∃ attempt < 100,
    ("__df_replace_" ++ toString attempt).toList <:+ table.toList ∨
      ("__df_backup_" ++ toString attempt).toList <:+ table.toList

/-- The auxiliary names of a replace are private exactly when the target's name does not fill the
limit with a suffix of theirs at its end. -/
theorem privateAuxiliaryNames_iff {plan : MssqlTargetOutputPlan}
    (hmode : plan.loadMode = .replace) :
    PrivateAuxiliaryNames plan ↔ ¬TargetIsAuxiliary plan.finalTableName.table := by
  constructor
  · rintro hprivate ⟨hlength, attempt, hattempt, hsuffix⟩
    obtain ⟨⟨staging, hstaging⟩, backup, hbackup⟩ := hprivate.produced attempt hattempt
    -- the attempt whose suffix the target ends in yields the target itself
    rcases hsuffix with hsuffix | hsuffix
    · exact hprivate.target attempt hattempt staging (.inl hstaging)
        ((auxiliary_eq_target_iff hmode stagingTag hattempt hstaging).2 ⟨hlength, hsuffix⟩)
    · exact hprivate.target attempt hattempt backup (.inr hbackup)
        ((auxiliary_eq_target_iff hmode backupTag hattempt hbackup).2 ⟨hlength, hsuffix⟩)
  · intro htarget
    refine ⟨?_, ?_, ?_, ?_, ?_, ?_⟩
    · intro attempt hattempt
      exact ⟨⟨_, replaceAuxiliaryTableName_ok hmode stagingTag hattempt⟩,
        _, replaceAuxiliaryTableName_ok hmode backupTag hattempt⟩
    · rintro attempt hattempt name (h | h)
      · exact auxiliary_length hmode stagingTag hattempt h
      · exact auxiliary_length hmode backupTag hattempt h
    · exact fun attempt hattempt other hother staging backup h h' =>
        auxiliary_kinds hmode hattempt hother h h'
    · rintro attempt hattempt name (h | h) heq
      · obtain ⟨hlength, hsuffix⟩ := (auxiliary_eq_target_iff hmode stagingTag hattempt h).1 heq
        exact htarget ⟨hlength, attempt, hattempt, .inl hsuffix⟩
      · obtain ⟨hlength, hsuffix⟩ := (auxiliary_eq_target_iff hmode backupTag hattempt h).1 heq
        exact htarget ⟨hlength, attempt, hattempt, .inr hsuffix⟩
    · exact fun attempt hattempt other hother hne name name' h h' =>
        auxiliary_attempts hmode stagingTag hattempt hother hne h h'
    · exact fun attempt hattempt other hother hne name name' h h' =>
        auxiliary_attempts hmode backupTag hattempt hother hne h h'

end Names

instance (text : String) : Decidable (AcceptedIdentifier text) :=
  decidable_of_iff (text.toList ≠ [] ∧ text.toList.length ≤ maxIdentifierChars ∧
    ∀ c ∈ text.toList, isControl c = false)
    ⟨fun h => ⟨h.1, h.2.1, h.2.2⟩, fun h => ⟨h.nonempty, h.length, h.printable⟩⟩

@[reducible] def documentedDriver : ArrowSqlServer :=
  ⟨fun text => if AcceptedIdentifier text then .ok ()
    else .error ⟨.other, "invalid identifier", none, "invalid identifier", "Identifier", []⟩⟩

theorem documentedDriver_rules : @IdentifierRules documentedDriver := by
  let _ := documentedDriver
  constructor
  intro text
  show (if AcceptedIdentifier text then Except.ok () else _) = _ ↔ _
  split
  · next h => exact iff_of_true rfl h
  · next h => exact iff_of_false (fun hok => by cases hok) h

def replaceSchemaPlan (table : String) : MssqlSchemaPlan :=
  { target :=
      { outputName := "orders_output"
        table := ⟨none, table⟩
        loadMode := .replace
        connectionSource := .contextDefault
        connection := ⟨none⟩ }
    mappings := [⟨0, "order_id", "Int64", false, "bigint"⟩] }

def replacePlanFor (table : String) (h : AcceptedIdentifier table) :
    @MssqlTargetOutputPlan documentedDriver :=
  letI := documentedDriver
  { schemaPlan := replaceSchemaPlan table
    ddlPlan := ⟨(replaceSchemaPlan table).target, true, none⟩
    lifecyclePlan :=
      ⟨(replaceSchemaPlan table).target, .existsOrAbsent, true, true, true,
        .allowedAfterPlanning, replaceExecutionGuardrails⟩
    ddl_planned := by
      have := documentedDriver_rules
      have hname : TableName.ofParts none table = .ok ⟨none, table⟩ :=
        ofParts_eq_ok_iff.2 ⟨fun name hname => (by cases hname), h⟩
      show (match tableNameFromTarget "orders_output" ⟨none, table⟩ with
        | .error error => Except.error error
        | .ok _ => _) = _
      rw [tableNameFromTarget, hname]
    lifecycle_planned := by
      have hmatch : ensureMatchingTarget (replaceSchemaPlan table).target
          (replaceSchemaPlan table).target = .ok () := by simp [ensureMatchingTarget]
      show (ensureMatchingTarget (replaceSchemaPlan table).target
        (replaceSchemaPlan table).target >>= fun _ => _) = _
      rw [hmatch]
      rfl }

theorem orders_accepted : AcceptedIdentifier "orders" := by decide

theorem orders_names_private :
    letI := documentedDriver
    PrivateAuxiliaryNames (replacePlanFor "orders" orders_accepted) := by
  let _ := documentedDriver
  have := documentedDriver_rules
  refine (privateAuxiliaryNames_iff (rfl : (replacePlanFor "orders" orders_accepted).loadMode = _)).2 ?_
  rintro ⟨hlength, -⟩
  exact absurd hlength (by decide : ¬"orders".toList.length = 128)

/-- A hundred and fourteen letters, and the first staging suffix. -/
@[irreducible] def crowdedName : String :=
  String.ofList (List.replicate 114 'a' ++ ("__df_replace_" ++ toString 0).toList)

theorem crowdedName_toList :
    crowdedName.toList = List.replicate 114 'a' ++ ("__df_replace_" ++ toString 0).toList := by
  unfold crowdedName
  exact String.toList_ofList

theorem crowdedName_length : crowdedName.toList.length = 128 := by
  have hsuffix : ("__df_replace_" ++ toString 0).toList.length = 14 := by
    rw [String.toList_append, List.length_append]
    decide
  rw [crowdedName_toList, List.length_append, List.length_replicate, hsuffix]

theorem crowdedName_accepted : AcceptedIdentifier crowdedName := by
  refine ⟨?_, crowdedName_length.le, ?_⟩
  · rw [crowdedName_toList]
    exact List.append_ne_nil_of_right_ne_nil _ (stagingTag.suffix_ne_nil 0)
  · intro c hc
    rw [crowdedName_toList, List.mem_append] at hc
    rcases hc with hc | hc
    · rw [List.eq_of_mem_replicate hc]
      decide
    · exact stagingTag.suffix_printable 0 c hc

theorem crowded_name_is_staging_name :
    letI := documentedDriver
    ¬PrivateAuxiliaryNames (replacePlanFor crowdedName crowdedName_accepted) := by
  let _ := documentedDriver
  have := documentedDriver_rules
  intro hprivate
  have hmode : (replacePlanFor crowdedName crowdedName_accepted).loadMode = .replace := rfl
  have hname := replaceAuxiliaryTableName_ok hmode stagingTag (Nat.succ_pos 99)
  have hsuffix : ("__df_replace_" ++ toString 0).toList <:+ crowdedName.toList := by
    rw [crowdedName_toList]
    exact List.suffix_append _ _
  exact hprivate.target 0 (Nat.succ_pos 99) _ (.inl hname)
    ((auxiliary_eq_target_iff hmode stagingTag (Nat.succ_pos 99) hname).2
      ⟨crowdedName_length, hsuffix⟩)

end DeltaFunnel
