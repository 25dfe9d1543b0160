import Mathlib.Data.List.Nodup
import SchemaDrift.Proofs.Fix.Remedy
import SchemaDrift.Proofs.Issue.Known
import SchemaDrift.Proofs.Monitor.Planning

namespace SchemaDrift

/-- The kinds, tables and columns of the differences that a schema can show. -/
def InferredSchema.subjects (inferred : InferredSchema) :
    List (IssueKind × String × Option String) :=
  (Keyed.values inferred).flatMap fun table =>
    (.missingTable, table.name, none) :: table.columns.values.flatMap fun column =>
      [(.missingColumn, table.name, some column.name), (.typeMismatch, table.name, some column.name),
        (.missingIndex, table.name, some column.name)]

/-- The differences that a schema can show have identities of their own. -/
def InferredSchema.Distinct (inferred : InferredSchema) : Prop :=
  (inferred.subjects.map fun subject => Issue.idOf subject.1 subject.2.1 subject.2.2).Nodup

/-- Two issues are about the same difference. -/
structure Issue.Matches (first second : Issue) : Prop where
  kind : first.kind = second.kind
  table : first.table = second.table
  column : first.column = second.column

variable {rules : DetectionRules} {inferred : InferredSchema}

namespace InferredSchema.MayShow

variable {first second : Issue}

theorem mem_subjects (shown : inferred.MayShow rules first) :
    (first.kind, first.table, first.column) ∈ inferred.subjects := by
  rcases shown with ⟨table, present, _, now, live, difference⟩
  refine List.mem_flatMap.mpr ⟨table, present, ?_⟩
  have listed : ∀ {column : InferredColumn} {subject : IssueKind × String × Option String},
      column ∈ table.columns.values →
      subject ∈ [(.missingColumn, table.name, some column.name),
        (.typeMismatch, table.name, some column.name),
        (.missingIndex, table.name, some column.name)] →
      subject ∈ (IssueKind.missingTable, table.name, none) ::
        table.columns.values.flatMap fun column =>
          [(.missingColumn, table.name, some column.name),
            (.typeMismatch, table.name, some column.name),
            (.missingIndex, table.name, some column.name)] :=
    fun used found => List.mem_cons_of_mem _ (List.mem_flatMap.mpr ⟨_, used, found⟩)
  cases difference with
  | missingTable => exact List.mem_cons_self
  | missingColumn used absent => exact listed used (by simp [Detection.missingColumn, Issue.detected])
  | typeMismatch used there made =>
      rcases Detection.typeMismatch?_some made with ⟨kind, owner, column, _⟩
      rw [kind, owner, column]
      exact listed used (by simp)
  | missingIndex used => exact listed used (by simp [Detection.missingIndex, Issue.detected])

/-- Issues of one identity are about one difference. -/
theorem matches_of_id_eq (distinct : inferred.Distinct) (left : inferred.MayShow rules first)
    (right : inferred.MayShow rules second) (same : first.id = second.id) :
    first.Matches second := by
  rw [left.facts.2.1, right.facts.2.1] at same
  have subjects := List.inj_on_of_nodup_map distinct left.mem_subjects right.mem_subjects same
  rw [Prod.mk.injEq, Prod.mk.injEq] at subjects
  exact ⟨subjects.1, subjects.2.1, subjects.2.2⟩

/-- Issues of one identity have one remedy. -/
theorem remedy?_eq_of_id_eq (consistent : inferred.Consistent) (distinct : inferred.Distinct)
    (left : inferred.MayShow rules first) (right : inferred.MayShow rules second)
    (same : first.id = second.id) (minEvidence : Nat) :
    first.remedy? minEvidence = second.remedy? minEvidence := by
  have subject := left.matches_of_id_eq distinct right same
  exact left.remedy?_eq consistent right subject.kind subject.table subject.column minEvidence

end InferredSchema.MayShow

/-- An issue of a record follows a difference: it is about it, and it is rejected only where the
difference has no remedy. -/
structure Issue.Follows (rules : DetectionRules) (issue fresh : Issue) : Prop where
  subject : issue.Matches fresh
  risk : issue.risk = fresh.risk
  id : issue.id = fresh.id
  rejected : issue.status = .rejected → fresh.remedy? rules.minEvidence = none

/-- A record of issues of which each follows a difference that the schema can show. -/
structure Tracked (rules : DetectionRules) (inferred : InferredSchema) (issues : Keyed Issue) :
    Prop where
  known : KnownIssues issues
  follows : ∀ {id issue}, issues.get? id = some issue →
    ∃ fresh, inferred.MayShow rules fresh ∧ issue.Follows rules fresh

/-- A record has an open issue with the remedy of a difference. -/
def Current (rules : DetectionRules) (issues : Keyed Issue) (fresh : Issue) : Prop :=
  ∃ issue, issues.get? fresh.id = some issue ∧ issue.isOpen = true ∧
    issue.remedy? rules.minEvidence = fresh.remedy? rules.minEvidence

namespace Tracked

variable {issues : Keyed Issue}

/-- Nothing is tracked in a record without issues. -/
theorem nil : Tracked rules inferred [] where
  known := .nil
  follows found := by cases found

/-- A record stays tracked when one issue changes in nothing that matters to its difference. -/
theorem modify (tracked : Tracked rules inferred issues) (id : String) {change : Issue → Issue}
    (keeps : ∀ issue, (change issue).id = issue.id)
    (follows : ∀ {issue fresh}, issue.Follows rules fresh → (change issue).Follows rules fresh) :
    Tracked rules inferred (issues.modify id change) where
  known := tracked.known.modify id keeps
  follows {key issue} found := by
    rw [Keyed.get?_modify] at found
    split at found
    · rcases Option.map_eq_some_iff.mp found with ⟨old, present, rfl⟩
      rcases tracked.follows present with ⟨fresh, shown, before⟩
      exact ⟨fresh, shown, follows before⟩
    · exact tracked.follows found

/-- An issue that is detected again follows what was detected, is open and has its remedy. -/
theorem detectAgain (consistent : inferred.Consistent) (distinct : inferred.Distinct)
    (tracked : Tracked rules inferred issues) {fresh known : Issue}
    (shown : inferred.MayShow rules fresh) (found : issues.get? fresh.id = some known)
    (now : Moment) :
    (known.detectAgain fresh now).Follows rules fresh ∧
      (known.detectAgain fresh now).isOpen = true ∧
      (known.detectAgain fresh now).remedy? rules.minEvidence =
        fresh.remedy? rules.minEvidence := by
  rcases tracked.follows found with ⟨before, earlier, follows⟩
  have id : before.id = fresh.id := follows.id.symm.trans (tracked.known.named found)
  have subject := earlier.matches_of_id_eq distinct shown id
  have remedy := earlier.remedy?_eq_of_id_eq consistent distinct shown id rules.minEvidence
  have risk : before.risk = fresh.risk := by
    rw [earlier.facts.1, shown.facts.1, subject.kind]
  have same : known.Matches fresh := ⟨follows.subject.kind.trans subject.kind,
    follows.subject.table.trans subject.table, follows.subject.column.trans subject.column⟩
  by_cases reopened : known.resolvedAt.isSome || known.status == .applied
  · have form : known.detectAgain fresh now = (known.reopen now).refresh fresh now := by
      rw [Issue.detectAgain, if_pos reopened]
    rw [form]
    refine ⟨⟨⟨same.kind, same.table, same.column⟩, follows.risk.trans risk, follows.id.trans id,
      fun rejected => by cases rejected⟩, rfl, ?_⟩
    have alike : ((known.reopen now).refresh fresh now).Alike fresh :=
      ⟨same.kind, same.table, same.column, follows.risk.trans risk, rfl, rfl, rfl, rfl⟩
    exact alike.remedy?_eq _
  · have form : known.detectAgain fresh now = known.refresh fresh now := by
      rw [Issue.detectAgain, if_neg reopened]
    rw [Bool.or_eq_true, not_or, Bool.not_eq_true, Option.isSome_eq_false_iff, beq_iff_eq]
      at reopened
    rw [form]
    refine ⟨⟨⟨same.kind, same.table, same.column⟩, follows.risk.trans risk, follows.id.trans id,
      fun rejected => remedy ▸ follows.rejected rejected⟩, ?_, ?_⟩
    · simp only [Issue.isOpen, Issue.refresh, reopened.1, Bool.true_and, bne_iff_ne, ne_eq]
      exact reopened.2
    · have alike : (known.refresh fresh now).Alike fresh :=
        ⟨same.kind, same.table, same.column, follows.risk.trans risk, rfl, rfl, rfl, rfl⟩
      exact alike.remedy?_eq _

/-- A record stays tracked when a difference is detected, and is current for it. -/
theorem mergeIssue (consistent : inferred.Consistent) (distinct : inferred.Distinct)
    (tracked : Tracked rules inferred issues) {fresh : Issue}
    (shown : inferred.MayShow rules fresh) (now : Moment) :
    Tracked rules inferred (SchemaDrift.mergeIssue now issues fresh) ∧
      Current rules (SchemaDrift.mergeIssue now issues fresh) fresh := by
  have put : ∀ {issue : Issue}, issue.Follows rules fresh → issue.isOpen = true →
      issue.remedy? rules.minEvidence = fresh.remedy? rules.minEvidence →
      Tracked rules inferred (issues.insert fresh.id issue) ∧
        Current rules (issues.insert fresh.id issue) fresh := by
    intro issue follows isOpen remedy
    refine ⟨⟨follows.id ▸ tracked.known.insert issue, ?_⟩, issue, ?_, isOpen, remedy⟩
    · intro id other found
      rw [Keyed.get?_insert] at found
      split at found
      · cases found
        exact ⟨fresh, shown, follows⟩
      · exact tracked.follows found
    · rw [Keyed.get?_insert, if_pos rfl]
  rcases shown.facts with ⟨_, _, pending, unresolved⟩
  unfold SchemaDrift.mergeIssue
  cases found : issues.get? fresh.id with
  | none =>
      refine put ⟨⟨rfl, rfl, rfl⟩, rfl, rfl, ?_⟩ ?_ rfl
      · intro rejected
        rw [pending] at rejected
        cases rejected
      · rw [Issue.isOpen, pending, unresolved]
        rfl
  | some known =>
      rcases tracked.detectAgain consistent distinct shown found now with ⟨follows, isOpen, remedy⟩
      exact put follows isOpen remedy

/-- A record that is current for a difference stays so when another is detected. -/
theorem current_mergeIssue (consistent : inferred.Consistent) (distinct : inferred.Distinct)
    (tracked : Tracked rules inferred issues) {fresh other : Issue}
    (shown : inferred.MayShow rules fresh) (known : inferred.MayShow rules other) (now : Moment)
    (current : Current rules issues other) :
    Current rules (SchemaDrift.mergeIssue now issues fresh) other := by
  by_cases same : fresh.id = other.id
  · rcases (tracked.mergeIssue consistent distinct shown now).2 with ⟨issue, found, isOpen, remedy⟩
    exact ⟨issue, same ▸ found, isOpen, remedy.trans
      (shown.remedy?_eq_of_id_eq consistent distinct known same rules.minEvidence)⟩
  · rcases current with ⟨issue, found, isOpen, remedy⟩
    refine ⟨issue, ?_, isOpen, remedy⟩
    unfold SchemaDrift.mergeIssue
    split <;> rw [Keyed.get?_insert, if_neg same, found]

/-- After some differences were detected a record is tracked, and current for each of them. -/
theorem mergeAll (consistent : inferred.Consistent) (distinct : inferred.Distinct)
    (tracked : Tracked rules inferred issues) {detected : List Issue}
    (shown : ∀ fresh ∈ detected, inferred.MayShow rules fresh) (now : Moment) :
    Tracked rules inferred (detected.foldl (SchemaDrift.mergeIssue now) issues) ∧
      ∀ fresh, inferred.MayShow rules fresh → fresh ∈ detected ∨ Current rules issues fresh →
        Current rules (detected.foldl (SchemaDrift.mergeIssue now) issues) fresh := by
  induction detected generalizing issues with
  | nil => exact ⟨tracked, fun fresh _ current => current.resolve_left List.not_mem_nil⟩
  | cons head rest inductionHypothesis =>
      have first := shown head List.mem_cons_self
      have step := tracked.mergeIssue consistent distinct first now
      have later := inductionHypothesis step.1 fun fresh present =>
        shown fresh (List.mem_cons_of_mem _ present)
      refine ⟨later.1, fun fresh known current => later.2 fresh known ?_⟩
      rcases current with present | before
      · rcases List.mem_cons.mp present with rfl | listed
        · exact .inr step.2
        · exact .inl listed
      · exact .inr (tracked.current_mergeIssue consistent distinct first known now before)

/-- After a cycle detected some differences the record is tracked and current for each of them, and
every issue that is open is one of them. -/
theorem reconcile (consistent : inferred.Consistent) (distinct : inferred.Distinct)
    (tracked : Tracked rules inferred issues) {detected : List Issue}
    (shown : ∀ fresh ∈ detected, inferred.MayShow rules fresh) (now : Moment) :
    Tracked rules inferred (SchemaDrift.reconcile issues detected now) ∧
      (∀ fresh ∈ detected, Current rules (SchemaDrift.reconcile issues detected now) fresh) ∧
      ∀ {id issue}, (SchemaDrift.reconcile issues detected now).get? id = some issue →
        issue.isOpen = true → ∃ fresh ∈ detected, fresh.id = id := by
  have merged := tracked.mergeAll consistent distinct shown now
  have found : ∀ {id issue}, (SchemaDrift.reconcile issues detected now).get? id = some issue →
      ∃ before, (detected.foldl (SchemaDrift.mergeIssue now) issues).get? id = some before ∧
        issue = if detected.any fun fresh => fresh.id == before.id then before
          else before.resolve now := by
    intro id issue present
    rw [SchemaDrift.reconcile, Keyed.get?_mapValues] at present
    rcases Option.map_eq_some_iff.mp present with ⟨before, known, same⟩
    exact ⟨before, known, same.symm⟩
  refine ⟨⟨tracked.known.reconcile detected now, ?_⟩, ?_, ?_⟩
  · intro id issue present
    rcases found present with ⟨before, known, rfl⟩
    rcases merged.1.follows known with ⟨fresh, possible, follows⟩
    refine ⟨fresh, possible, ?_⟩
    split
    · exact follows
    · unfold Issue.resolve
      split
      · exact ⟨⟨follows.subject.kind, follows.subject.table, follows.subject.column⟩, follows.risk,
          follows.id, follows.rejected⟩
      · exact follows
  · intro fresh present
    rcases merged.2 fresh (shown fresh present) (.inl present) with ⟨issue, known, isOpen, remedy⟩
    refine ⟨issue, ?_, isOpen, remedy⟩
    have named := merged.1.known.named known
    have listed : (detected.any fun other => other.id == issue.id) = true :=
      List.any_eq_true.mpr ⟨fresh, present, by rw [named, beq_self_eq_true]⟩
    rw [SchemaDrift.reconcile, Keyed.get?_mapValues, known, Option.map_some, if_pos listed]
  · intro id issue present isOpen
    rcases found present with ⟨before, known, rfl⟩
    by_cases listed : (detected.any fun fresh => fresh.id == before.id) = true
    · rcases List.any_eq_true.mp listed with ⟨fresh, known', same⟩
      exact ⟨fresh, known', (eq_of_beq same).trans (merged.1.known.named known)⟩
    · rw [if_neg listed, Issue.resolve] at isOpen
      split at isOpen
      · cases isOpen
      · rename_i resolved
        rw [Issue.isOpen, Bool.and_eq_true] at isOpen
        exact absurd isOpen.1 resolved

end Tracked

namespace Planning

variable {minEvidence : Nat} {now : Moment}

/-- A cycle applies the remedy of an issue that is open and not rejected. -/
theorem automaticFix?_eq_some_iff (issue : Issue) (fix : Fix) :
    automaticFix? minEvidence true now issue = some fix ↔
      issue.isOpen = true ∧ issue.status ≠ .rejected ∧ ∃ statement,
        issue.remedy? minEvidence = some statement ∧
          fix = Fix.ofStatement issue statement now := by
  have proposed : ∀ plan, proposal? minEvidence now issue = some plan ↔
      issue.isOpen = true ∧ issue.status ≠ .rejected ∧
        Plan.ofIssue minEvidence issue .automatic now = plan := by
    intro plan
    unfold proposal?
    cases issue.isOpen <;> by_cases rejected : issue.status = .rejected <;> simp [rejected]
  constructor
  · intro applied
    unfold automaticFix? at applied
    split at applied
    · rename_i validated plan
      rcases (proposed _).mp plan with ⟨isOpen, kept, ready⟩
      rcases Issue.remedy?_of_ready ready with ⟨statement, remedy, rfl⟩
      cases applied
      exact ⟨isOpen, kept, statement, remedy, rfl⟩
    · cases applied
  · rintro ⟨isOpen, kept, statement, remedy, rfl⟩
    have plan := (proposed _).mpr ⟨isOpen, kept, Issue.ready_of_remedy? remedy now⟩
    simp [automaticFix?, plan]

theorem remedy?_of_reviewed {issue : Issue}
    (changed : reviewed minEvidence now issue ≠ issue) : issue.remedy? minEvidence = none := by
  rw [Option.eq_none_iff_forall_ne_some]
  intro statement remedy
  refine changed ?_
  have ready := Issue.ready_of_remedy? remedy now
  unfold reviewed proposal?
  rw [ready]
  split
  · rename_i plan
    split at plan <;> cases plan
  · rfl

end Planning

/-- A record stays tracked when its issues are planned. -/
theorem Tracked.reviewed (consistent : inferred.Consistent) (distinct : inferred.Distinct)
    {issues : Keyed Issue} (tracked : Tracked rules inferred issues) (now : Moment)
    (current : ∀ {id issue}, issues.get? id = some issue → issue.isOpen = true →
      ∃ fresh, inferred.MayShow rules fresh ∧ fresh.id = id ∧
        issue.remedy? rules.minEvidence = fresh.remedy? rules.minEvidence) :
    Tracked rules inferred (issues.mapValues (Planning.reviewed rules.minEvidence now)) where
  known := tracked.known.mapValues (Planning.reviewed_id rules.minEvidence now)
  follows {id issue} found := by
    rw [Keyed.get?_mapValues] at found
    rcases Option.map_eq_some_iff.mp found with ⟨before, known, rfl⟩
    rcases tracked.follows known with ⟨fresh, shown, follows⟩
    by_cases changed : Planning.reviewed rules.minEvidence now before = before
    · rw [changed]
      exact ⟨fresh, shown, follows⟩
    · have unhelped := Planning.remedy?_of_reviewed changed
      have isOpen : before.isOpen = true := by
        by_contra closed
        rw [Bool.not_eq_true] at closed
        exact changed (by simp [Planning.reviewed, Planning.proposal?, closed])
      rcases current known isOpen with ⟨other, possible, named, remedy⟩
      have id : other.id = fresh.id :=
        named.trans ((tracked.known.named known).symm.trans follows.id)
      have none : fresh.remedy? rules.minEvidence = none := by
        rw [← possible.remedy?_eq_of_id_eq consistent distinct shown id, ← remedy, unhelped]
      refine ⟨fresh, shown, ?_⟩
      unfold Planning.reviewed
      split
      · exact ⟨⟨follows.subject.kind, follows.subject.table, follows.subject.column⟩, follows.risk,
          follows.id, fun _ => none⟩
      · exact follows

end SchemaDrift
