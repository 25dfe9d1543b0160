import SchemaDrift.Issue.Reconciliation
import SchemaDrift.Proofs.Keyed

namespace SchemaDrift

/-- A record of issues in order, each under its own identity. -/
structure KnownIssues (issues : Keyed Issue) : Prop where
  ordered : issues.Ordered
  named : ∀ {id issue}, issues.get? id = some issue → issue.id = id

namespace KnownIssues

variable {issues : Keyed Issue}

theorem nil : KnownIssues [] where
  ordered := Keyed.ordered_nil
  named found := by cases found

/-- An issue of the record is found under its identity. -/
theorem get?_id (known : KnownIssues issues) {issue : Issue} (present : issue ∈ issues.values) :
    issues.get? issue.id = some issue := by
  rcases Keyed.exists_get?_of_mem_values known.ordered present with ⟨id, found⟩
  rw [known.named found]
  exact found

/-- An issue may be put under its own identity. -/
theorem insert (known : KnownIssues issues) (issue : Issue) :
    KnownIssues (issues.insert issue.id issue) where
  ordered := Keyed.ordered_insert known.ordered _ _
  named {id other} found := by
    rw [Keyed.get?_insert] at found
    split at found
    · rename_i same
      cases found
      exact same
    · exact known.named found

/-- An issue may be changed in all but its identity. -/
theorem modify (known : KnownIssues issues) (id : String) {change : Issue → Issue}
    (keeps : ∀ issue, (change issue).id = issue.id) : KnownIssues (issues.modify id change) where
  ordered := Keyed.ordered_modify known.ordered _ _
  named {key issue} found := by
    rw [Keyed.get?_modify] at found
    split at found
    · rcases Option.map_eq_some_iff.mp found with ⟨old, present, rfl⟩
      rw [keeps, known.named present]
    · exact known.named found

/-- All issues may be changed in all but their identities. -/
theorem mapValues (known : KnownIssues issues) {change : Issue → Issue}
    (keeps : ∀ issue, (change issue).id = issue.id) : KnownIssues (issues.mapValues change) where
  ordered := Keyed.ordered_mapValues known.ordered _
  named {key issue} found := by
    rw [Keyed.get?_mapValues] at found
    rcases Option.map_eq_some_iff.mp found with ⟨old, present, rfl⟩
    rw [keeps, known.named present]

/-- A list of issues becomes a record, whatever its identities. -/
theorem ofList (listed : List Issue) :
    KnownIssues (Keyed.ofList (listed.map fun issue => (issue.id, issue))) := by
  rw [Keyed.ofList, List.foldl_map]
  have grows : ∀ {issues : Keyed Issue}, KnownIssues issues → KnownIssues
      (listed.foldl (fun records issue => Keyed.insert issue.id issue records) issues) := by
    induction listed with
    | nil => exact fun known => known
    | cons issue rest inductionHypothesis => exact fun known => inductionHypothesis (known.insert issue)
  exact grows nil

/-- The record stays one when an issue is detected. -/
theorem mergeIssue (known : KnownIssues issues) (now : Moment) (fresh : Issue) :
    KnownIssues (SchemaDrift.mergeIssue now issues fresh) := by
  unfold SchemaDrift.mergeIssue
  split
  · exact known.insert fresh
  · rename_i issue found
    have same : (issue.detectAgain fresh now).id = fresh.id := by
      rw [← known.named found]
      unfold Issue.detectAgain
      split <;> rfl
    exact same ▸ known.insert (issue.detectAgain fresh now)

/-- The record stays one when several issues are detected. -/
theorem mergeAll (known : KnownIssues issues) (detected : List Issue) (now : Moment) :
    KnownIssues (detected.foldl (SchemaDrift.mergeIssue now) issues) := by
  induction detected generalizing issues with
  | nil => exact known
  | cons fresh rest inductionHypothesis => exact inductionHypothesis (known.mergeIssue now fresh)

/-- The record stays one after a cycle. -/
theorem reconcile (known : KnownIssues issues) (detected : List Issue) (now : Moment) :
    KnownIssues (SchemaDrift.reconcile issues detected now) := by
  rw [SchemaDrift.reconcile]
  refine (known.mergeAll detected now).mapValues ?_
  intro issue
  unfold Issue.resolve
  split
  · rfl
  · split <;> rfl

end KnownIssues

end SchemaDrift
