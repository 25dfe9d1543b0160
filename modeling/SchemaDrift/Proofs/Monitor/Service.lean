import SchemaDrift.Monitor.Cycle
import SchemaDrift.Proofs.Issue.Known
import SchemaDrift.Proofs.Monitor.Planning

namespace SchemaDrift

/-- A catalog writes down each batch that it is asked to run, with its success. -/
theorem Catalog.execute_log (catalog : Catalog) (texts : List String) (limit : Span) :
    (catalog.execute texts limit).1.log =
      catalog.log ++ [⟨texts, (catalog.execute texts limit).2.isNone⟩] := by
  unfold Catalog.execute
  split <;> rfl

/-- An issue that somebody asks for is known and open. -/
theorem Monitor.openIssue_ok_iff (monitor : Monitor) (id : String) (issue : Issue) :
    monitor.openIssue id = .ok issue ↔
      monitor.issues.get? id = some issue ∧ issue.isOpen = true := by
  unfold Monitor.openIssue
  cases monitor.issues.get? id with
  | none => simp
  | some known =>
      by_cases isOpen : known.isOpen = true
      · simp only [isOpen, if_true, Except.ok.injEq, Option.some.injEq]
        constructor
        · rintro rfl
          exact ⟨rfl, isOpen⟩
        · exact fun same => same.1
      · simp only [isOpen, Bool.false_eq_true, if_false, reduceCtorEq, Option.some.injEq,
          false_iff, not_and]
        rintro rfl
        exact isOpen

namespace Service

/-- The change of an issue changes nothing else of a monitor but the outcome that it shows. -/
theorem updateIssue_monitor (service : Service) (id : String) (change : Issue → Issue) :
    ∃ outcome phase, (service.updateIssue id change).1.monitor =
      { service.monitor with issues := service.monitor.issues.modify id change, outcome, phase } := by
  unfold updateIssue
  simp only
  split
  · exact ⟨_, _, rfl⟩
  · simp only [onMonitor, Monitor.refreshOutcome]
    split <;> exact ⟨_, _, rfl⟩

theorem updateIssue_issues (service : Service) (id : String) (change : Issue → Issue) :
    (service.updateIssue id change).1.monitor.issues = service.monitor.issues.modify id change := by
  obtain ⟨_, _, same⟩ := service.updateIssue_monitor id change
  rw [same]

/-- The change of an issue that is recorded shows the outcome as the issues are now. -/
theorem updateIssue_of_saved {service : Service} {id : String} {change : Issue → Issue}
    (saved : (service.store.saveIssues (service.monitor.issues.modify id change).values).2 = none) :
    service.updateIssue id change =
      (⟨Monitor.refreshOutcome
          { service.monitor with issues := service.monitor.issues.modify id change },
        (service.store.saveIssues (service.monitor.issues.modify id change).values).1,
        service.catalog⟩, none) := by
  simp only [updateIssue, saved]
  rfl

theorem updateIssue_settings (service : Service) (id : String) (change : Issue → Issue) :
    (service.updateIssue id change).1.monitor.settings = service.monitor.settings := by
  obtain ⟨_, _, same⟩ := service.updateIssue_monitor id change
  rw [same]

theorem updateIssue_catalog (service : Service) (id : String) (change : Issue → Issue) :
    (service.updateIssue id change).1.catalog = service.catalog := by
  unfold updateIssue
  simp only
  split <;> rfl

/-- An attempt marks an issue without a change of its identity. -/
theorem markOf_id (execution : FixExecution) (issue : Issue) :
    (markOf execution issue).id = issue.id := by
  unfold markOf
  split <;> rfl

/-- A fix that is applied is run and recorded, and unless the record fails its issue is marked. -/
theorem executeFix_cases (service : Service) (executionId : String) (fix : Fix) (now : Moment) :
    (service.executeFix executionId fix now).1 = (service.runFix executionId fix now).1 ∨
    (service.executeFix executionId fix now).1 =
      ((service.runFix executionId fix now).1.updateIssue fix.issueId
        (markOf (service.runFix executionId fix now).2.1)).1 := by
  unfold executeFix
  rcases service.runFix executionId fix now with ⟨attempted, execution, error⟩
  cases error with
  | some error => exact .inl rfl
  | none =>
      refine .inr ?_
      simp only
      rcases attempted.updateIssue fix.issueId (markOf execution) with ⟨marked, error⟩
      cases error <;> rfl

/-- A fix that is applied leaves a record of issues a record. -/
theorem executeFix_known {service : Service} (known : KnownIssues service.monitor.issues)
    (executionId : String) (fix : Fix) (now : Moment) :
    KnownIssues (service.executeFix executionId fix now).1.monitor.issues := by
  rcases executeFix_cases service executionId fix now with same | same
  · rw [same]
    exact known
  · rw [same, updateIssue_issues]
    exact known.modify _ (markOf_id _)

/-- A fix that is applied leaves the settings as they are. -/
theorem executeFix_settings (service : Service) (executionId : String) (fix : Fix) (now : Moment) :
    (service.executeFix executionId fix now).1.monitor.settings = service.monitor.settings := by
  rcases executeFix_cases service executionId fix now with same | same
  · rw [same]
    rfl
  · rw [same, updateIssue_settings]
    rfl

/-- A fix that is applied gives its own text to the catalog, once and alone. -/
theorem executeFix_catalog (service : Service) (executionId : String) (fix : Fix) (now : Moment) :
    (service.executeFix executionId fix now).1.catalog =
      (service.catalog.execute [fix.ddl] service.monitor.executionLimit).1 := by
  rcases executeFix_cases service executionId fix now with same | same
  · rw [same]
    rfl
  · rw [same, updateIssue_catalog]
    rfl

/-- An attempt that is answered was made with the fix. -/
theorem executeFix_ok {service after : Service} {executionId : String} {fix : Fix} {now : Moment}
    {execution : FixExecution}
    (answered : service.executeFix executionId fix now = (after, .ok execution)) :
    execution = (service.runFix executionId fix now).2.1 := by
  unfold executeFix at answered
  generalize service.runFix executionId fix now = attempt at answered ⊢
  obtain ⟨attempted, recorded, _ | error⟩ := attempt
  · simp only at answered ⊢
    generalize attempted.updateIssue fix.issueId (markOf recorded) = updated at answered
    obtain ⟨marked, _ | error⟩ := updated
    · cases answered
      rfl
    · cases answered
  · cases answered

/-- A request for a fix leaves the service as it is, or the issue that was asked for is marked: as
rejected, or as approved if the operator said so. -/
theorem planFix_marks (service : Service) (id : String) (approval : Approval) (now : Moment) :
    (service.planFix id approval now).1 = service ∨
    (∃ reason, (service.planFix id approval now).1 =
      (service.updateIssue id (·.markRejected reason)).1) ∨
    approval = .manual ∧
      (service.planFix id approval now).1 = (service.updateIssue id (·.markApproved)).1 := by
  unfold planFix
  split
  · exact .inl rfl
  · split
    · exact .inl rfl
    · rename_i error refused
      refine .inr (.inl ⟨error.message, ?_⟩)
      rcases service.updateIssue id (·.markRejected error.message) with ⟨changed, failure⟩
      cases failure <;> rfl
    · split
      · rename_i approved
        refine .inr (.inr ⟨approved, ?_⟩)
        rcases service.updateIssue id (·.markApproved) with ⟨changed, failure⟩
        cases failure <;> rfl
      · exact .inl rfl

/-- A request for a fix leaves the service as it is, or changes the issue that was asked for. -/
theorem planFix_cases (service : Service) (id : String) (approval : Approval) (now : Moment) :
    (service.planFix id approval now).1 = service ∨
    ∃ change : Issue → Issue, (∀ issue, (change issue).id = issue.id) ∧
      (service.planFix id approval now).1 = (service.updateIssue id change).1 := by
  rcases planFix_marks service id approval now with same | ⟨reason, same⟩ | ⟨_, same⟩
  · exact .inl same
  · exact .inr ⟨(·.markRejected reason), fun _ => rfl, same⟩
  · exact .inr ⟨(·.markApproved), fun _ => rfl, same⟩

/-- A request for a fix leaves a record of issues a record. -/
theorem planFix_known {service : Service} (known : KnownIssues service.monitor.issues)
    (id : String) (approval : Approval) (now : Moment) :
    KnownIssues (service.planFix id approval now).1.monitor.issues := by
  rcases planFix_cases service id approval now with same | ⟨change, keeps, same⟩
  · rw [same]
    exact known
  · rw [same, updateIssue_issues]
    exact known.modify _ keeps

/-- A request for a fix leaves the settings as they are. -/
theorem planFix_settings (service : Service) (id : String) (approval : Approval) (now : Moment) :
    (service.planFix id approval now).1.monitor.settings = service.monitor.settings := by
  rcases planFix_cases service id approval now with same | ⟨change, keeps, same⟩
  · rw [same]
  · rw [same, updateIssue_settings]

/-- A request for a fix leaves the catalog as it is until the fix is applied. -/
theorem planFix_catalog (service : Service) (id : String) (approval : Approval) (now : Moment) :
    (service.planFix id approval now).1.catalog = service.catalog := by
  rcases planFix_cases service id approval now with same | ⟨change, keeps, same⟩
  · rw [same]
  · rw [same, updateIssue_catalog]

/-- A request that is granted plans a ready fix for an open issue. -/
theorem planFix_ok {service changed : Service} {id : String} {approval : Approval} {now : Moment}
    {fix : Fix} (granted : service.planFix id approval now = (changed, .ok fix)) :
    ∃ issue validated, service.monitor.issues.get? id = some issue ∧ issue.isOpen = true ∧
      Plan.ofIssue service.monitor.settings.minEvidence issue approval now = .ready validated ∧
      validated.fix = fix := by
  unfold planFix at granted
  split at granted
  · cases granted
  · rename_i issue found
    rcases (Monitor.openIssue_ok_iff _ _ _).mp found with ⟨known, isOpen⟩
    split at granted
    · cases granted
    · split at granted <;> cases granted
    · rename_i validated ready
      refine ⟨issue, validated, known, isOpen, ready, ?_⟩
      split at granted
      · split at granted
        · cases granted
        · cases granted
          rfl
      · cases granted
        rfl

/-- The service after the fix for an issue was planned at one time and applied at another, with nothing
in between. -/
def applyLater (id : String) (approval : Approval) (executionId : String) (asked ran : Moment)
    (service : Service) : Service × Except MonitorError FixExecution :=
  match service.planFix id approval asked with
  | (service, .error error) => (service, .error error)
  | (service, .ok fix) => service.executeFix executionId fix ran

/-- A fix that is planned is applied whenever that may be. -/
theorem applyLater_granted {service planned : Service} {id : String} {approval : Approval}
    {asked : Moment} {fix : Fix} (granted : service.planFix id approval asked = (planned, .ok fix))
    (executionId : String) (ran : Moment) :
    service.applyLater id approval executionId asked ran = planned.executeFix executionId fix ran := by
  simp only [applyLater, granted]

/-- A request that is refused leaves it at that. -/
theorem applyLater_refused {service planned : Service} {id : String} {approval : Approval}
    {asked : Moment} {error : MonitorError}
    (refused : service.planFix id approval asked = (planned, .error error)) (executionId : String)
    (ran : Moment) :
    service.applyLater id approval executionId asked ran = (planned, .error error) := by
  simp only [applyLater, refused]

/-- A cycle that is published gives its issues as reviewed, and the fixes to apply; one whose issues
cannot be recorded leaves the monitor and the catalog as they are. -/
theorem publish_cases (service : Service) (cycleId : String) (analysis : Analysis) (now : Moment) :
    let issues := reconcile service.monitor.issues analysis.detected now
    let planning := Planning.ofIssues service.monitor.settings.minEvidence service.monitor.autoApply
      now issues
    (∃ error, (service.publish cycleId analysis now).2 = .error error ∧
      (service.publish cycleId analysis now).1.monitor = service.monitor ∧
      (service.publish cycleId analysis now).1.catalog = service.catalog) ∨
    (service.publish cycleId analysis now).2 = .ok planning.automatic ∧
      (service.publish cycleId analysis now).1.monitor.issues = planning.issues ∧
      (service.publish cycleId analysis now).1.monitor.settings = service.monitor.settings ∧
      (service.publish cycleId analysis now).1.catalog = service.catalog := by
  intro issues planning
  unfold publish
  simp only
  split
  · exact .inl ⟨_, rfl, rfl, rfl⟩
  · exact .inr ⟨rfl, rfl, rfl, rfl⟩

end Service

end SchemaDrift
