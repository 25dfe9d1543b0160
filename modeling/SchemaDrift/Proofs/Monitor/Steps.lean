import SchemaDrift.Proofs.Fix.Plan
import SchemaDrift.Proofs.Monitor.Events
import SchemaDrift.Proofs.Monitor.Service

namespace SchemaDrift

namespace Timeline

/-- Neither the issues nor the settings, the catalog or the fixes under way changed. -/
structure Quiet (before after : Timeline) : Prop where
  issues : after.service.monitor.issues = before.service.monitor.issues
  settings : after.service.monitor.settings = before.service.monitor.settings
  catalog : after.service.catalog = before.service.catalog
  applications : after.applications = before.applications

namespace Quiet

/-- Nothing changes where nothing happens. -/
theorem refl (timeline : Timeline) : Quiet timeline timeline := ⟨rfl, rfl, rfl, rfl⟩

/-- Nothing changes in two quiet steps. -/
theorem trans {first middle last : Timeline} (left : Quiet first middle)
    (right : Quiet middle last) : Quiet first last where
  issues := right.issues.trans left.issues
  settings := right.settings.trans left.settings
  catalog := right.catalog.trans left.catalog
  applications := right.applications.trans left.applications

end Quiet

theorem quiet_endCycle (result : Except CycleError CycleReport) (timeline : Timeline) :
    Quiet timeline (timeline.endCycle result) := ⟨rfl, rfl, rfl, rfl⟩

theorem quiet_failCycle (error : CycleError) (timeline : Timeline) :
    Quiet timeline (timeline.failCycle error) := by
  show Quiet timeline ((timeline.onService (.failCycle error)).endCycle _)
  refine Quiet.trans ?_ (quiet_endCycle _ _)
  have monitor : ∀ monitor : Monitor, (monitor.recordFailure error).issues = monitor.issues ∧
      (monitor.recordFailure error).settings = monitor.settings := by
    intro monitor
    unfold Monitor.recordFailure
    simp only
    split <;> exact ⟨rfl, rfl⟩
  exact ⟨(monitor _).1, (monitor _).2, rfl, rfl⟩

theorem quiet_finishCycle (id : String) (startedAt : Moment) (analysis : Analysis)
    (executions : List FixExecution) (timeline : Timeline) :
    Quiet timeline (timeline.finishCycle id startedAt analysis executions) :=
  ⟨rfl, rfl, rfl, rfl⟩

theorem quiet_noteExecution (result : Except MonitorError FixExecution) (timeline : Timeline) :
    Quiet timeline (timeline.noteExecution result) := by
  unfold noteExecution
  split
  · simp only
    split
    · exact ⟨rfl, rfl, rfl, rfl⟩
    · exact quiet_finishCycle _ _ _ _ _
  · exact .refl timeline

theorem quiet_requestCycle {timeline requested : Timeline}
    (granted : timeline.requestCycle = .ok requested) : Quiet timeline requested := by
  unfold requestCycle at granted
  rcases (Result.bind_ok_iff _ _ _).mp granted with ⟨service, begun, made⟩
  cases made
  unfold Service.beginCycle at begun
  split at begun
  · cases begun
  · cases begun
    exact ⟨rfl, rfl, rfl, rfl⟩

theorem quiet_advanceSchedule (schedule : Schedule) (timeline : Timeline) :
    Quiet timeline (timeline.advanceSchedule schedule) := by
  unfold advanceSchedule
  simp only
  split
  · exact ⟨rfl, rfl, rfl, rfl⟩
  · split
    · exact ⟨rfl, rfl, rfl, rfl⟩
    · exact ⟨rfl, rfl, rfl, rfl⟩
    · split
      · exact ⟨rfl, rfl, rfl, rfl⟩
      · split
        · rename_i requested granted
          have quiet := quiet_requestCycle granted
          exact ⟨quiet.issues, quiet.settings, quiet.catalog, quiet.applications⟩
        · exact ⟨rfl, rfl, rfl, rfl⟩

/-- The schedule is quiet when it goes on by itself. -/
theorem quiet_hear (timeline : Timeline) : Quiet timeline timeline.hear := by
  unfold hear
  split
  · split
    · exact quiet_advanceSchedule _ _
    · exact .refl _
  · exact .refl _

/-- The request for a cycle is quiet, whether it is granted or not. -/
theorem quiet_occur_requestCycle (timeline : Timeline) :
    Quiet timeline (timeline.occur .requestCycle) := by
  unfold occur
  cases granted : timeline.requestCycle with
  | error other => exact .refl _
  | ok requested => exact quiet_requestCycle granted

/-- What a timeline looks like after some fixes were given to the catalog: they are under way. -/
structure Submitted (automatic : Bool) (fixes : List Fix) (before after : Timeline) : Prop where
  issues : after.service.monitor.issues = before.service.monitor.issues
  settings : after.service.monitor.settings = before.service.monitor.settings
  catalog : after.service.catalog = before.service.catalog
  applications : ∀ application ∈ after.applications, application ∈ before.applications ∨
    application.fix ∈ fixes ∧ application.automatic = automatic

/-- A fix that is given to the catalog is under way. -/
theorem submitted_submit (automatic : Bool) (timeline : Timeline) (fix : Fix) :
    Submitted automatic [fix] timeline (timeline.submit automatic fix) where
  issues := rfl
  settings := rfl
  catalog := rfl
  applications application present := by
    rcases List.mem_append.mp present with old | new
    · exact .inl old
    · rw [List.mem_singleton.mp new]
      exact .inr ⟨List.mem_cons_self, rfl⟩

/-- Fixes that are given to the catalog in turn are under way. -/
theorem submitted_foldl (automatic : Bool) (fixes : List Fix) (timeline : Timeline) :
    Submitted automatic fixes timeline (fixes.foldl (submit automatic) timeline) := by
  induction fixes generalizing timeline with
  | nil => exact ⟨rfl, rfl, rfl, fun application present => .inl present⟩
  | cons fix rest inductionHypothesis =>
      have first := submitted_submit automatic timeline fix
      have others := inductionHypothesis (timeline.submit automatic fix)
      refine ⟨others.issues.trans first.issues, others.settings.trans first.settings,
        others.catalog.trans first.catalog, ?_⟩
      intro application present
      rcases others.applications application present with earlier | ⟨later, same⟩
      · rcases first.applications application earlier with old | ⟨new, same⟩
        · exact .inl old
        · exact .inr ⟨List.mem_cons.mpr (.inl (List.mem_singleton.mp new)), same⟩
      · exact .inr ⟨List.mem_cons_of_mem _ later, same⟩

/-- The fixes of a cycle, in whatever order, are under way. -/
theorem submitted_submitAll (fixes : List Fix) (timeline : Timeline) :
    Submitted true fixes timeline (timeline.submitAll fixes) := by
  have ranked : ∀ fix ∈ if timeline.executionTime.nanos = 0 then fixes else rankFixes fixes,
      fix ∈ fixes := by
    intro fix present
    split at present
    · exact present
    · rcases List.mem_flatMap.mp present with ⟨table, _, found⟩
      exact List.mem_of_mem_filter found
  have work := submitted_foldl true
    (if timeline.executionTime.nanos = 0 then fixes else rankFixes fixes) timeline
  have ordered : ∀ application, application ∈ (timeline.submitAll fixes).applications ↔
      application ∈ ((if timeline.executionTime.nanos = 0 then fixes
        else rankFixes fixes).foldl (submit true) timeline).applications :=
    fun application => mem_sortStable _ _ _
  refine ⟨work.issues, work.settings, work.catalog, ?_⟩
  intro application present
  exact (work.applications application ((ordered application).mp present)).imp_right
    fun ⟨found, same⟩ => ⟨ranked _ found, same⟩

/-- The planning of a cycle that detected some issues. -/
def planningOf (timeline : Timeline) (detected : List Issue) : Planning :=
  Planning.ofIssues timeline.service.monitor.settings.minEvidence timeline.service.monitor.autoApply
    timeline.now (reconcile timeline.service.monitor.issues detected timeline.now)

/-- What a timeline looks like after a cycle published its planning: the issues are those planned,
and the automatic fixes are under way. -/
structure Published (planning : Planning) (before after : Timeline) : Prop where
  issues : after.service.monitor.issues = planning.issues
  settings : after.service.monitor.settings = before.service.monitor.settings
  catalog : after.service.catalog = before.service.catalog
  applications : ∀ application ∈ after.applications, application ∈ before.applications ∨
    application.fix ∈ planning.automatic ∧ application.automatic = true

/-- What was published stays so in a quiet step. -/
theorem Published.of_quiet {planning : Planning} {before middle after : Timeline}
    (published : Published planning before middle) (quiet : Quiet middle after) :
    Published planning before after where
  issues := quiet.issues.trans published.issues
  settings := quiet.settings.trans published.settings
  catalog := quiet.catalog.trans published.catalog
  applications application present :=
    published.applications application (quiet.applications ▸ present)

/-- The issues are those that a cycle detects now in some sources and some state of the database. -/
def Detects (timeline : Timeline) (detected : List Issue) : Prop :=
  ∃ inferred snapshot,
    detected = detectIssues timeline.service.monitor.rules inferred snapshot timeline.now

theorem detects_of_analyze {timeline : Timeline} {scan : ScanResult}
    {capture : Except IntrospectionError Snapshot} {analysis : Analysis}
    (analyzed : Service.analyze timeline.service.monitor scan capture timeline.now = .ok analysis) :
    timeline.Detects analysis.detected := by
  unfold Service.analyze at analyzed
  obtain ⟨output, _, rest⟩ := (Result.bind_ok_iff _ _ _).mp analyzed
  obtain ⟨snapshot, _, made⟩ := (Result.bind_ok_iff _ _ _).mp rest
  cases made
  exact ⟨_, _, rfl⟩

/-- A cycle at the end of its reading either changes nothing or publishes the planning of what it
detected. -/
theorem publishCycle_cases (id : String) (startedAt : Moment) (scan : ScanResult)
    (capture : Except IntrospectionError Snapshot) (timeline : Timeline) :
    Quiet timeline (timeline.publishCycle id startedAt scan capture) ∨
    ∃ detected, timeline.Detects detected ∧ Published (timeline.planningOf detected) timeline
      (timeline.publishCycle id startedAt scan capture) := by
  unfold publishCycle
  split
  · exact .inl (quiet_failCycle _ _)
  · rename_i analysis analyzed
    have effect := Service.publish_cases timeline.service id analysis timeline.now
    generalize timeline.service.publish id analysis timeline.now = published at effect ⊢
    rcases published with ⟨service, result⟩
    rcases effect with ⟨error, failed, monitor, catalog⟩ | ⟨granted, issues, settings, catalog⟩
    · left
      simp only at failed monitor catalog
      subst failed
      have quiet := quiet_failCycle error { timeline with service }
      exact ⟨by rw [quiet.issues, monitor], by rw [quiet.settings, monitor],
        by rw [quiet.catalog, catalog], quiet.applications⟩
    · right
      refine ⟨analysis.detected, detects_of_analyze analyzed, ?_⟩
      simp only at granted issues settings catalog
      subst granted
      have work := submitted_submitAll (timeline.planningOf analysis.detected).automatic
        { timeline with service }
      have published : Published (timeline.planningOf analysis.detected) timeline
          ({ timeline with service }.submitAll (timeline.planningOf analysis.detected).automatic) :=
        ⟨work.issues.trans issues, work.settings.trans settings, work.catalog.trans catalog,
          work.applications⟩
      simp only
      split
      · exact ⟨published.issues, published.settings, published.catalog, published.applications⟩
      · exact published.of_quiet (quiet_finishCycle _ _ _ _ _)

/-- A step of a cycle either changes nothing or publishes the planning of what it detected. -/
theorem advance_cases (timeline : Timeline) :
    Quiet timeline timeline.advance ∨
    ∃ detected, timeline.Detects detected ∧
      Published (timeline.planningOf detected) timeline timeline.advance := by
  have reading : ∀ (id : String) (startedAt : Moment) (scan : ScanResult) (capture : Capture)
      (timeline : Timeline), Quiet timeline (timeline.continueReading id startedAt scan capture) ∨
      ∃ detected, timeline.Detects detected ∧ Published (timeline.planningOf detected) timeline
        (timeline.continueReading id startedAt scan capture) := by
    intro id startedAt scan capture timeline
    unfold continueReading
    split
    · exact publishCycle_cases id startedAt scan _ timeline
    · exact .inl ⟨rfl, rfl, rfl, rfl⟩
  unfold advance
  split
  · split
    · unfold advanceCycle
      simp only
      split
      · exact (reading _ _ _ _ (timeline.onService (.enter .scanning))).imp
          (fun quiet => ⟨quiet.issues, quiet.settings, quiet.catalog, quiet.applications⟩)
          fun ⟨detected, found, published⟩ => ⟨detected, found, published.issues, published.settings,
            published.catalog, published.applications⟩
      · exact reading _ _ _ _ timeline
      · exact .inl (quiet_finishCycle _ _ _ _ _)
    · exact .inl (.refl timeline)
  · exact .inl (.refl timeline)

/-- The answer to a fix does to the service what the fix does, and the others stay under way. -/
theorem finishApplication_effect (application : Application) (others : List Application)
    (timeline : Timeline) :
    let service := (timeline.service.executeFix application.executionId application.fix
      application.begunAt).1
    let answered := timeline.finishApplication application others
    answered.service.monitor.issues = service.monitor.issues ∧
      answered.service.monitor.settings = service.monitor.settings ∧
      answered.service.catalog = service.catalog ∧ answered.applications = others := by
  unfold finishApplication
  rcases timeline.service.executeFix application.executionId application.fix application.begunAt with
    ⟨service, result⟩
  simp only
  split
  · have quiet := quiet_noteExecution result
      ({ timeline with service, applications := others }.onMonitor fun monitor =>
        { monitor with applying := monitor.applying - 1 })
    exact ⟨quiet.issues, quiet.settings, quiet.catalog, quiet.applications⟩
  · exact ⟨rfl, rfl, rfl, rfl⟩

/-- What a timeline looks like after an answer of the catalog: one of the fixes under way was run,
and those under way now were so before. -/
structure Answered (application : Application) (before after : Timeline) : Prop where
  present : application ∈ before.applications
  known : KnownIssues before.service.monitor.issues → KnownIssues after.service.monitor.issues
  settings : after.service.monitor.settings = before.service.monitor.settings
  catalog : after.service.catalog = (before.service.catalog.execute [application.fix.ddl]
    before.service.monitor.executionLimit).1
  applications : ∀ other ∈ after.applications, other ∈ before.applications

/-- An answer of the catalog either changes nothing or is about a fix under way. -/
theorem answer_cases (place : Nat) (timeline : Timeline) :
    (timeline.answered? (.answer place) = none ∧ Quiet timeline (timeline.answer place)) ∨
    ∃ application, timeline.answered? (.answer place) = some application ∧
      Answered application timeline (timeline.answer place) := by
  unfold answer answered?
  simp only
  split
  · rename_i application found
    rcases finishApplication_effect application
      ((sortStable orderApplications timeline.applications).eraseIdx place) timeline with
      ⟨issues, settings, catalog, applications⟩
    have pending : ∀ other, other ∈ sortStable orderApplications timeline.applications →
        other ∈ timeline.applications := fun other => (mem_sortStable _ _ _).mp
    refine .inr ⟨application, found, pending _ (List.mem_of_getElem? found), ?_,
      settings.trans (Service.executeFix_settings _ _ _ _),
      catalog.trans (Service.executeFix_catalog _ _ _ _), ?_⟩
    · intro known
      rw [issues]
      exact Service.executeFix_known known _ _ _
    · intro other present
      rw [applications] at present
      exact pending other (List.mem_of_mem_eraseIdx present)
  · rename_i unanswered
    exact .inl ⟨unanswered, .refl timeline⟩

/-- What a timeline looks like after a request for a fix that was granted: a ready fix for an open
issue is under way. -/
structure Granted (id : String) (approval : Approval) (before after : Timeline) : Prop where
  applications : ∀ application ∈ after.applications, application ∈ before.applications ∨
    application.automatic = false ∧ ∃ issue validated,
      before.service.monitor.issues.get? id = some issue ∧ issue.isOpen = true ∧
      Plan.ofIssue before.service.monitor.settings.minEvidence issue approval before.now =
        .ready validated ∧ validated.fix = application.fix
  known : KnownIssues before.service.monitor.issues → KnownIssues after.service.monitor.issues
  settings : after.service.monitor.settings = before.service.monitor.settings
  catalog : after.service.catalog = before.service.catalog

/-- A request for a fix has no fix under way but a ready one for an open issue. -/
theorem granted_requestFix (id : String) (approval : Approval) (timeline : Timeline) :
    Granted id approval timeline (timeline.requestFix id approval) := by
  have known := fun present : KnownIssues timeline.service.monitor.issues =>
    Service.planFix_known present id approval timeline.now
  have settings := Service.planFix_settings timeline.service id approval timeline.now
  have catalog := Service.planFix_catalog timeline.service id approval timeline.now
  unfold requestFix
  rcases planned : timeline.service.planFix id approval timeline.now with ⟨service, result⟩
  rw [planned] at known settings catalog
  cases result with
  | error error => exact ⟨fun application present => .inl present, known, settings, catalog⟩
  | ok fix =>
      have work := submitted_submit false { timeline with service } fix
      refine ⟨?_, fun present => work.issues ▸ known present, work.settings.trans settings,
        work.catalog.trans catalog⟩
      intro application present
      refine (work.applications application present).imp_right fun ⟨found, same⟩ => ⟨same, ?_⟩
      rcases Service.planFix_ok planned with ⟨issue, validated, stands, isOpen, ready, made⟩
      exact ⟨issue, validated, stands, isOpen, ready, made.trans (List.mem_singleton.mp found).symm⟩

/-- A restart forgets what was under way, and the issues are a record again. -/
theorem restart_ok {timeline started : Timeline} (restarted : timeline.restart = .ok started) :
    KnownIssues started.service.monitor.issues ∧
      started.service.monitor.settings = timeline.service.monitor.settings ∧
      started.service.catalog = timeline.service.catalog ∧ started.applications = [] := by
  unfold restart at restarted
  rcases (Result.bind_ok_iff _ _ _).mp restarted with ⟨service, begun, made⟩
  cases made
  unfold Service.start at begun
  rcases (Result.bind_ok_iff _ _ _).mp begun with ⟨issues, loaded, made⟩
  cases made
  exact ⟨KnownIssues.ofList issues, rfl, rfl, rfl⟩

end Timeline

end SchemaDrift
