import SchemaDrift.Proofs.Fix.Plan
import SchemaDrift.Proofs.Monitor.Moves
import SchemaDrift.Proofs.Store.Trail

namespace SchemaDrift

/-- A batch without success changes nothing in a catalog but what is written down. -/
theorem Catalog.execute_unchanged {catalog : Catalog} {texts : List String} {limit : Span}
    (failed : (catalog.execute texts limit).2.isNone = false) :
    { (catalog.execute texts limit).1 with log := catalog.log } = catalog := by
  unfold execute at failed ⊢
  split
  · simp_all
  · rfl

namespace Service

/-- One issue changed. Of all else that a monitor shows, only the outcome may have followed. -/
structure Changes (id : String) (change : Issue → Issue) (before after : Service) : Prop where
  issues : ∀ other, after.monitor.issues.get? other =
    if id = other then (before.monitor.issues.get? other).map change
    else before.monitor.issues.get? other
  monitor : after.monitor = { before.monitor with
    issues := after.monitor.issues, outcome := after.monitor.outcome, phase := after.monitor.phase }

variable {first middle last service : Service} {id : String} {change later : Issue → Issue}

/-- An issue changes in two steps in which it changes. -/
theorem Changes.trans (left : first.Changes id change middle) (right : middle.Changes id later last) :
    first.Changes id (fun issue => later (change issue)) last where
  issues other := by
    rw [right.issues, left.issues]
    by_cases same : id = other
    · simp only [same, if_true, Option.map_map]
      rfl
    · simp only [same, if_false]
  monitor := by
    rw [right.monitor, left.monitor]

/-- What the change of an issue comes to that is recorded: the issue changed and the record holds all
issues, and neither the executions nor the catalog changed. -/
structure Marked (id : String) (change : Issue → Issue) (before after : Service) : Prop where
  changes : before.Changes id change after
  recorded : after.store.Holds after.monitor.issues.values
  executions : before.store.Appends [] after.store
  catalog : after.catalog = before.catalog

/-- The change of an issue is recorded where the record can be written. -/
theorem marked_updateIssue (writable : service.store.Writable) (id : String)
    (change : Issue → Issue) : ∃ after, service.updateIssue id change = (after, none) ∧
      service.Marked id change after ∧ after.store.Writable := by
  obtain ⟨saved, again⟩ := writable.saveIssues (service.monitor.issues.modify id change).values
  have updated := updateIssue_of_saved saved
  have store : (service.updateIssue id change).1.store =
      (service.store.saveIssues (service.monitor.issues.modify id change).values).1 := by rw [updated]
  obtain ⟨_, _, monitor⟩ := service.updateIssue_monitor id change
  refine ⟨(service.updateIssue id change).1, by rw [updated], ⟨⟨?_, ?_⟩, ?_, ?_, ?_⟩, store ▸ again⟩
  · intro other
    rw [monitor]
    exact Keyed.get?_modify service.monitor.issues id other change
  · rw [monitor]
  · rw [monitor, store]
    exact Store.holds_saveIssues saved
  · exact store ▸ Store.appends_saveIssues _ _
  · exact service.updateIssue_catalog id change

/-- What the statement of a fix comes to that is run and recorded: it is given to the catalog once and
alone, and nothing there changes without success; the record has one execution more, and the issue is
marked by its success. -/
structure Executed (executionId : String) (fix : Fix) (now : Moment) (before after : Service)
    (execution : FixExecution) : Prop where
  catalog : after.catalog = (before.catalog.execute [fix.ddl] before.monitor.executionLimit).1
  log : after.catalog.log = before.catalog.log ++ [⟨[fix.ddl], execution.success⟩]
  success : execution.success =
    (before.catalog.execute [fix.ddl] before.monitor.executionLimit).2.isNone
  unchanged : execution.success = false →
    { after.catalog with log := before.catalog.log } = before.catalog
  attempt : execution = .record executionId fix now before.fixMillis
    ((before.catalog.execute [fix.ddl] before.monitor.executionLimit).2.map (·.message))
  executions : before.store.Appends [execution] after.store
  changes : before.Changes fix.issueId (markOf execution) after
  recorded : after.store.Holds after.monitor.issues.values

/-- A fix that is applied is executed where the record can be written. -/
theorem executed_executeFix (writable : service.store.Writable) (executionId : String) (fix : Fix)
    (now : Moment) : ∃ after execution,
      service.executeFix executionId fix now = (after, .ok execution) ∧
      Executed executionId fix now service after execution := by
  let error := (service.catalog.execute [fix.ddl] service.monitor.executionLimit).2.map (·.message)
  let execution := FixExecution.record executionId fix now service.fixMillis error
  obtain ⟨taken, again⟩ := writable.appendExecution execution
  let ran : Service :=
    { service with
      catalog := (service.catalog.execute [fix.ddl] service.monitor.executionLimit).1
      store := (service.store.appendExecution execution).1 }
  have attempt : service.runFix executionId fix now = (ran, execution, none) :=
    congrArg (fun error => (ran, execution, error)) taken
  have reopened : ran.store.Writable := again
  obtain ⟨after, updated, marked, _⟩ :=
    marked_updateIssue reopened fix.issueId (markOf execution)
  have success : execution.success =
      (service.catalog.execute [fix.ddl] service.monitor.executionLimit).2.isNone :=
    Option.isNone_map
  refine ⟨after, execution, ?_, marked.catalog, ?_, success, ?_, rfl, ?_, ?_, marked.recorded⟩
  · simp only [executeFix, attempt, updated]
  · rw [marked.catalog, success]
    exact service.catalog.execute_log [fix.ddl] service.monitor.executionLimit
  · rw [marked.catalog, success]
    exact Catalog.execute_unchanged
  · exact (Store.appends_appendExecution taken).trans marked.executions
  · exact ⟨marked.changes.issues, marked.changes.monitor⟩

/-- The effects that a request for a fix may have, of which the issue and its plan admit only one. An
issue that is unknown or closed and a fix that needs an operator leave all as it is; a fix that is
rejected leaves its issue rejected with the reason; a fix that is ready is executed, and leaves its
issue applied without an error or pending with one. -/
inductive Accounted (id : String) (approval : Approval) (executionId : String) (asked ran : Moment)
    (before : Service) : Service × Except MonitorError FixExecution → Prop where
  | unknown (absent : before.monitor.issues.get? id = none) :
      Accounted id approval executionId asked ran before (before, .error (.issueNotFound id))
  | closed (issue : Issue) (state : String) (found : before.monitor.issues.get? id = some issue)
      (closed : issue.isOpen = false) :
      Accounted id approval executionId asked ran before (before, .error (.issueClosed issue.id state))
  | needsApproval (issue : Issue) (fix : Fix) (found : before.monitor.issues.get? id = some issue)
      (isOpen : issue.isOpen = true)
      (planned : Plan.ofIssue before.monitor.settings.minEvidence issue approval asked =
        .needsApproval fix) :
      Accounted id approval executionId asked ran before
        (before, .error (.plan (.validation .approvalRequired)))
  | rejected (issue : Issue) (error : PlanError) (after : Service)
      (found : before.monitor.issues.get? id = some issue) (isOpen : issue.isOpen = true)
      (planned : Plan.ofIssue before.monitor.settings.minEvidence issue approval asked =
        .rejected error)
      (marked : before.Marked id
        (fun issue => { issue with status := .rejected, rejectionReason := some error.message }) after) :
      Accounted id approval executionId asked ran before (after, .error (.plan error))
  | executed (issue : Issue) (validated : ValidatedFix) (after : Service) (execution : FixExecution)
      (found : before.monitor.issues.get? id = some issue) (isOpen : issue.isOpen = true)
      (planned : Plan.ofIssue before.monitor.settings.minEvidence issue approval asked =
        .ready validated)
      (about : validated.fix.issueId = id ∧ validated.fix.table = issue.table)
      (executed : Executed executionId validated.fix ran before after execution)
      (ends : after.monitor.issues.get? id = some
        { issue with
          status := if execution.success then .applied else .pending
          lastError := execution.errorMessage }) :
      Accounted id approval executionId asked ran before (after, .ok execution)

/-- A fix that is ready is given back, and only an approval is noted. -/
theorem planFix_ready (writable : service.store.Writable) {id : String} {approval : Approval}
    {asked : Moment} {issue : Issue} {validated : ValidatedFix}
    (found : service.monitor.openIssue id = .ok issue)
    (ready : Plan.ofIssue service.monitor.settings.minEvidence issue approval asked =
      .ready validated) :
    ∃ (planned : Service) (status : Issue → IssueStatus),
      service.planFix id approval asked = (planned, .ok validated.fix) ∧
      planned.store.Writable ∧ service.store.Appends [] planned.store ∧
      planned.catalog = service.catalog ∧
      service.Changes id (fun issue => { issue with status := status issue }) planned := by
  cases approval with
  | automatic =>
      refine ⟨service, (·.status), ?_, writable, .refl _, rfl, ?_, rfl⟩
      · simp only [planFix, found, ready]
        rfl
      · intro other
        split <;> simp
  | manual =>
      obtain ⟨after, updated, marked, again⟩ := marked_updateIssue writable id Issue.markApproved
      refine ⟨after, fun _ => .approved, ?_, again, marked.executions, marked.catalog, marked.changes⟩
      simp only [planFix, found, ready, if_true, updated]

/-- What an attempt makes of an issue does not depend on where the issue stood. -/
theorem markOf_status (execution : FixExecution) (issue : Issue) (status : IssueStatus) :
    markOf execution { issue with status } = markOf execution issue := by
  unfold markOf
  split <;> rfl

/-- An attempt leaves an issue applied without an error, or pending with that of the attempt. -/
theorem markOf_record (executionId : String) (fix : Fix) (now : Moment) (millis : Nat)
    (error : Option String) (issue : Issue) :
    let execution := FixExecution.record executionId fix now millis error
    markOf execution issue =
      { issue with
        status := if execution.success then .applied else .pending
        lastError := execution.errorMessage } := by
  cases error <;> rfl

/-- A fix is executed as before when only its issue was approved in between. -/
theorem Executed.of_approved {planned after : Service} {executionId : String} {fix : Fix}
    {now : Moment} {execution : FixExecution} {status : Issue → IssueStatus}
    (executed : Executed executionId fix now planned after execution)
    (approved : service.Changes fix.issueId (fun issue => { issue with status := status issue }) planned)
    (executions : service.store.Appends [] planned.store)
    (catalog : planned.catalog = service.catalog) :
    Executed executionId fix now service after execution := by
  have limit : planned.monitor.executionLimit = service.monitor.executionLimit := by
    rw [approved.monitor]
    rfl
  have millis : planned.fixMillis = service.fixMillis := by
    unfold fixMillis
    rw [catalog, limit]
  have same : (fun issue => markOf execution { issue with status := status issue }) =
      markOf execution := funext fun issue => markOf_status execution issue _
  have changes := approved.trans executed.changes
  rw [same] at changes
  refine ⟨?_, ?_, ?_, ?_, ?_, executions.trans executed.executions, changes, executed.recorded⟩
  · rw [executed.catalog, catalog, limit]
  · rw [executed.log, catalog]
  · rw [executed.success, catalog, limit]
  · rw [← catalog]
    exact executed.unchanged
  · rw [← catalog, ← limit, ← millis]
    exact executed.attempt

/-- Every request for a fix on a record of issues that can be written is accounted for. -/
theorem accounted_applyLater (known : KnownIssues service.monitor.issues)
    (writable : service.store.Writable) (id : String) (approval : Approval) (executionId : String)
    (asked ran : Moment) :
    Accounted id approval executionId asked ran service
      (service.applyLater id approval executionId asked ran) := by
  cases found : service.monitor.issues.get? id with
  | none =>
      have absent : service.monitor.openIssue id = .error (.issueNotFound id) := by
        simp only [Monitor.openIssue, found]
      simp only [applyLater, planFix, absent]
      exact .unknown found
  | some issue =>
      by_cases isOpen : issue.isOpen = true
      · have stands : service.monitor.openIssue id = .ok issue :=
          (Monitor.openIssue_ok_iff _ _ _).mpr ⟨found, isOpen⟩
        cases planned : Plan.ofIssue service.monitor.settings.minEvidence issue approval asked with
        | needsApproval fix =>
            simp only [applyLater, planFix, stands, planned]
            exact .needsApproval issue fix found isOpen planned
        | rejected error =>
            obtain ⟨after, updated, marked, _⟩ :=
              marked_updateIssue writable id (·.markRejected error.message)
            simp only [applyLater, planFix, stands, planned, updated]
            exact .rejected issue error after found isOpen planned marked
        | ready validated =>
            obtain ⟨approved, status, granted, again, executions, catalog, changes⟩ :=
              planFix_ready writable stands planned
            obtain ⟨after, execution, applied, executed⟩ :=
              executed_executeFix again executionId validated.fix ran
            obtain ⟨_, _, _, _, made, _⟩ := (Plan.ofIssue_ready_iff _ _ _ _ _).mp planned
            have owner : validated.fix.issueId = id := made ▸ known.named found
            have table : validated.fix.table = issue.table := made ▸ rfl
            have done := executed.of_approved (owner.symm ▸ changes) executions catalog
            simp only [applyLater, granted, applied]
            refine .executed issue validated after execution found isOpen planned ⟨owner, table⟩ done ?_
            rw [done.changes.issues, if_pos owner, found, done.attempt]
            exact congrArg some (markOf_record _ _ _ _ _ issue)
      · have closed : service.monitor.openIssue id = .error (.issueClosed issue.id
            (if issue.resolvedAt.isSome then "resolved" else issue.status.name)) := by
          simp only [Monitor.openIssue, found, if_neg isOpen]
        simp only [applyLater, planFix, closed]
        exact .closed issue _ found (Bool.eq_false_iff.mpr isOpen)

/-- The number of fixes under way makes no difference to the change of an issue. -/
theorem updateIssue_occupy (service : Service) (applying : Nat) (id : String)
    (change : Issue → Issue) : (service.move (.occupy applying)).updateIssue id change =
      ((service.updateIssue id change).1.move (.occupy applying),
        (service.updateIssue id change).2) := by
  simp only [updateIssue, move, onMonitor]
  split
  · rfl
  · simp only [Monitor.refreshOutcome]
    split <;> rfl

/-- The number of fixes under way makes no difference to a fix that is applied. -/
theorem executeFix_occupy (service : Service) (applying : Nat) (executionId : String) (fix : Fix)
    (now : Moment) : (service.move (.occupy applying)).executeFix executionId fix now =
      ((service.executeFix executionId fix now).1.move (.occupy applying),
        (service.executeFix executionId fix now).2) := by
  have ran : (service.move (.occupy applying)).runFix executionId fix now =
      ((service.runFix executionId fix now).1.move (.occupy applying),
        (service.runFix executionId fix now).2) := rfl
  simp only [executeFix, ran]
  generalize service.runFix executionId fix now = attempted
  obtain ⟨attempted, execution, _ | error⟩ := attempted
  · simp only [updateIssue_occupy]
    generalize attempted.updateIssue fix.issueId (markOf execution) = updated
    obtain ⟨marked, _ | error⟩ := updated <;> rfl
  · rfl

/-- A fix that is applied leaves the number of fixes under way. -/
theorem executeFix_applying (service : Service) (executionId : String) (fix : Fix) (now : Moment) :
    (service.executeFix executionId fix now).1.monitor.applying = service.monitor.applying :=
  congrArg (fun result => result.1.monitor.applying)
    (service.executeFix_occupy service.monitor.applying executionId fix now)

end Service

namespace Timeline

variable {timeline : Timeline}

/-- What happens next while a condition holds happens before all the rest. -/
theorem runWhile_next {condition : Timeline → Span → Bool} {due : Span}
    {event : Timeline → Timeline} (next : timeline.nextEvent? = some (due, event))
    (holds : condition timeline due = true) (steps : Nat) :
    timeline.runWhile condition (steps + 1) =
      (event (timeline.setClock due)).runWhile condition steps := by
  simp only [runWhile, next, holds, if_true]

/-- Where nothing happens next, nothing happens. -/
theorem runWhile_still (condition : Timeline → Span → Bool) (still : timeline.nextEvent? = none)
    (steps : Nat) : timeline.runWhile condition steps = timeline := by
  cases steps with
  | zero => rfl
  | succ steps => simp only [runWhile, still]

/-- The answer to a fix that an operator asked for is given to the operator. -/
theorem finishApplication_requested {application : Application}
    (requested : application.automatic = false) (others : List Application) (timeline : Timeline) :
    let executed := timeline.service.executeFix application.executionId application.fix
      application.begunAt
    timeline.finishApplication application others =
      { timeline with
        service := executed.1.move (.occupy (executed.1.monitor.applying - 1))
        applications := others
        lastApplication := some executed.2 } := by
  simp only [finishApplication, requested, Bool.false_eq_true, if_false]
  rfl

/-- Neither a cycle nor the schedule goes on. -/
structure Quiescent (timeline : Timeline) : Prop where
  cycle : timeline.cycle = none
  schedule : timeline.schedule = none

/-- Where only fixes are under way, the answer to the only one comes next. -/
theorem Quiescent.nextEvent?_single (quiescent : timeline.Quiescent) {application : Application}
    (pending : timeline.applications = [application]) :
    timeline.nextEvent? = some (application.due, finishApplication application []) := by
  simp only [nextEvent?, firstApplication?, pending, quiescent.cycle, quiescent.schedule]
  rfl

/-- Where nothing is under way, nothing comes next. -/
theorem Quiescent.nextEvent?_none (quiescent : timeline.Quiescent)
    (finished : timeline.applications = []) : timeline.nextEvent? = none := by
  simp only [nextEvent?, firstApplication?, finished, quiescent.cycle, quiescent.schedule]
  rfl

/-- An operator's request for a fix on a monitor with nothing else under way is served as a whole: the
fix is planned at once, and applied when the catalog answers. -/
theorem Quiescent.applyFix (quiescent : timeline.Quiescent) (idle : timeline.applications = [])
    (id : String) (approval : Approval) : ∃ executionId ran,
      ((timeline.applyFix id approval).1.service, (timeline.applyFix id approval).2) =
        timeline.service.applyLater id approval executionId timeline.now ran := by
  unfold Timeline.applyFix Service.applyLater
  obtain ⟨planned, error | fix⟩ := timeline.service.planFix id approval timeline.now
  · exact ⟨"", timeline.now, rfl⟩
  · let asked : Timeline := { timeline with service := planned }
    let submitted := asked.submit false fix
    let application : Application :=
      ⟨asked.tableFreeAt fix.table, asked.tableFreeAt fix.table + asked.executionTime, fix,
        asked.ids asked.nextId, false⟩
    let answering := submitted.setClock application.due
    have pending : submitted.applications = [application] := by
      show timeline.applications ++ [application] = [application]
      rw [idle, List.nil_append]
    have waiting : submitted.hasRequested = true := by
      rw [hasRequested, pending]
      rfl
    have answered : answering.service.executeFix application.executionId application.fix
        application.begunAt = ((planned.executeFix application.executionId application.fix
            application.begunAt).1.move (.occupy (planned.monitor.applying + 1)),
          (planned.executeFix application.executionId application.fix application.begunAt).2) :=
      Service.executeFix_occupy planned _ _ _ _
    have applying := planned.executeFix_applying application.executionId application.fix
      application.begunAt
    refine ⟨application.executionId, application.begunAt, ?_⟩
    show _ = planned.executeFix application.executionId application.fix application.begunAt
    generalize planned.executeFix application.executionId application.fix application.begunAt =
      executed at answered applying ⊢
    obtain ⟨service, result⟩ := executed
    have done : finishApplication application [] answering =
        { answering with service, applications := [], lastApplication := some result } := by
      have counted : service.move (.occupy planned.monitor.applying) = service := by
        rw [← applying]
        rfl
      rw [finishApplication_requested rfl, answered]
      exact congrArg (fun service : Service =>
        { answering with service, applications := [], lastApplication := some result }) counted
    -- The answer is the only event: nothing was under way before, and nothing is after it.
    have still : (finishApplication application [] answering).nextEvent? = none := by
      have last : Quiescent { answering with
          service, applications := [], lastApplication := some result } :=
        ⟨quiescent.cycle, quiescent.schedule⟩
      exact done ▸ last.nextEvent?_none rfl
    have asking : submitted.Quiescent := ⟨quiescent.cycle, quiescent.schedule⟩
    have steps : stepLimit = 999999 + 1 := rfl
    show ((submitted.runWhile (fun timeline _ => timeline.hasRequested) stepLimit).service,
      (submitted.runWhile (fun timeline _ => timeline.hasRequested) stepLimit).lastApplication.getD _) =
        (service, result)
    rw [steps, runWhile_next (asking.nextEvent?_single pending) waiting, runWhile_still _ still, done]
    rfl

end Timeline

namespace Service

/-- Whatever has happened to a monitor that starts with any issues, as long as its record can be
written: a request for any fix is accounted for, whenever the fix is planned and applied, and an
operator's request with nothing else under way is such a one. -/
theorem requestedFix_accounted (settings : Settings) (persisted : List Issue) (store : Store)
    (catalog : Catalog) (moves : List Move) (id : String) (approval : Approval)
    (writable : (after ⟨.ofIssues settings persisted, store, catalog⟩ moves).store.Writable) :
    let reached := after ⟨.ofIssues settings persisted, store, catalog⟩ moves
    (∀ executionId asked ran, Accounted id approval executionId asked ran reached
      (reached.applyLater id approval executionId asked ran)) ∧
    ∀ timeline : Timeline, timeline.service = reached → timeline.Quiescent →
      timeline.applications = [] → ∃ executionId ran,
        Accounted id approval executionId timeline.now ran reached
          ((timeline.applyFix id approval).1.service, (timeline.applyFix id approval).2) := by
  intro reached
  have known : KnownIssues reached.monitor.issues := known_after (KnownIssues.ofList persisted) moves
  have accounted := accounted_applyLater known writable id approval
  refine ⟨accounted, ?_⟩
  intro timeline same quiescent idle
  obtain ⟨executionId, ran, served⟩ := quiescent.applyFix idle id approval
  refine ⟨executionId, ran, ?_⟩
  rw [served, same]
  exact accounted executionId timeline.now ran

namespace Deployments

/-- A table is missing. -/
def missing : Issue :=
  .detected .missingTable "deployments" none (.ofSites 2 [] "2 call sites") default

/-- A monitor that knows the table to be missing, with a record in memory and no tables. -/
def aware : Service := ⟨.ofIssues .initial [missing], .empty, .empty "public" ⟨0⟩⟩

/-- An operator asks for the fix, which creates the table. -/
theorem requestedFix_accounted_missing :
    (aware.after []).store.Writable ∧
    ((aware.applyLater missing.id .automatic "execution" default default).2.toOption.map
      (·.success)) = some true ∧
    Accounted missing.id .automatic "execution" default default aware
      (aware.applyLater missing.id .automatic "execution" default default) := by
  have writable : (aware.after []).store.Writable := trivial
  exact ⟨writable, by decide +kernel,
    (requestedFix_accounted .initial [missing] .empty (.empty "public" ⟨0⟩) [] missing.id .automatic
      writable).1 "execution" default default⟩

end Deployments

end Service

end SchemaDrift
